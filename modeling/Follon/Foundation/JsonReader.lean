import Follon.Foundation.Json
import Follon.Foundation.OrderedMap
import Mathlib.Tactic.IntervalCases

/-!
# Reading JSON text

A reader of texts without white space and with integer numbers.  What is
printed with an encoder whose spellings read back is read back whole.
-/

namespace Follon.Foundation.Json

/-! ## Strings -/

def readHex (c : Char) : Option Nat :=
  if isAsciiDigit c = true then some (c.toNat - 48)
  else if 'a' ≤ c ∧ c ≤ 'f' then some (c.toNat - 87)
  else if 'A' ≤ c ∧ c ≤ 'F' then some (c.toNat - 55)
  else none

/-- The character of a `\u` escape, when it is one by itself. -/
def readCodePoint (a b c d : Char) : Option Char := do
  let high ← readHex a
  let upper ← readHex b
  let lower ← readHex c
  let low ← readHex d
  let n := ((high * 16 + upper) * 16 + lower) * 16 + low
  if n.isValidChar then some (Char.ofNat n) else none

def readShort : Char → Option Char
  | '"' => some '"'
  | '\\' => some '\\'
  | '/' => some '/'
  | 'b' => some (Char.ofNat 8)
  | 'f' => some (Char.ofNat 12)
  | 'n' => some '\n'
  | 'r' => some '\r'
  | 't' => some '\t'
  | _ => none

def push (c : Char) (rest : List Char × List Char) : List Char × List Char :=
  (c :: rest.1, rest.2)

def readString : List Char → Option (List Char × List Char)
  | '"' :: rest => some ([], rest)
  | '\\' :: 'u' :: a :: b :: c :: d :: rest => do
    let character ← readCodePoint a b c d
    (readString rest).map (push character)
  | '\\' :: letter :: rest => do
    let character ← readShort letter
    (readString rest).map (push character)
  | c :: rest =>
    if c.toNat < 0x20 then none else (readString rest).map (push c)
  | [] => none

def Spells (escape : Char → List Char) : Prop :=
  ∀ c rest, readString (escape c ++ rest) = (readString rest).map (push c)

/-! ## Numbers -/

def readNat (cs : List Char) : Option (Nat × List Char) :=
  match cs.takeWhile isAsciiDigit with
  | [] => none
  | digit :: digits =>
    if digit = '0' ∧ digits ≠ [] then none
    else some (Nat.ofDigitChars 10 (digit :: digits) 0, cs.dropWhile isAsciiDigit)

def readInt : List Char → Option (Int × List Char)
  | '-' :: cs =>
    match readNat cs with
    | some (n, rest) => if n = 0 then none else some (-(n : Int), rest)
    | none => none
  | cs => (readNat cs).map fun (n, rest) => ((n : Int), rest)

/-! ## Sequences -/

section Sequences

variable {α : Type}

def readItems (item : List Char → Option (α × List Char)) (close : Char) :
    Nat → List Char → Option (List α × List Char)
  | 0, _ => none
  | fuel + 1, cs =>
    match item cs with
    | some (a, c :: rest) =>
      if c = close then some ([a], rest)
      else if c = ',' then
        (readItems item close fuel rest).map fun (items, rest) =>
          (a :: items, rest)
      else none
    | _ => none

def readSequence (item : List Char → Option (α × List Char)) (close : Char)
    (cs : List Char) : Option (List α × List Char) :=
  if cs.head? = some close then some ([], cs.tail)
  else readItems item close cs.length cs

end Sequences

/-! ## Values -/

def readMember (value : List Char → Option (Json × List Char)) :
    List Char → Option ((String × Json) × List Char)
  | '"' :: cs =>
    match readString cs with
    | some (name, ':' :: rest) =>
      (value rest).map fun (value, rest) =>
        ((String.ofList name, value), rest)
    | _ => none
  | _ => none

def readScalar (cs : List Char) : Option (Json × List Char) :=
  if cs.take 4 = ['n', 'u', 'l', 'l'] then some (.null, cs.drop 4)
  else if cs.take 4 = ['t', 'r', 'u', 'e'] then some (.bool true, cs.drop 4)
  else if cs.take 5 = ['f', 'a', 'l', 's', 'e'] then
    some (.bool false, cs.drop 5)
  else (readInt cs).map fun (n, rest) => (.num n, rest)

def readValue : Nat → List Char → Option (Json × List Char)
  | 0, _ => none
  | _ + 1, '"' :: cs =>
    (readString cs).map fun (text, rest) => (.str (String.ofList text), rest)
  | depth + 1, '[' :: cs =>
    (readSequence (readValue depth) ']' cs).map fun (items, rest) =>
      (.arr items, rest)
  | depth + 1, '\x7b' :: cs =>
    (readSequence (readMember (readValue depth)) '\x7d' cs).map
      fun (members, rest) => (.obj members, rest)
  | _ + 1, cs => readScalar cs

def read (text : String) : Option Json :=
  match readValue 127 text.toList with
  | some (value, []) => some value
  | _ => none

/-- Values whose brackets are less than `depth` deep. -/
inductive Nested : Nat → Json → Prop
  | null {depth : Nat} : Nested (depth + 1) .null
  | bool {depth : Nat} (value : Bool) : Nested (depth + 1) (.bool value)
  | num {depth : Nat} (value : Int) : Nested (depth + 1) (.num value)
  | str {depth : Nat} (value : String) : Nested (depth + 1) (.str value)
  | arr {depth : Nat} {items : List Json}
      (h : ∀ item ∈ items, Nested depth item) : Nested (depth + 1) (.arr items)
  | obj {depth : Nat} {members : List (String × Json)}
      (h : ∀ member ∈ members, Nested depth member.2) :
      Nested (depth + 1) (.obj members)

/-! ## Depth -/

def isScalar : Json → Bool
  | .arr _ => false
  | .obj _ => false
  | _ => true

variable {depth n : Nat} {c : Char} {rest : List Char}
  {escape : Char → List Char}

theorem nested_of_isScalar {value : Json} (h : isScalar value = true)
    : Nested (depth + 1) value := by
  cases value with
  | null => exact .null
  | bool value => exact .bool value
  | num value => exact .num value
  | str value => exact .str value
  | arr items => contradiction
  | obj members => contradiction

theorem nested_record {members : List (String × Json)}
    (h : (members.all fun member => isScalar member.2) = true) :
    Nested (depth + 2) (.obj members) := by
  rw [all_eq_true] at h
  exact .obj fun member hmember => nested_of_isScalar (h member hmember)

theorem nested_map {α : Type} {document : α → Json}
    (h : ∀ item, Nested depth (document item)) (items : List α) :
    Nested (depth + 1) (.arr (items.map document)) := by
  refine .arr fun value hvalue => ?_
  obtain ⟨item, -, rfl⟩ := mem_map.mp hvalue
  exact h item

/-! ## Spellings -/

theorem readString_plain (hquote : c ≠ '"') (hslash : c ≠ '\\')
    (hplain : 0x20 ≤ c.toNat) :
    readString (c :: rest) = (readString rest).map (push c) := by
  rw [readString]
  · rw [if_neg (by omega)]
  · exact hquote
  · simp [hslash]
  · simp [hslash]

theorem readString_short {letter : Char} (hletter : letter ≠ 'u')
    (h : readShort letter = some c) :
    readString ('\\' :: letter :: rest) = (readString rest).map (push c) := by
  rw [readString]
  · rw [h]
    rfl
  · simp [hletter]

theorem readString_codePoint {a b d e : Char} (h : readCodePoint a b c d = some e) :
    readString ('\\' :: 'u' :: a :: b :: c :: d :: rest)
      = (readString rest).map (push e) := by
  rw [readString, h]
  rfl

theorem readCodePoint_hexDigits (c : Char) (hc : c.toNat < 0x100) :
    ∃ a b d e, hexDigits c.toNat = [a, b, d, e] ∧
      readCodePoint a b d e = some c := by
  have hall : ∀ n < 0x100, readCodePoint (Nat.digitChar (n / 4096 % 16))
      (Nat.digitChar (n / 256 % 16)) (Nat.digitChar (n / 16 % 16))
      (Nat.digitChar (n % 16)) = some (Char.ofNat n) := by
    decide +kernel
  refine ⟨_, _, _, _, rfl, ?_⟩
  rw [hall c.toNat hc, Char.ofNat_toNat]

def compactChar (c : Char) : List Char :=
  if c = '"' then ['\\', '"']
  else if c = '\\' then ['\\', '\\']
  else if c = Char.ofNat 8 then ['\\', 'b']
  else if c = '\t' then ['\\', 't']
  else if c = '\n' then ['\\', 'n']
  else if c = Char.ofNat 12 then ['\\', 'f']
  else if c = '\r' then ['\\', 'r']
  else if c.toNat < 0x20 then '\\' :: 'u' :: hexDigits c.toNat
  else [c]

theorem spells_compactChar : Spells compactChar := by
  intro c rest
  unfold compactChar
  split_ifs with hquote hslash hback htab hline hfeed hreturn hlow
  · rw [hquote]
    exact readString_short (by decide) rfl
  · rw [hslash]
    exact readString_short (by decide) rfl
  · rw [hback]
    exact readString_short (by decide) rfl
  · rw [htab]
    exact readString_short (by decide) rfl
  · rw [hline]
    exact readString_short (by decide) rfl
  · rw [hfeed]
    exact readString_short (by decide) rfl
  · rw [hreturn]
    exact readString_short (by decide) rfl
  · obtain ⟨a, b, d, e, hdigits, hread⟩ :=
      readCodePoint_hexDigits c (by omega)
    rw [hdigits]
    exact readString_codePoint hread
  · exact readString_plain hquote hslash (by omega)

theorem not_mem_compactChar (hc : c.toNat < 0x20) (d : Char) : c ∉ compactChar d := by
  have hplain : ∀ letters : List Char,
      (letters.all fun letter => 0x20 ≤ letter.toNat) = true →
        c ∉ letters := by
    intro letters hletters hmem
    have hletter := all_eq_true.mp hletters c hmem
    rw [decide_eq_true_eq] at hletter
    omega
  unfold compactChar
  split_ifs with _ _ _ _ _ _ _ hlow
  · exact hplain _ (by decide)
  · exact hplain _ (by decide)
  · exact hplain _ (by decide)
  · exact hplain _ (by decide)
  · exact hplain _ (by decide)
  · exact hplain _ (by decide)
  · exact hplain _ (by decide)
  · have hall : ∀ n < 0x20, ((hexDigits n).all fun letter =>
        0x20 ≤ letter.toNat) = true := by
      decide
    refine hplain _ ?_
    rw [List.all_cons, List.all_cons, hall d.toNat hlow]
    decide
  · intro hmem
    rw [mem_singleton] at hmem
    rw [hmem] at hc
    exact hlow hc

/-! ## Strings and numerals read back -/

theorem readString_quote (hspells : Spells escape) (text : List Char) (rest : List Char) :
    readString (text.flatMap escape ++ '"' :: rest) = some (text, rest) := by
  induction text with
  | nil => rfl
  | cons c text ih =>
    rw [flatMap_cons, append_assoc, hspells, ih]
    rfl

theorem takeWhile_digits {digits : List Char}
    (hdigits : ∀ c ∈ digits, isAsciiDigit c = true)
    (hrest : ∀ c ∈ rest.head?, isAsciiDigit c = false) :
    (digits ++ rest).takeWhile isAsciiDigit = digits ∧
      (digits ++ rest).dropWhile isAsciiDigit = rest := by
  rw [List.takeWhile_append_of_pos hdigits, List.dropWhile_append_of_pos hdigits]
  cases rest with
  | nil => simp
  | cons c rest => simp [hrest c rfl]

theorem head_toDigits (hn : 0 < n) : ∀ c ∈ (Nat.toDigits 10 n).head?, c ≠ '0' := by
  induction n using Nat.strongRecOn with
  | ind n ih =>
    rw [Nat.toDigits_eq_if (by decide)]
    split
    · next hlt =>
        intro c hc
        obtain rfl : n.digitChar = c := by simpa using hc
        interval_cases n <;> decide
    · next hge =>
        have hquotient : 0 < n / 10 := Nat.div_pos (by omega) (by decide)
        have hne : Nat.toDigits 10 (n / 10) ≠ [] := Nat.toDigits_ne_nil
        rw [List.head?_append_of_ne_nil _ hne]
        exact ih (n / 10) (by omega) hquotient

theorem readNat_toDigits (n : Nat) (hrest : ∀ c ∈ rest.head?, isAsciiDigit c = false) :
    readNat (Nat.toDigits 10 n ++ rest) = some (n, rest) := by
  have hdigits : ∀ c ∈ Nat.toDigits 10 n, isAsciiDigit c = true :=
    fun c => isAsciiDigit_of_mem_toDigits
  obtain ⟨htake, hdrop⟩ := takeWhile_digits hdigits hrest
  have hvalue : Nat.ofDigitChars 10 (Nat.toDigits 10 n) 0 = n :=
    Nat.ofDigitChars_ten_toDigits
  rw [readNat, htake, hdrop]
  cases hparts : Nat.toDigits 10 n with
  | nil => exact absurd hparts Nat.toDigits_ne_nil
  | cons digit digits =>
    rw [hparts] at hvalue
    have hplain : ¬(digit = '0' ∧ digits ≠ []) := by
      rintro ⟨hzero, hmore⟩
      rcases Nat.eq_zero_or_pos n with rfl | hn
      · rw [Nat.toDigits_zero] at hparts
        exact hmore (List.cons.inj hparts).2.symm
      · refine head_toDigits hn digit ?_ hzero
        rw [hparts]
        rfl
    simp only [if_neg hplain, hvalue]

theorem readInt_toString (n : Int) (hrest : ∀ c ∈ rest.head?, isAsciiDigit c = false) :
    readInt ((toString n).toList ++ rest) = some (n, rest) := by
  rw [toList_toString]
  by_cases hnegative : n < 0
  · rw [if_pos hnegative]
    have hne : n.natAbs ≠ 0 := by omega
    have hvalue : -(n.natAbs : Int) = n := by omega
    simp only [cons_append, nil_append, readInt,
      readNat_toDigits _ hrest, if_neg hne, hvalue]
  · rw [if_neg hnegative, nil_append]
    have hvalue : (n.natAbs : Int) = n := by omega
    unfold readInt
    split
    · next cs hcs =>
        have hread := readNat_toDigits n.natAbs hrest
        rw [hcs, readNat] at hread
        simp [isAsciiDigit] at hread
    · simp only [readNat_toDigits _ hrest, Option.map_some, hvalue]

/-! ## Sequences read back -/

section

variable {α : Type} {item : List Char → Option (α × List Char)}
  {text : α → String} {close : Char}

def ReadsBack (item : List Char → Option (α × List Char)) (text : α → String)
    (a : α) : Prop :=
  ∀ rest, (∀ c ∈ rest.head?, isAsciiDigit c = false) →
    item ((text a).toList ++ rest) = some (a, rest)

theorem joinWith_two (a b : α) (items : List α) (rest : List Char) :
    (joinWith "," ((a :: b :: items).map text)).toList ++ rest = (text a).toList ++ ',' ::
          ((joinWith "," ((b :: items).map text)).toList ++ rest) := by
  rw [map_cons, map_cons, joinWith_cons_cons, ← map_cons,
    toList_append, toList_append, append_assoc, append_assoc]
  rfl

variable {items : List α}

theorem readItems_joinWith (hne : items ≠ [])
    (hclose : isAsciiDigit close = false) (hcomma : close ≠ ',')
    (hitems : ∀ a ∈ items, ReadsBack item text a) {fuel : Nat}
    (hfuel : items.length ≤ fuel) (rest : List Char) : readItems item close fuel
        ((joinWith "," (items.map text)).toList ++ close :: rest)
      = some (items, rest) := by
  induction items generalizing fuel with
  | nil => contradiction
  | cons a items ih =>
    obtain ⟨ha, hrest⟩ := forall_mem_cons.mp hitems
    rw [length_cons] at hfuel
    obtain ⟨fuel, rfl⟩ : ∃ left, fuel = left + 1 := ⟨fuel - 1, by omega⟩
    cases items with
    | nil =>
      have hread := ha (close :: rest) (by simpa using hclose)
      simp only [map_cons, map_nil, joinWith, readItems, hread, if_pos]
    | cons b items =>
      have hread := ha (',' :: ((joinWith ","
        ((b :: items).map text)).toList ++ close :: rest)) (by simp; decide)
      have hmore := ih (List.cons_ne_nil b items) hrest
        (Nat.le_of_succ_le_succ hfuel)
      rw [joinWith_two]
      simp only [readItems, hread, if_neg hcomma.symm, if_true, hmore, Option.map_some]

theorem length_le_joinWith (parts : List String) :
    parts.length ≤ (joinWith "," parts).toList.length + 1 := by
  induction parts with
  | nil => simp
  | cons part rest ih =>
    cases rest with
    | nil => simp
    | cons next rest =>
      simp only [joinWith_cons_cons, toList_append,
        length_append, length_cons] at ih ⊢
      have hcomma : (",".toList : List Char).length = 1 := rfl
      omega

theorem item_joinWith {a : α} (items : List α)
    (hclose : isAsciiDigit close = false) (ha : ReadsBack item text a)
    (rest : List Char) : ∃ more, item ((joinWith "," ((a :: items).map text)).toList
      ++ close :: rest) = some (a, more) := by
  cases items with
  | nil => exact ⟨_, ha (close :: rest) (by simpa using hclose)⟩
  | cons b items =>
    rw [joinWith_two]
    exact ⟨_, ha _ (by simp; decide)⟩

theorem readSequence_joinWith (hclose : isAsciiDigit close = false)
    (hcomma : close ≠ ',') (hnone : ∀ cs, item (close :: cs) = none)
    (hitems : ∀ a ∈ items, ReadsBack item text a) (rest : List Char) :
    readSequence item close
        ((joinWith "," (items.map text)).toList ++ close :: rest)
      = some (items, rest) := by
  cases items with
  | nil => simp [readSequence, joinWith]
  | cons a items =>
    obtain ⟨more, hfirst⟩ :=
      item_joinWith items hclose (hitems a mem_cons_self) rest
    have hlength := length_le_joinWith ((a :: items).map text)
    have hfuel : (a :: items).length
        ≤ ((joinWith "," ((a :: items).map text)).toList
          ++ close :: rest).length := by
      rw [List.length_map] at hlength
      rw [length_append, length_cons (a := close)]
      omega
    have hread := readItems_joinWith (List.cons_ne_nil a items) hclose hcomma
      hitems hfuel rest
    rw [readSequence, if_neg, hread]
    intro hhead
    obtain ⟨cs, hcs⟩ := List.head?_eq_some_iff.mp hhead
    rw [hcs, hnone] at hfirst
    contradiction

end

/-! ## Values read back -/

section

variable {escape : Char → List Char}

variable {c : Char} {cs : List Char} {depth : Nat} {value : Json}

theorem readScalar_of_head (hn : c ≠ 'n') (ht : c ≠ 't') (hf : c ≠ 'f') :
    readScalar (c :: cs) = (readInt (c :: cs)).map fun (n, rest) =>
      (.num n, rest) := by
  simp [readScalar, hn, ht, hf]

theorem readValue_scalar (hquote : c ≠ '"') (harray : c ≠ '[') (hobject : c ≠ '\x7b') :
    readValue (depth + 1) (c :: cs) = readScalar (c :: cs) := by
  simp [readValue, hquote, harray, hobject]

theorem readValue_close (depth : Nat) (cs : List Char) :
    readValue depth (']' :: cs) = none := by
  cases depth with
  | zero => rfl
  | succ depth =>
    rw [readValue_scalar (by decide) (by decide) (by decide),
      readScalar_of_head (by decide) (by decide) (by decide)]
    rfl

theorem readsBack_num (depth : Nat) (n : Int) :
    ReadsBack (readValue (depth + 1)) (print escape) (.num n) := by
  intro rest hrest
  have hread := readInt_toString n hrest
  have hhead : ∃ c cs, (toString n).toList ++ rest = c :: cs ∧
      (isAsciiDigit c = true ∨ c = '-') := by
    rw [toList_toString]
    split
    · exact ⟨'-', _, rfl, .inr rfl⟩
    · cases hdigits : Nat.toDigits 10 n.natAbs with
      | nil => exact absurd hdigits Nat.toDigits_ne_nil
      | cons c cs =>
        refine ⟨c, cs ++ rest, rfl, .inl ?_⟩
        refine isAsciiDigit_of_mem_toDigits (n := n.natAbs) ?_
        rw [hdigits]
        exact mem_cons_self
  obtain ⟨c, cs, hcs, hc⟩ := hhead
  rw [hcs] at hread
  have hplain : ∀ d, isAsciiDigit d = false → d ≠ '-' → c ≠ d := by
    rintro d hd hminus rfl
    rcases hc with hc | hc
    · rw [hd] at hc
      contradiction
    · exact hminus hc
  rw [print, hcs,
    readValue_scalar (hplain _ (by decide) (by decide))
      (hplain _ (by decide) (by decide)) (hplain _ (by decide) (by decide)),
    readScalar_of_head (hplain _ (by decide) (by decide))
      (hplain _ (by decide) (by decide)) (hplain _ (by decide) (by decide)),
    hread]
  rfl

theorem toList_quote (text : String) (rest : List Char) :
    (quote escape text).toList ++ rest
      = '"' :: (text.toList.flatMap escape ++ '"' :: rest) := by
  simp [quote]

theorem readMember_print (hspells : Spells escape)
    {value : List Char → Option (Json × List Char)} {member : String × Json}
    (h : ReadsBack value (print escape) member.2) :
    ReadsBack (readMember value) (printMember escape) member := by
  intro rest hrest
  rw [printMember, toList_append, toList_append,
    append_assoc, append_assoc, toList_quote]
  change readMember value ('"' :: (member.1.toList.flatMap escape ++ '"' ::
    ':' :: ((print escape member.2).toList ++ rest))) = _
  simp only [readMember, readString_quote hspells, h rest hrest,
    Option.map_some, String.ofList_toList]

theorem readValue_print (hspells : Spells escape) (h : Nested depth value) :
    ReadsBack (readValue depth) (print escape) value := by
  induction h with
  | null =>
    intro rest _
    rw [print]
    rfl
  | bool value =>
    intro rest _
    rw [print]
    cases value with
    | false => rfl
    | true => rfl
  | num value => exact readsBack_num _ value
  | str value =>
    intro rest _
    rw [print, toList_quote]
    simp only [readValue, readString_quote hspells, Option.map_some, String.ofList_toList]
  | @arr depth items h ih =>
    intro rest _
    rw [print_arr, toList_append, toList_append, append_assoc, append_assoc]
    change readValue (depth + 1) ('[' ::
      ((joinWith "," (items.map (print escape))).toList ++ ']' :: rest)) = _
    simp only [readValue, readSequence_joinWith (by decide) (by decide)
      (readValue_close depth) ih, Option.map_some]
  | @obj depth members h ih =>
    intro rest _
    rw [print_obj, toList_append, toList_append, append_assoc, append_assoc]
    change readValue (depth + 1) ('\x7b' ::
      ((joinWith "," (members.map (printMember escape))).toList ++ '\x7d' :: rest)) = _
    have hclose : ∀ cs, readMember (readValue depth) ('\x7d' :: cs) = none :=
      fun _ => rfl
    have hmembers : ∀ member ∈ members, ReadsBack
        (readMember (readValue depth)) (printMember escape) member :=
      fun member hmember => readMember_print hspells (ih member hmember)
    simp only [readValue, readSequence_joinWith (by decide) (by decide) hclose
      hmembers, Option.map_some]

theorem read_print (hspells : Spells escape) (h : Nested 127 value)
    : read (print escape value) = some value := by
  have hread := readValue_print hspells h [] (by simp)
  rw [append_nil] at hread
  rw [read, hread]

end

/-! ## Maps of texts -/

def ofTexts (texts : OrderedMap String String) : Json :=
  .obj (texts.toList.map fun entry => (entry.1, .str entry.2))

def textMembers : List (String × Json) → Option (List (String × String))
  | [] => some []
  | (name, .str value) :: rest => (textMembers rest).map ((name, value) :: ·)
  | _ => none

def texts (members : List (String × Json)) : Option (OrderedMap String String) :=
  (textMembers members).map fun entries =>
    Std.ExtTreeMap.ofList entries compare

theorem textMembers_map (entries : List (String × String)) :
    textMembers (entries.map fun entry => (entry.1, .str entry.2))
      = some entries := by
  induction entries with
  | nil => rfl
  | cons entry rest ih =>
    rw [map_cons, textMembers, ih]
    rfl

theorem texts_ofTexts (map : OrderedMap String String) :
    texts (map.toList.map fun entry => (entry.1, .str entry.2))
      = some map := by
  rw [texts, textMembers_map, Option.map_some, OrderedMap.ofList_toList]

theorem nested_ofTexts (depth : Nat) (map : OrderedMap String String) :
    Nested (depth + 2) (ofTexts map) := by
  apply Nested.obj
  intro member hmember
  obtain ⟨entry, _, rfl⟩ := mem_map.mp hmember
  exact .str _

theorem print_ofTexts_inj (hspells : Spells escape) {map map' : OrderedMap String String}
    (h : print escape (ofTexts map) = print escape (ofTexts map')) : map = map' := by
  have hread := congrArg read h
  rw [read_print hspells (nested_ofTexts 125 map),
    read_print hspells (nested_ofTexts 125 map'), Option.some.injEq, ofTexts,
    ofTexts, Json.obj.injEq] at hread
  have htexts := congrArg texts hread
  rw [texts_ofTexts, texts_ofTexts] at htexts
  exact Option.some.inj htexts

theorem toString_nat_inj {m : Nat}
    (h : toString (n : Int) = toString (m : Int)) : n = m := by
  have hprint : print compactChar (.num n) = print compactChar (.num m) := by
    rw [print, print]
    exact h
  have hread := congrArg read hprint
  rw [read_print spells_compactChar (.num _),
    read_print spells_compactChar (.num _), Option.some.injEq, Json.num.injEq,
    Int.natCast_inj] at hread
  exact hread

end Follon.Foundation.Json
