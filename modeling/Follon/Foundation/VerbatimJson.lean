import Follon.Foundation.JsonReader

/-!
# JSON written without escapes

A printer that copies every string between quotation marks.  No text is
shorter than the shortest spelling of what it reads as, so what such a printer
writes reads back exactly when no character of it needs an escape.
-/

namespace Follon.Foundation.Json

/-! ## Spellings -/

/-- A character that stands for itself between quotation marks. -/
def isPlain (c : Char) : Bool := c != '"' && c != '\\' && decide (0x20 ≤ c.toNat)

def verbatim (c : Char) : List Char := [c]

def shortest (c : Char) : List Char :=
  if isPlain c then [c] else ['\\', c]

theorem isPlain_iff (c : Char) :
    isPlain c = true ↔ c ≠ '"' ∧ c ≠ '\\' ∧ 0x20 ≤ c.toNat := by
  simp [isPlain, and_assoc]

theorem length_shortest_le (c : Char) : (shortest c).length ≤ 2 := by
  unfold shortest
  split <;> simp

theorem length_shortest_of_isPlain {c : Char} (h : isPlain c = true) :
    (shortest c).length = 1 := by
  rw [shortest, if_pos h]
  rfl

/-! ## What a reader consumes -/

section

variable {α : Type}

def Consumes (item : List Char → Option (α × List Char)) (text : α → String) : Prop :=
  ∀ cs a rest, item cs = some (a, rest) → (text a).toList.length + rest.length ≤ cs.length

variable {rest cs : List Char} {items : List α}

theorem map_push_eq_some {c : Char} {read : Option (List Char × List Char)}
    {text : List Char} (h : read.map (push c) = some (text, rest)) :
    ∃ tail, read = some (tail, rest) ∧ text = c :: tail := by
  obtain ⟨⟨tail, rest'⟩, hread, hpush⟩ := map_eq_some_iff.mp h
  obtain ⟨rfl, rfl⟩ := Prod.mk.inj hpush
  exact ⟨tail, hread, rfl⟩

theorem length_readString {text : List Char} (h : readString cs = some (text, rest)) :
    (text.flatMap shortest).length + rest.length < cs.length := by
  fun_induction readString cs generalizing text rest with
  | case1 after =>
    obtain ⟨rfl, rfl⟩ := Prod.mk.inj (Option.some.inj h)
    simp
  | case2 a b c d after ih =>
    obtain ⟨character, -, hrest⟩ := bind_eq_some_iff.mp h
    obtain ⟨tail, hread, rfl⟩ := map_push_eq_some hrest
    have htail := ih hread
    have hcharacter := length_shortest_le character
    simp only [flatMap_cons, length_append, length_cons]
    omega
  | case3 letter after _ ih =>
    obtain ⟨character, -, hrest⟩ := bind_eq_some_iff.mp h
    obtain ⟨tail, hread, rfl⟩ := map_push_eq_some hrest
    have htail := ih hread
    have hcharacter := length_shortest_le character
    simp only [flatMap_cons, length_append, length_cons]
    omega
  | case4 c after hquote _ hslash hlow => contradiction
  | case5 c after hquote _ hslash hlow ih =>
    obtain ⟨tail, hread, rfl⟩ := map_push_eq_some h
    have hplain : isPlain c = true := by
      refine (isPlain_iff c).mpr ⟨hquote, ?_, by omega⟩
      rintro rfl
      cases after with
      | nil => contradiction
      | cons letter after => exact hslash letter after rfl rfl
    have htail := ih hread
    have hcharacter := length_shortest_of_isPlain hplain
    simp only [flatMap_cons, length_append, length_cons]
    omega
  | case6 => contradiction

theorem length_quote (escape : Char → List Char) (text : String) :
    (quote escape text).toList.length =
      (text.toList.flatMap escape).length + 2 := by
  simp [quote]

/-! ## Numbers -/

theorem length_readNat {n : Nat} (h : readNat cs = some (n, rest)) :
    (Nat.toDigits 10 n).length + rest.length ≤ cs.length := by
  have hsplit := congrArg List.length
    (List.takeWhile_append_dropWhile (p := isAsciiDigit) (l := cs))
  rw [length_append] at hsplit
  unfold readNat at h
  split at h
  · contradiction
  · next digit digits hdigits =>
      split at h
      · contradiction
      · obtain ⟨rfl, rfl⟩ := Prod.mk.inj (Option.some.inj h)
        have hall := @List.all_takeWhile _ isAsciiDigit cs
        rw [hdigits] at hall
        have hlimit := ofDigitChars_lt (all_eq_true.mp hall)
        have hlength := (Nat.length_toDigits_le_iff (by decide)
          (by simp)).mpr hlimit
        rw [hdigits] at hsplit
        omega

theorem length_readInt {n : Int} (h : readInt cs = some (n, rest)) :
    (toString n).toList.length + rest.length ≤ cs.length := by
  rw [toList_toString, length_append]
  unfold readInt at h
  split at h
  · next after =>
      split at h
      · next m after' hread =>
          split at h
          · contradiction
          · obtain ⟨rfl, rfl⟩ := Prod.mk.inj (Option.some.inj h)
            have hdigits := length_readNat hread
            rw [if_pos (by omega), Int.natAbs_neg, Int.natAbs_natCast]
            simp only [length_cons, List.length_nil]
            omega
      · contradiction
  · obtain ⟨⟨m, after⟩, hread, hpair⟩ := map_eq_some_iff.mp h
    obtain ⟨rfl, rfl⟩ := Prod.mk.inj hpair
    have hdigits := length_readNat hread
    rw [if_neg (by omega), Int.natAbs_natCast]
    simpa using hdigits

/-! ## Sequences -/

variable {item : List Char → Option (α × List Char)} {text : α → String}
  {close : Char}

theorem length_joinWith_cons (part : String) (parts : List String) :
    (joinWith "," (part :: parts)).toList.length = part.toList.length +
        if parts = [] then 0
        else (joinWith "," parts).toList.length + 1 := by
  cases parts with
  | nil => simp [joinWith]
  | cons next parts =>
    rw [joinWith_cons_cons, if_neg (List.cons_ne_nil _ _)]
    simp

theorem length_readItems (hitem : Consumes item text) {fuel : Nat}
    (h : readItems item close fuel cs = some (items, rest)) :
    items ≠ [] ∧ (joinWith "," (items.map text)).toList.length + 1 +
      rest.length ≤ cs.length := by
  induction fuel generalizing cs items with
  | zero => contradiction
  | succ fuel ih =>
    rw [readItems] at h
    split at h
    · next a c after hread =>
        have hfirst := hitem _ _ _ hread
        rw [length_cons] at hfirst
        split at h
        · obtain ⟨rfl, rfl⟩ := Prod.mk.inj (Option.some.inj h)
          rw [List.map_singleton, joinWith]
          exact ⟨List.cons_ne_nil _ _, by omega⟩
        · split at h
          · obtain ⟨⟨tail, after'⟩, htail, hpair⟩ :=
              map_eq_some_iff.mp h
            obtain ⟨rfl, rfl⟩ := Prod.mk.inj hpair
            obtain ⟨hne, hmore⟩ := ih htail
            rw [map_cons, length_joinWith_cons, if_neg (by simpa)]
            exact ⟨List.cons_ne_nil _ _, by omega⟩
          · contradiction
    · contradiction

theorem length_readSequence (hitem : Consumes item text)
    (h : readSequence item close cs = some (items, rest)) :
    (joinWith "," (items.map text)).toList.length + 1 + rest.length
      ≤ cs.length := by
  unfold readSequence at h
  split at h
  · next hhead =>
      obtain ⟨rfl, rfl⟩ := Prod.mk.inj (Option.some.inj h)
      obtain ⟨after, rfl⟩ := List.head?_eq_some_iff.mp hhead
      simp [joinWith]
      omega
  · exact (length_readItems hitem h).2

end

/-! ## Values -/

theorem consumes_readMember {value : List Char → Option (Json × List Char)}
    (hvalue : Consumes value (print shortest)) :
    Consumes (readMember value) (printMember shortest) := by
  intro cs member rest h
  unfold readMember at h
  split at h
  · next cs =>
      split at h
      · next name after hname =>
          obtain ⟨⟨body, after'⟩, hbody, hpair⟩ := map_eq_some_iff.mp h
          obtain ⟨rfl, rfl⟩ := Prod.mk.inj hpair
          have hstring := length_readString hname
          have hconsumed := hvalue _ _ _ hbody
          simp only [printMember, toList_append, length_append,
            length_quote, toList_ofList, length_cons] at *
          have hcolon : (":".toList : List Char).length = 1 := rfl
          omega
      · contradiction
  · contradiction

theorem length_of_take {cs word : List Char} {n : Nat} (h : cs.take n = word) :
    word.length + (cs.drop n).length = cs.length := by
  rw [← h, ← length_append, List.take_append_drop]

theorem consumes_readScalar : Consumes readScalar (print shortest) := by
  intro cs value rest h
  unfold readScalar at h
  split_ifs at h with hnull htrue hfalse
  · obtain ⟨rfl, rfl⟩ := Prod.mk.inj (Option.some.inj h)
    rw [print]
    exact (length_of_take hnull).le
  · obtain ⟨rfl, rfl⟩ := Prod.mk.inj (Option.some.inj h)
    rw [print]
    exact (length_of_take htrue).le
  · obtain ⟨rfl, rfl⟩ := Prod.mk.inj (Option.some.inj h)
    rw [print]
    exact (length_of_take hfalse).le
  · obtain ⟨⟨n, after⟩, hread, hpair⟩ := map_eq_some_iff.mp h
    obtain ⟨rfl, rfl⟩ := Prod.mk.inj hpair
    rw [print]
    exact length_readInt hread

theorem length_brackets (first body last : String) :
    (first ++ body ++ last).toList.length =
      first.toList.length + body.toList.length + last.toList.length := by
  simp [Nat.add_assoc]

theorem consumes_readValue (depth : Nat) :
    Consumes (readValue depth) (print shortest) := by
  induction depth with
  | zero =>
    intro cs value rest h
    contradiction
  | succ depth ih =>
    intro cs value rest h
    unfold readValue at h
    split at h
    · contradiction
    · next cs =>
        obtain ⟨⟨text, after⟩, hread, hpair⟩ := map_eq_some_iff.mp h
        obtain ⟨rfl, rfl⟩ := Prod.mk.inj hpair
        have hstring := length_readString hread
        rw [print, length_quote, toList_ofList, length_cons]
        omega
    · next left cs hleft =>
        obtain rfl := Nat.succ.inj hleft
        obtain ⟨⟨items, after⟩, hread, hpair⟩ := map_eq_some_iff.mp h
        obtain ⟨rfl, rfl⟩ := Prod.mk.inj hpair
        have hitems := length_readSequence ih hread
        have hfirst : ("[".toList : List Char).length = 1 := rfl
        have hlast : ("]".toList : List Char).length = 1 := rfl
        rw [print_arr, length_brackets, length_cons]
        omega
    · next left cs hleft =>
        obtain rfl := Nat.succ.inj hleft
        obtain ⟨⟨members, after⟩, hread, hpair⟩ := map_eq_some_iff.mp h
        obtain ⟨rfl, rfl⟩ := Prod.mk.inj hpair
        have hmembers := length_readSequence (consumes_readMember ih) hread
        have hfirst : ("\x7b".toList : List Char).length = 1 := rfl
        have hlast : ("\x7d".toList : List Char).length = 1 := rfl
        rw [print_obj, length_brackets, length_cons]
        omega
    · exact consumes_readScalar _ _ _ h

variable {value : Json} {α : Type}

theorem length_shortest_le_read {text : String} (h : read text = some value) :
    (print shortest value).toList.length ≤ text.toList.length := by
  unfold read at h
  split at h
  · next hread =>
      obtain rfl := Option.some.inj h
      exact consumes_readValue 127 _ _ _ hread
  · contradiction

/-! ## Verbatim texts -/

theorem flatMap_verbatim (text : List Char) : text.flatMap verbatim = text := by
  induction text with
  | nil => rfl
  | cons c text ih =>
    rw [flatMap_cons, ih]
    rfl

theorem quote_verbatim (text : String) : quote verbatim text = "\"" ++ text ++ "\"" := by
  rw [quote, flatMap_verbatim, String.ofList_toList]

theorem length_le_flatMap_shortest (text : List Char) :
    text.length ≤ (text.flatMap shortest).length ∧
      ((text.flatMap shortest).length ≤ text.length →
        text.all isPlain = true) := by
  induction text with
  | nil => simp
  | cons c text ih =>
    have hc : (shortest c).length = if isPlain c then 1 else 2 := by
      unfold shortest
      split <;> rfl
    obtain ⟨hle, hplain⟩ := ih
    simp only [flatMap_cons, length_append, length_cons,
      List.all_cons, and_eq_true, hc]
    split
    · next h =>
        exact ⟨by omega, fun hlength => ⟨h, hplain (by omega)⟩⟩
    · exact ⟨by omega, fun hlength => absurd hlength (by omega)⟩

/-- A text is no longer than another, and when it is not shorter `p` holds. -/
def Tight (short long : String) (p : Prop) : Prop :=
  short.toList.length ≤ long.toList.length ∧
    (long.toList.length ≤ short.toList.length → p)

theorem tight_joinWith {short long : α → String} {p : α → Prop}
    {items : List α} (h : ∀ a ∈ items, Tight (short a) (long a) (p a)) :
    Tight (joinWith "," (items.map short)) (joinWith "," (items.map long))
      (∀ a ∈ items, p a) := by
  induction items with
  | nil => exact ⟨le_rfl, fun _ a ha => absurd ha not_mem_nil⟩
  | cons a items ih =>
    rw [forall_mem_cons] at h
    obtain ⟨hle, hp⟩ := h.1
    obtain ⟨hles, hps⟩ := ih h.2
    unfold Tight
    simp only [map_cons, length_joinWith_cons, List.map_eq_nil_iff, forall_mem_cons]
    split
    · next hnil =>
        subst hnil
        exact ⟨by omega, fun hlength =>
          ⟨hp (by omega), fun b hb => absurd hb not_mem_nil⟩⟩
    · exact ⟨by omega, fun hlength => ⟨hp (by omega), hps (by omega)⟩⟩

theorem tight_quote (text : String) : Tight (quote verbatim text) (quote shortest text)
      (text.toList.all isPlain = true) := by
  obtain ⟨hle, hplain⟩ := length_le_flatMap_shortest text.toList
  unfold Tight
  rw [length_quote, length_quote, flatMap_verbatim]
  exact ⟨by omega, fun hlength => hplain (by omega)⟩

theorem tight_print (value : Json) : Tight (print verbatim value) (print shortest value)
      (value.all isPlain = true) := by
  induction value using induct with
  | null =>
    rw [print, print]
    exact ⟨le_rfl, fun _ => rfl⟩
  | bool value =>
    rw [print, print]
    exact ⟨le_rfl, fun _ => rfl⟩
  | num value =>
    rw [print, print]
    exact ⟨le_rfl, fun _ => rfl⟩
  | str value =>
    rw [print, print]
    exact tight_quote value
  | arr items ih =>
    obtain ⟨hle, hplain⟩ := tight_joinWith ih
    unfold Tight
    rw [print_arr, print_arr, length_brackets, length_brackets, all_arr, all_eq_true]
    exact ⟨by omega, fun hlength => hplain (by omega)⟩
  | obj members ih =>
    have hmembers : ∀ member ∈ members,
        Tight (printMember verbatim member) (printMember shortest member)
          ((member.1.toList.all isPlain && all isPlain member.2) = true) := by
      intro member hmember
      obtain ⟨hle, hplain⟩ := tight_quote member.1
      obtain ⟨hles, hplains⟩ := ih member hmember
      unfold Tight printMember
      rw [length_brackets, length_brackets, and_eq_true]
      exact ⟨by omega, fun hlength =>
        ⟨hplain (by omega), hplains (by omega)⟩⟩
    obtain ⟨hle, hplain⟩ := tight_joinWith hmembers
    unfold Tight
    rw [print_obj, print_obj, length_brackets, length_brackets, all_obj, all_eq_true]
    exact ⟨by omega, fun hlength => hplain (by omega)⟩

theorem print_verbatim (h : value.all isPlain = true) :
    print verbatim value = print compactChar value := by
  refine print_congr h fun c hc => ?_
  obtain ⟨hquote, hslash, hlow⟩ := (isPlain_iff c).mp hc
  have hne : ∀ d : Char, d.toNat < 0x20 → c ≠ d := by
    rintro d hd rfl
    omega
  rw [compactChar, if_neg hquote, if_neg hslash, if_neg (hne _ (by decide)),
    if_neg (hne _ (by decide)), if_neg (hne _ (by decide)),
    if_neg (hne _ (by decide)), if_neg (hne _ (by decide)),
    if_neg (by omega), verbatim]

def PlainText (text : String) : Prop := text.toList.all isPlain = true

instance (text : String) : Decidable (PlainText text) :=
  inferInstanceAs (Decidable (_ = true))

theorem plainText_append {first last : String} :
    PlainText (first ++ last) ↔ PlainText first ∧ PlainText last := by
  unfold PlainText
  rw [toList_append, List.all_append, and_eq_true]

theorem plainText_toString (n : Int) : PlainText (toString n) := by
  unfold PlainText
  rw [toList_toString, List.all_append, and_eq_true]
  constructor
  · split <;> rfl
  · rw [all_eq_true]
    intro c hc
    have hdigit := isAsciiDigit_of_mem_toDigits hc
    refine (isPlain_iff c).mpr ⟨?_, ?_, ?_⟩
    · rintro rfl
      contradiction
    · rintro rfl
      contradiction
    · simp only [isAsciiDigit, and_eq_true, decide_eq_true_eq] at hdigit
      have hlow : 48 ≤ c.toNat := hdigit.1
      omega

theorem all_obj_iff {members : List (String × Json)}
    (hnames : ∀ name ∈ members.map (·.1), PlainText name) :
    (Json.obj members).all isPlain = true ↔
      ∀ member ∈ members, member.2.all isPlain = true := by
  rw [all_obj, all_eq_true]
  refine forall₂_congr fun member hmember => ?_
  have hname : member.1.toList.all isPlain = true := hnames _ (mem_map_of_mem hmember)
  rw [hname, Bool.true_and]

theorem all_map_iff {document : α → Json} {items : List α} :
    (Json.arr (items.map document)).all isPlain = true ↔
      ∀ item ∈ items, (document item).all isPlain = true := by
  rw [all_arr, List.all_map, all_eq_true]
  rfl

/-- A text written without escapes reads back exactly when none was needed. -/
theorem read_print_verbatim (h : Nested 127 value) :
    read (print verbatim value) = some value ↔ value.all isPlain = true := by
  constructor
  · intro hread
    exact (tight_print value).2 (length_shortest_le_read hread)
  · intro hplain
    rw [print_verbatim hplain]
    exact read_print spells_compactChar h

end Follon.Foundation.Json
