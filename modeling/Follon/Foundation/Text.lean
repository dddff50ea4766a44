import Mathlib.Data.List.Induction
import Mathlib.Algebra.Group.Nat.Defs

/-!
# Text

The string operations the modelled programs call: trimming of Unicode white
space, byte lengths, and zero-padded decimal numerals together with the fact
that reading a printed numeral gives the number back.
-/

namespace Follon.Foundation

def isWhiteSpace (c : Char) : Bool :=
  let n := c.toNat
  (9 ≤ n && n ≤ 13) || n == 0x20 || n == 0x85 || n == 0xA0 || n == 0x1680 ||
    (0x2000 ≤ n && n ≤ 0x200A) || n == 0x2028 || n == 0x2029 ||
    n == 0x202F || n == 0x205F || n == 0x3000

def trimChars (cs : List Char) : List Char :=
  ((cs.dropWhile isWhiteSpace).reverse.dropWhile isWhiteSpace).reverse

def trim (text : String) : String := String.ofList (trimChars text.toList)

def isBlank (text : String) : Bool := text.toList.all isWhiteSpace

/-- The numeral of `n`, padded on the left with zeros to `width` digits. -/
def zeroPadded (width n : Nat) : List Char :=
  let digits := Nat.toDigits 10 n
  List.replicate (width - digits.length) '0' ++ digits

/-- The lowercase hexadecimal numeral of `n` on four digits. -/
def hexDigits (n : Nat) : List Char :=
  [n / 4096 % 16, n / 256 % 16, n / 16 % 16, n % 16].map Nat.digitChar

def isAsciiDigit (c : Char) : Bool := '0' ≤ c && c ≤ '9'

def joinWith (separator : String) : List String → String
  | [] => ""
  | [part] => part
  | part :: rest => part ++ separator ++ joinWith separator rest

def dropReturn (line : List Char) : List Char :=
  if line.getLast? = some '\r' then line.dropLast else line

def splitLines : List Char → List Char → List String
  | [], [] => []
  | current, [] => [String.ofList current]
  | current, '\n' :: rest =>
    String.ofList (dropReturn current) :: splitLines [] rest
  | current, c :: rest => splitLines (current ++ [c]) rest

def lines (text : String) : List String := splitLines [] text.toList

def Terminated (text : String) : Prop := text = "" ∨ ∃ before, text = before ++ "\n"

/-- `str::split` at a character, after the characters of a piece so far. -/
def splitAtChar (separator : Char) : List Char → List Char → List String
  | piece, [] => [String.ofList piece.reverse]
  | piece, c :: rest =>
    if c = separator then
      String.ofList piece.reverse :: splitAtChar separator [] rest
    else splitAtChar separator (c :: piece) rest

def startsWithChars : List Char → List Char → Bool
  | [], _ => true
  | _ :: _, [] => false
  | c :: pattern, d :: text => c == d && startsWithChars pattern text

def holdsChars (pattern : List Char) : List Char → Bool
  | [] => startsWithChars pattern []
  | c :: text => startsWithChars pattern (c :: text) || holdsChars pattern text

def holdsText (pattern text : String) : Bool := holdsChars pattern.toList text.toList

def endsWithText (pattern text : String) : Bool :=
  startsWithChars pattern.toList.reverse text.toList.reverse

def eightDigits (n : Nat) : String := String.ofList (zeroPadded 8 n)

/-! ## Trimming -/

theorem trimChars_of_ends {cs : List Char}
    (hhead : ∀ c ∈ cs.head?, isWhiteSpace c = false)
    (hlast : ∀ c ∈ cs.getLast?, isWhiteSpace c = false) : trimChars cs = cs := by
  have hfront : cs.dropWhile isWhiteSpace = cs := by
    cases cs with
    | nil => rfl
    | cons c rest => simp [hhead c (by simp)]
  have hback : cs.reverse.dropWhile isWhiteSpace = cs.reverse := by
    cases hrev : cs.reverse with
    | nil => rfl
    | cons c rest =>
      have hc : isWhiteSpace c = false := by
        apply hlast
        rw [← List.head?_reverse, hrev]
        simp
      simp [hc]
  simp [trimChars, hfront, hback]

/-! ## Numerals -/

theorem isAsciiDigit_eq_isDigit (c : Char) : isAsciiDigit c = c.isDigit := by
  simp [isAsciiDigit, Char.isDigit, Char.le_def]

variable {n : Nat} {c : Char} {digits : List Char}

theorem isAsciiDigit_of_mem_toDigits (hc : c ∈ Nat.toDigits 10 n)
    : isAsciiDigit c = true := by
  rw [isAsciiDigit_eq_isDigit]
  exact Nat.isDigit_of_mem_toDigits (by decide) (by decide) hc

theorem isAsciiDigit_of_mem_zeroPadded {width n : Nat} {c : Char}
    (hc : c ∈ zeroPadded width n) : isAsciiDigit c = true := by
  simp only [zeroPadded, List.mem_append, List.mem_replicate] at hc
  rcases hc with ⟨-, rfl⟩ | hc
  · decide
  · exact isAsciiDigit_of_mem_toDigits hc

theorem length_zeroPadded {width : Nat} (hwidth : 0 < width)
    (hn : n < 10 ^ width) : (zeroPadded width n).length = width := by
  have hle := (Nat.length_toDigits_le_iff (b := 10) (n := n) (by decide)
    hwidth).mpr hn
  simp only [zeroPadded, List.length_append, List.length_replicate]
  omega

@[simp] theorem ofDigitChars_zeroPadded (width n : Nat) :
    Nat.ofDigitChars 10 (zeroPadded width n) 0 = n := by
  simp [zeroPadded, Nat.ofDigitChars_append, Nat.ofDigitChars_replicate_zero,
    Nat.ofDigitChars_ten_toDigits]

theorem zeroPadded_injective (width : Nat) : Function.Injective (zeroPadded width) := by
  intro m n h
  rw [← ofDigitChars_zeroPadded width m, h, ofDigitChars_zeroPadded]

theorem digitChar_of_isAsciiDigit (h : isAsciiDigit c = true) :
    ∃ n < 10, c = Nat.digitChar n := by
  simp only [isAsciiDigit, Bool.and_eq_true, decide_eq_true_eq] at h
  have hlow : 48 ≤ c.toNat := h.1
  have hhigh : c.toNat ≤ 57 := h.2
  refine ⟨c.toNat - 48, by omega, Char.toNat_inj.mp ?_⟩
  rw [Nat.toNat_digitChar_of_lt_ten (by omega)]
  omega

theorem ofDigitChars_lt (h : ∀ c ∈ digits, isAsciiDigit c = true) :
    Nat.ofDigitChars 10 digits 0 < 10 ^ digits.length := by
  induction digits with
  | nil => simp
  | cons c digits ih =>
    obtain ⟨hc, hdigits⟩ := List.forall_mem_cons.mp h
    obtain ⟨n, hn, rfl⟩ := digitChar_of_isAsciiDigit hc
    have hrest := ih hdigits
    have hle := Nat.mul_le_mul_left (10 ^ digits.length) (Nat.le_of_lt_succ hn)
    rw [Nat.ofDigitChars_cons_digitChar_of_lt_ten hn, Nat.mul_zero, Nat.zero_add,
      Nat.ofDigitChars_eq_ofDigitChars_zero, List.length_cons, Nat.pow_succ]
    omega

theorem toDigits_ofDigitChars (hdigits : ∀ c ∈ digits, isAsciiDigit c = true)
    (hsome : digits ≠ []) (hhead : digits.head? = some '0' → digits = ['0']) :
    Nat.toDigits 10 (Nat.ofDigitChars 10 digits 0) = digits := by
  induction digits using List.reverseRecOn with
  | nil => exact absurd rfl hsome
  | append_singleton init c ih =>
    obtain ⟨n, hn, rfl⟩ := digitChar_of_isAsciiDigit (hdigits c (by simp))
    have hinit : ∀ c ∈ init, isAsciiDigit c = true := fun c hmem =>
      hdigits c (List.mem_append_left _ hmem)
    rw [Nat.ofDigitChars_append, Nat.ofDigitChars_cons_digitChar_of_lt_ten hn,
      Nat.ofDigitChars_nil]
    by_cases hempty : init = []
    · subst hempty
      rw [Nat.ofDigitChars_nil, Nat.mul_zero, Nat.zero_add, Nat.toDigits_of_lt_base hn]
      rfl
    · have hfirst : init.head? ≠ some '0' := by
        intro hzero
        have hwhole := congrArg List.length (hhead (by
          rw [List.head?_append, hzero]
          rfl))
        rw [List.length_append] at hwhole
        exact hempty (List.length_eq_zero_iff.mp (by simpa using hwhole))
      have hsame := ih hinit hempty fun hzero => absurd hzero hfirst
      have hpositive : 0 < Nat.ofDigitChars 10 init 0 := by
        refine Nat.pos_of_ne_zero fun hzero => hfirst ?_
        rw [← hsame, hzero]
        rfl
      rw [← Nat.toDigits_append_toDigits (by decide) hpositive hn, hsame,
        Nat.toDigits_of_lt_base hn]

theorem zeroPadded_ofDigitChars (hdigits : ∀ c ∈ digits, isAsciiDigit c = true)
    (hsome : digits ≠ []) :
    zeroPadded digits.length (Nat.ofDigitChars 10 digits 0) = digits := by
  induction digits with
  | nil => exact absurd rfl hsome
  | cons c rest ih =>
    obtain ⟨hc, hrest⟩ := List.forall_mem_cons.mp hdigits
    by_cases hzero : c = '0' ∧ rest ≠ []
    · obtain ⟨rfl, hne⟩ := hzero
      have hlength : (Nat.toDigits 10 (Nat.ofDigitChars 10 rest 0)).length
          ≤ rest.length := by
        have hpadded := congrArg List.length (ih hrest hne)
        rw [zeroPadded, List.length_append, List.length_replicate] at hpadded
        omega
      have hpad := ih hrest hne
      rw [zeroPadded] at hpad ⊢
      rw [Nat.ofDigitChars_cons, Nat.sub_self, Nat.mul_zero, Nat.add_zero,
        List.length_cons, Nat.succ_sub hlength, List.replicate_succ,
        List.cons_append, hpad]
    · have hsame := toDigits_ofDigitChars hdigits hsome (by
        rintro ⟨⟩
        rw [not_and_not_right.mp hzero rfl])
      rw [zeroPadded, hsame, Nat.sub_self]
      rfl

/-! ## Pieces -/

theorem mem_splitAtChar (separator : Char) (text : List Char)
    (piece : List Char) (h : c ∈ piece ∨ c ∈ text) :
    c = separator ∨ ∃ part ∈ splitAtChar separator piece text,
      c ∈ part.toList := by
  induction text generalizing piece with
  | nil =>
    refine .inr ⟨String.ofList piece.reverse, List.mem_singleton_self _, ?_⟩
    simpa using h
  | cons d rest ih =>
    rw [splitAtChar]
    split
    · rename_i hseparator
      have hcases : c ∈ piece ∨ c = d ∨ c ∈ rest := by simpa using h
      obtain hpiece | rfl | hrest := hcases
      · refine .inr ⟨_, List.mem_cons_self, ?_⟩
        simpa using hpiece
      · exact .inl hseparator
      · obtain hsame | ⟨part, hpart, hc⟩ := ih [] (.inr hrest)
        · exact .inl hsame
        · exact .inr ⟨part, List.mem_cons_of_mem _ hpart, hc⟩
    · apply ih
      simp only [List.mem_cons] at h ⊢
      tauto

/-! ## Lines -/

theorem splitLines_append (current before after : List Char) :
    splitLines current (before ++ '\n' :: after)
      = splitLines current (before ++ ['\n']) ++ splitLines [] after := by
  induction before generalizing current with
  | nil => simp [splitLines]
  | cons c before ih =>
    by_cases hc : c = '\n'
    · subst hc
      simp only [List.cons_append, splitLines, ih]
    · simp only [List.cons_append, splitLines, ih]

theorem splitLines_line {current line : List Char} (hline : '\n' ∉ line) :
    splitLines current (line ++ ['\n'])
      = [String.ofList (dropReturn (current ++ line))] := by
  induction line generalizing current with
  | nil => simp [splitLines]
  | cons c line ih =>
    rw [List.mem_cons, not_or] at hline
    rw [List.cons_append, splitLines, ih hline.2, List.append_assoc]
    · rfl
    · exact fun h => hline.1 h.symm

theorem lines_append {text line : String} (htext : Terminated text)
    (hfeed : '\n' ∉ line.toList) (hreturn : '\r' ∉ line.toList) :
    lines (text ++ line ++ "\n") = lines text ++ [line] := by
  have hkept : dropReturn line.toList = line.toList := by
    rw [dropReturn, if_neg]
    exact fun hlast => hreturn (List.mem_of_getLast? hlast)
  have hline : splitLines [] (line.toList ++ ['\n']) = [line] := by
    rw [splitLines_line hfeed, List.nil_append, hkept, String.ofList_toList]
  rcases htext with rfl | ⟨before, rfl⟩
  · simp only [lines, String.toList_append]
    exact hline
  · have hsplit := splitLines_append [] before.toList (line.toList ++ ['\n'])
    rw [hline] at hsplit
    simp only [lines, String.toList_append, List.append_assoc]
    exact hsplit

/-! ## Separators -/

theorem joinWith_cons_cons (separator part next : String) (rest : List String) :
    joinWith separator (part :: next :: rest)
      = part ++ separator ++ joinWith separator (next :: rest) :=
  rfl

theorem not_mem_joinWith {separator : String} {parts : List String}
    (hseparator : c ∉ separator.toList) (hparts : ∀ part ∈ parts, c ∉ part.toList) :
    c ∉ (joinWith separator parts).toList := by
  induction parts with
  | nil => simp [joinWith]
  | cons head rest ih =>
    obtain ⟨hhead, hrest⟩ := List.forall_mem_cons.mp hparts
    cases rest with
    | nil => exact hhead
    | cons next rest =>
      rw [joinWith_cons_cons, String.toList_append, String.toList_append,
        List.mem_append, List.mem_append]
      rintro ((hc | hc) | hc)
      · exact hhead hc
      · exact hseparator hc
      · exact ih hrest hc

theorem append_cons_inj {α : Type} {before before' after after' : List α}
    {separator : α} (hnone : separator ∉ after) (hnone' : separator ∉ after')
    (h : before ++ separator :: after = before' ++ separator :: after') :
    before = before' ∧ after = after' := by
  rcases List.append_eq_append_iff.mp h with
    ⟨middle, hbefore, hafter⟩ | ⟨middle, hbefore, hafter⟩
  · cases middle with
    | nil =>
      rw [List.append_nil] at hbefore
      exact ⟨hbefore.symm, (List.cons.inj hafter).2⟩
    | cons c rest =>
      refine absurd ?_ hnone
      rw [(List.cons.inj hafter).2]
      simp
  · cases middle with
    | nil =>
      rw [List.append_nil] at hbefore
      exact ⟨hbefore, (List.cons.inj hafter).2.symm⟩
    | cons c rest =>
      refine absurd ?_ hnone'
      rw [(List.cons.inj hafter).2]
      simp

export List (all_eq_true append_assoc append_nil cons_append filterMap_append
  filter_append flatMap_cons foldlM_cons forall_mem_cons length_append length_cons
  map_append map_cons map_map map_nil mem_append mem_append_left mem_append_right
  mem_cons mem_cons_of_mem mem_cons_self mem_filter mem_map mem_map_of_mem
  mem_singleton nil_append nodup_cons not_mem_nil pairwise_append pairwise_cons
  pairwise_map sum_cons)

export Bool (and_eq_true not_eq_false not_eq_true or_eq_true)
export String (toList_append toList_inj toList_injective toList_ofList)
export Option (bind_eq_bind bind_eq_some_iff bind_some filter_eq_some_iff getD_some
  isSome_iff_exists map_eq_some_iff)

end Follon.Foundation
