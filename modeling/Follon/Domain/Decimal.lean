import Follon.Domain.Failure
import Follon.Foundation.Text
import Mathlib.Tactic.Linarith

/-!
# Fixed-point decimal arithmetic

A decimal is an `i128` scaled by `10 ^ 8`.  The range is a field of the
structure, so a value outside it cannot be built and every operation checks.
-/

namespace Follon.Domain

open Foundation

def i128Max : Int := 2 ^ 127 - 1

def i128Min : Int := -2 ^ 127

structure Decimal where
  scaled : Int
  min_le : i128Min ≤ scaled
  le_max : scaled ≤ i128Max
  deriving DecidableEq

namespace Decimal

def scale : Int := 100000000

variable {a b d : Decimal} {digits : List Char}

theorem ext (h : a.scaled = b.scaled) : a = b := by
  cases a
  cases b
  simp_all

theorem scaled_inj : a.scaled = b.scaled ↔ a = b := ⟨ext, congrArg scaled⟩

/-- The decimal with this scaled value, when an `i128` holds it. -/
def ofScaled? (value : Int) : Option Decimal :=
  if h : i128Min ≤ value ∧ value ≤ i128Max then
    some ⟨value, h.1, h.2⟩
  else
    none

/-- `checked_*` on the scaled values, with the text of the failure. -/
def checked (value : Int) (message : String) : Result Decimal :=
  match ofScaled? value with
  | some d => .ok d
  | none => .error ⟨message⟩

def zero : Decimal := ⟨0, by decide, by decide⟩

def ulp : Decimal := ⟨1, by decide, by decide⟩

def twoUlps : Decimal := ⟨2, by decide, by decide⟩

def one : Decimal := ⟨100000000, by decide, by decide⟩

def two : Decimal := ⟨200000000, by decide, by decide⟩

def three : Decimal := ⟨300000000, by decide, by decide⟩

def five : Decimal := ⟨500000000, by decide, by decide⟩

def ten : Decimal := ⟨1000000000, by decide, by decide⟩

def twenty : Decimal := ⟨2000000000, by decide, by decide⟩

def hundred : Decimal := ⟨10000000000, by decide, by decide⟩

def least : Decimal := ⟨i128Min, by decide, by decide⟩

def greatest : Decimal := ⟨i128Max, by decide, by decide⟩

instance : Inhabited Decimal := ⟨zero⟩

instance : LE Decimal := ⟨fun a b => a.scaled ≤ b.scaled⟩

instance : LT Decimal := ⟨fun a b => a.scaled < b.scaled⟩

instance (a b : Decimal) : Decidable (a ≤ b) :=
  inferInstanceAs (Decidable (a.scaled ≤ b.scaled))

instance (a b : Decimal) : Decidable (a < b) :=
  inferInstanceAs (Decidable (a.scaled < b.scaled))

theorem le_def : a ≤ b ↔ a.scaled ≤ b.scaled := Iff.rfl

theorem lt_def : a < b ↔ a.scaled < b.scaled := Iff.rfl

@[simp] theorem scaled_zero : zero.scaled = 0 := rfl

def fromInteger (value : Int) : Result Decimal :=
  checked (value * scale) "integer decimal overflow"

def checkedAdd (a b : Decimal) : Result Decimal :=
  checked (a.scaled + b.scaled) "decimal addition overflow"

def checkedSub (a b : Decimal) : Result Decimal :=
  checked (a.scaled - b.scaled) "decimal subtraction overflow"

def checkedMul (a b : Decimal) : Result Decimal := do
  let product ←
    checked (a.scaled * b.scaled) "decimal multiplication overflow"
  checked (product.scaled.tdiv scale) "decimal multiplication overflow"

def checkedDiv (a b : Decimal) : Result Decimal := do
  refuseIf (b.scaled = 0) "division by zero"
  let product ← checked (a.scaled * scale) "decimal division overflow"
  checked (product.scaled.tdiv b.scaled) "decimal division overflow"

protected def min (a b : Decimal) : Decimal :=
  if b < a then b else a

protected def max (a b : Decimal) : Decimal :=
  if a < b then b else a

theorem scaled_min (a b : Decimal) : (a.min b).scaled = min a.scaled b.scaled := by
  unfold Decimal.min
  split
  · next h => exact (min_eq_right (Int.le_of_lt h)).symm
  · next h => exact (min_eq_left (Int.not_lt.mp h)).symm

theorem scaled_max (a b : Decimal) : (a.max b).scaled = max a.scaled b.scaled := by
  unfold Decimal.max
  split
  · next h => exact (max_eq_right (Int.le_of_lt h)).symm
  · next h => exact (max_eq_left (Int.not_lt.mp h)).symm

/-! ## What the checked operations return -/

theorem ofScaled?_eq_some {value : Int} :
    ofScaled? value = some d ↔ d.scaled = value := by
  unfold ofScaled?
  constructor
  · intro h
    split at h
    · simp only [Option.some.injEq] at h
      rw [← h]
    · contradiction
  · rintro rfl
    rw [dif_pos ⟨d.min_le, d.le_max⟩]

@[simp] theorem checked_eq_ok {value : Int} {message : String} :
    checked value message = .ok d ↔ d.scaled = value := by
  rw [← ofScaled?_eq_some]
  unfold checked
  split <;> simp_all

@[simp] theorem checkedAdd_eq_ok :
    checkedAdd a b = .ok d ↔ d.scaled = a.scaled + b.scaled :=
  checked_eq_ok

@[simp] theorem checkedSub_eq_ok :
    checkedSub a b = .ok d ↔ d.scaled = a.scaled - b.scaled :=
  checked_eq_ok

theorem scaled_of_checkedMul (h : checkedMul a b = .ok d) :
    d.scaled = (a.scaled * b.scaled).tdiv scale := by
  simp only [checkedMul, bind_eq_ok, checked_eq_ok] at h
  obtain ⟨product, hproduct, hd⟩ := h
  rw [hd, hproduct]

theorem scaled_of_checkedDiv (h : checkedDiv a b = .ok d) :
    b.scaled ≠ 0 ∧ d.scaled = (a.scaled * scale).tdiv b.scaled := by
  simp only [checkedDiv, bind_eq_ok, checked_eq_ok, refuseIf_eq_ok] at h
  obtain ⟨-, hb, product, hproduct, hd⟩ := h
  exact ⟨hb, by rw [hd, hproduct]⟩

theorem checked_ok {value : Int} (message : String) (hmin : i128Min ≤ value)
    (hmax : value ≤ i128Max) : ∃ d, checked value message = .ok d :=
  ⟨⟨value, hmin, hmax⟩, checked_eq_ok.mpr rfl⟩

theorem checkedMul_neg {c : Decimal} (h : a.checkedMul c = .ok d)
    (hneg : b.scaled = -a.scaled) (hnonneg : 0 ≤ a.scaled * c.scaled) :
    ∃ e, b.checkedMul c = .ok e := by
  simp only [checkedMul, bind_eq_ok, checked_eq_ok] at h
  obtain ⟨product, hproduct, hd⟩ := h
  have hmax : i128Max = 170141183460469231731687303715884105727 := rfl
  have hmin : i128Min = -170141183460469231731687303715884105728 := rfl
  have hle := product.le_max
  have hdle := d.le_max
  have hdnonneg : 0 ≤ d.scaled := by
    rw [hd]
    exact Int.tdiv_nonneg (by omega) (by decide)
  have hnegated : b.scaled * c.scaled = -(a.scaled * c.scaled) := by
    rw [hneg, Int.neg_mul]
  obtain ⟨product', hproduct'⟩ : ∃ d, checked (b.scaled * c.scaled)
      "decimal multiplication overflow" = .ok d :=
    checked_ok _ (by omega) (by omega)
  have hscaled : product'.scaled = -product.scaled := by
    rw [checked_eq_ok.mp hproduct', hnegated, hproduct]
  have hquotient : product'.scaled.tdiv scale = -d.scaled := by
    rw [hscaled, Int.neg_tdiv, ← hd]
  obtain ⟨e, he⟩ : ∃ d, checked (product'.scaled.tdiv scale)
      "decimal multiplication overflow" = .ok d :=
    checked_ok _ (by omega) (by omega)
  refine ⟨e, ?_⟩
  simp only [checkedMul, hproduct']
  exact he

/-! ## Exactness -/

def ExactMul (a b : Decimal) : Prop := scale ∣ a.scaled * b.scaled

def ExactDiv (a b : Decimal) : Prop := b.scaled ∣ a.scaled * scale

instance (a b : Decimal) : Decidable (ExactMul a b) :=
  inferInstanceAs (Decidable (scale ∣ a.scaled * b.scaled))

instance (a b : Decimal) : Decidable (ExactDiv a b) :=
  inferInstanceAs (Decidable (b.scaled ∣ a.scaled * scale))

theorem ExactMul.scaled (hexact : ExactMul a b) (h : checkedMul a b = .ok d)
    : d.scaled * scale = a.scaled * b.scaled := by
  rw [scaled_of_checkedMul h]
  exact Int.tdiv_mul_cancel hexact

theorem ExactDiv.scaled (hexact : ExactDiv a b) (h : checkedDiv a b = .ok d)
    : d.scaled * b.scaled = a.scaled * scale := by
  rw [(scaled_of_checkedDiv h).2]
  exact Int.tdiv_mul_cancel hexact

/-! ## Text form -/

/-- `Display`: sign, whole part, and eight fraction digits. -/
def displayChars (d : Decimal) : List Char :=
  let magnitude := d.scaled.natAbs
  (if d.scaled < 0 then ['-'] else []) ++
    Nat.toDigits 10 (magnitude / 100000000) ++ '.' :: zeroPadded 8 (magnitude % 100000000)

def display (d : Decimal) : String := String.ofList d.displayChars

instance : ToString Decimal := ⟨display⟩

instance : Repr Decimal := ⟨fun d _ => d.display⟩

def parseDigits (digits : List Char) (source : List Char) : Result Int :=
  let value : Int := Nat.ofDigitChars 10 digits 0
  if value ≤ i128Max then
    .ok value
  else
    .error ⟨"decimal overflow: " ++ String.ofList source⟩

def splitPoint (unsigned : List Char) : List Char × List Char :=
  (unsigned.takeWhile (· != '.'), (unsigned.dropWhile (· != '.')).drop 1)

def parseUnsigned (source : List Char) (negative : Bool)
    (unsigned : List Char) : Result Decimal := do
  let invalid := "invalid decimal: " ++ String.ofList source
  let overflow := "decimal overflow: " ++ String.ofList source
  refuseIf (unsigned = [] ∨ 1 < unsigned.count '.') invalid
  let (wholeText, fractionText) := splitPoint unsigned
  refuseIf (wholeText = [] ∧ fractionText = [] ∨ wholeText.all isAsciiDigit = false
    ∨ fractionText.all isAsciiDigit = false
    ∨ 8 < fractionText.length) invalid
  let whole ← parseDigits wholeText source
  let fraction ← parseDigits
    (fractionText ++ List.replicate (8 - fractionText.length) '0') source
  let wholeScaled ← checked (whole * scale) overflow
  let scaled ← checked (wholeScaled.scaled + fraction) overflow
  checked (if negative then -scaled.scaled else scaled.scaled) overflow

def parseChars (text : List Char) : Result Decimal := do
  let source := trimChars text
  match source with
  | [] => .error ⟨"decimal is empty"⟩
  | '-' :: unsigned => parseUnsigned source true unsigned
  | '+' :: unsigned => parseUnsigned source false unsigned
  | unsigned => parseUnsigned source false unsigned

def parse (text : String) : Result Decimal := parseChars text.toList

/-! ## Reading a printed decimal -/

theorem splitPoint_digits {rest : List Char} (h : ∀ c ∈ digits, isAsciiDigit c = true) :
    splitPoint (digits ++ '.' :: rest) = (digits, rest) := by
  have hne : ∀ c ∈ digits, (c != '.') = true := by
    intro c hc
    have := h c hc
    rw [bne_iff_ne]
    rintro rfl
    contradiction
  simp only [splitPoint]
  rw [List.takeWhile_append_of_pos hne, List.dropWhile_append_of_pos hne]
  simp

theorem count_point_digits (h : ∀ c ∈ digits, isAsciiDigit c = true)
    : digits.count '.' = 0 := by
  rw [List.count_eq_zero]
  intro hmem
  have := h _ hmem
  contradiction

theorem parseDigits_eq_ok {source : List Char}
    (h : (Nat.ofDigitChars 10 digits 0 : Int) ≤ i128Max) :
    parseDigits digits source = .ok (Nat.ofDigitChars 10 digits 0 : Int) := by
  unfold parseDigits
  rw [if_pos h]

/-- Every scaled magnitude an `i128` holds is read back from its numeral. -/
theorem parseUnsigned_numeral {source : List Char} {negative : Bool}
    {magnitude : Nat} (hmagnitude : (magnitude : Int) ≤ i128Max) : ∃ d : Decimal,
      parseUnsigned source negative
        (Nat.toDigits 10 (magnitude / 100000000) ++
          '.' :: zeroPadded 8 (magnitude % 100000000)) = .ok d
      ∧ d.scaled = if negative then -(magnitude : Int) else magnitude := by
  have hwhole : ∀ c ∈ Nat.toDigits 10 (magnitude / 100000000),
      isAsciiDigit c = true := fun c hc => isAsciiDigit_of_mem_toDigits hc
  have hfraction : ∀ c ∈ zeroPadded 8 (magnitude % 100000000),
      isAsciiDigit c = true := fun c hc => isAsciiDigit_of_mem_zeroPadded hc
  have hlength : (zeroPadded 8 (magnitude % 100000000)).length = 8 :=
    length_zeroPadded (by decide) (Nat.mod_lt _ (by decide))
  have hmax : i128Max = 170141183460469231731687303715884105727 := rfl
  have hmin : i128Min = -170141183460469231731687303715884105728 := rfl
  have hscale : scale = 100000000 := rfl
  let signed : Int := if negative then -(magnitude : Int) else magnitude
  have hsigned : i128Min ≤ signed ∧ signed ≤ i128Max := by
    simp only [signed]
    split <;> omega
  refine ⟨⟨signed, hsigned.1, hsigned.2⟩, ?_, rfl⟩
  unfold parseUnsigned
  simp only [bind_eq_ok, refuseIf_eq_ok, splitPoint_digits hwhole, checked_eq_ok]
  refine ⟨(), ?_, (), ?_, ((magnitude / 100000000 : Nat) : Int), ?_,
    ((magnitude % 100000000 : Nat) : Int), ?_, ?_⟩
  · simp [List.count_append, count_point_digits hwhole, count_point_digits hfraction]
  · simp only [hlength, Nat.toDigits_ne_nil, false_and, false_or, not_or,
      not_eq_false, all_eq_true, Nat.lt_irrefl, not_false_iff, and_true]
    exact ⟨hwhole, hfraction⟩
  · rw [parseDigits_eq_ok] <;> rw [Nat.ofDigitChars_ten_toDigits]
    omega
  · rw [hlength, Nat.sub_self, List.replicate_zero, append_nil,
      parseDigits_eq_ok] <;> rw [ofDigitChars_zeroPadded]
    omega
  · refine ⟨⟨(magnitude / 100000000 : Nat) * scale, by rw [hscale]; omega,
      by rw [hscale]; omega⟩, rfl, ⟨magnitude, by omega, by omega⟩, ?_, rfl⟩
    simp only [hscale]
    omega

theorem isWhiteSpace_of_isAsciiDigit {c : Char}
    (h : isAsciiDigit c = true) : isWhiteSpace c = false := by
  have hrange : 48 ≤ c.toNat ∧ c.toNat ≤ 57 := by
    rw [isAsciiDigit_eq_isDigit, Char.isDigit_iff_toNat] at h
    exact h
  simp only [isWhiteSpace]
  grind

private theorem trimChars_displayChars (d : Decimal) :
    trimChars d.displayChars = d.displayChars := by
  apply trimChars_of_ends
  · intro c hc
    simp only [displayChars] at hc
    split at hc
    · simp only [cons_append, List.head?_cons, Option.mem_some] at hc
      rw [← hc]
      decide
    · apply isWhiteSpace_of_isAsciiDigit
      apply isAsciiDigit_of_mem_toDigits (n := d.scaled.natAbs / 100000000)
      rw [nil_append, List.head?_append] at hc
      cases hdigits : Nat.toDigits 10 (d.scaled.natAbs / 100000000) with
      | nil => exact absurd hdigits Nat.toDigits_ne_nil
      | cons first rest =>
        rw [hdigits, List.head?_cons, Option.some_or, Option.mem_some] at hc
        rw [← hc]
        exact mem_cons_self
  · intro c hc
    apply isWhiteSpace_of_isAsciiDigit
    have hlength : (zeroPadded 8 (d.scaled.natAbs % 100000000)).length = 8 :=
      length_zeroPadded (by decide) (Nat.mod_lt _ (by decide))
    have hne : zeroPadded 8 (d.scaled.natAbs % 100000000) ≠ [] := by
      rw [← List.length_pos_iff, hlength]
      decide
    apply @isAsciiDigit_of_mem_zeroPadded 8 (d.scaled.natAbs % 100000000)
    simp only [displayChars, List.getLast?_append, List.getLast?_cons] at hc
    rw [List.getLast?_eq_some_getLast hne] at hc
    simp only [getD_some, Option.some_or, Option.mem_some] at hc
    rw [← hc]
    exact List.getLast_mem hne

/-- A printed decimal reads back, except the most negative one, whose magnitude
no `i128` holds. -/
theorem parse_display (hd : d.scaled ≠ i128Min) : parse d.display = .ok d := by
  have hmax : i128Max = 170141183460469231731687303715884105727 := rfl
  have hmin : i128Min = -170141183460469231731687303715884105728 := rfl
  have hmagnitude : (d.scaled.natAbs : Int) ≤ i128Max := by
    have := d.min_le
    have := d.le_max
    omega
  simp only [parse, display, toList_ofList, parseChars, trimChars_displayChars]
  by_cases hneg : d.scaled < 0
  · obtain ⟨e, hparse, he⟩ := @parseUnsigned_numeral
      d.displayChars true _ hmagnitude
    have heq : e = d := by
      apply ext
      rw [he, if_pos rfl]
      omega
    rw [heq] at hparse
    simp only [displayChars, if_pos hneg, cons_append,
      nil_append] at hparse ⊢
    exact hparse
  · obtain ⟨e, hparse, he⟩ := @parseUnsigned_numeral
      d.displayChars false _ hmagnitude
    have heq : e = d := by
      apply ext
      rw [he, if_neg (by decide)]
      omega
    rw [heq] at hparse
    simp only [displayChars, if_neg hneg, nil_append] at hparse ⊢
    cases hdigits : Nat.toDigits 10 (d.scaled.natAbs / 100000000) with
    | nil => exact absurd hdigits Nat.toDigits_ne_nil
    | cons c rest =>
      have hc : isAsciiDigit c = true := by
        apply isAsciiDigit_of_mem_toDigits
        rw [hdigits]
        exact mem_cons_self
      have hminus : c ≠ '-' := by
        rintro rfl
        contradiction
      have hplus : c ≠ '+' := by
        rintro rfl
        contradiction
      rw [hdigits, cons_append] at hparse
      rw [cons_append]
      split
      · contradiction
      · exact absurd (List.cons.inj ‹_›).1 hminus
      · exact absurd (List.cons.inj ‹_›).1 hplus
      · exact hparse

theorem parse_display_iff : parse d.display = .ok d ↔ d.scaled ≠ i128Min := by
  refine ⟨?_, parse_display⟩
  rintro h hd
  have hmin : d = ⟨i128Min, by decide, by decide⟩ := ext hd
  rw [hmin] at h
  revert h
  decide

end Decimal

export Decimal (scaled_zero le_def lt_def checkedAdd_eq_ok checkedSub_eq_ok
  scaled_of_checkedMul checked_eq_ok scaled_min scaled_of_checkedDiv scaled_inj)

end Follon.Domain

/-!
## Printed decimals

The text of a decimal determines it, and holds nothing but digits, a sign and
a point.
-/

namespace Follon.Domain

open Foundation

theorem toDigits_injective : Function.Injective (Nat.toDigits 10) := by
  intro m n h
  have hm := @Nat.ofDigitChars_ten_toDigits m
  rw [h, Nat.ofDigitChars_ten_toDigits] at hm
  exact hm.symm

theorem point_not_mem_zeroPadded (width n : Nat) : '.' ∉ zeroPadded width n := by
  intro hmem
  have := isAsciiDigit_of_mem_zeroPadded hmem
  contradiction

theorem displayChars_unsigned {d : Decimal} (h : 0 ≤ d.scaled) :
    d.displayChars.head? ≠ some '-' := by
  rw [Decimal.displayChars, if_neg (Int.not_lt.mpr h), nil_append, List.head?_append]
  cases hdigits : Nat.toDigits 10 (d.scaled.natAbs / 100000000) with
  | nil => exact absurd hdigits Nat.toDigits_ne_nil
  | cons first rest =>
    rw [List.head?_cons, Option.some_or]
    intro hminus
    have hdigit : isAsciiDigit first = true := by
      apply isAsciiDigit_of_mem_toDigits
      rw [hdigits]
      exact mem_cons_self
    rw [Option.some.inj hminus] at hdigit
    contradiction

theorem natAbs_of_magnitudeChars {m n : Nat} (h : Nat.toDigits 10 (m / 100000000) ++
        '.' :: zeroPadded 8 (m % 100000000)
      = Nat.toDigits 10 (n / 100000000) ++
        '.' :: zeroPadded 8 (n % 100000000)) : m = n := by
  obtain ⟨hwhole, hfraction⟩ := append_cons_inj
    (point_not_mem_zeroPadded 8 _) (point_not_mem_zeroPadded 8 _) h
  have hquotient := toDigits_injective hwhole
  have hremainder := zeroPadded_injective 8 hfraction
  omega

theorem display_injective : Function.Injective Decimal.display := by
  intro d e h
  have hchars : d.displayChars = e.displayChars := by
    have := congrArg String.toList h
    simpa only [Decimal.display, toList_ofList] using this
  have hhead := congrArg List.head? hchars
  apply Decimal.ext
  by_cases hd : d.scaled < 0
  · by_cases he : e.scaled < 0
    · simp only [Decimal.displayChars, if_pos hd, if_pos he, cons_append,
        nil_append, List.cons.injEq, true_and] at hchars
      have := natAbs_of_magnitudeChars hchars
      omega
    · refine absurd ?_ (displayChars_unsigned (Int.not_lt.mp he))
      rw [← hhead, Decimal.displayChars, if_pos hd]
      rfl
  · by_cases he : e.scaled < 0
    · refine absurd ?_ (displayChars_unsigned (Int.not_lt.mp hd))
      rw [hhead, Decimal.displayChars, if_pos he]
      rfl
    · simp only [Decimal.displayChars, if_neg hd, if_neg he,
        nil_append] at hchars
      have := natAbs_of_magnitudeChars hchars
      omega

theorem mem_display {d : Decimal} {c : Char} (hc : c ∈ d.display.toList) :
    c = '-' ∨ c = '.' ∨ isAsciiDigit c = true := by
  simp only [Decimal.display, toList_ofList, Decimal.displayChars,
    mem_append, mem_cons] at hc
  rcases hc with (hsign | hwhole) | hpoint | hfraction
  · split at hsign
    · exact .inl (mem_singleton.mp hsign)
    · exact absurd hsign not_mem_nil
  · exact .inr (.inr (isAsciiDigit_of_mem_toDigits hwhole))
  · exact .inr (.inl hpoint)
  · exact .inr (.inr (isAsciiDigit_of_mem_zeroPadded hfraction))

end Follon.Domain

/-!
## When checked arithmetic succeeds

A checked product or quotient of nonnegative values succeeds exactly when the
intermediate product fits an `i128`; what follows it only makes the value
smaller.
-/

namespace Follon.Domain.Decimal

open Foundation

theorem fromInteger_ok {value : Int} (hmin : i128Min ≤ value * scale)
    (hmax : value * scale ≤ i128Max) :
    ∃ d, fromInteger value = .ok d ∧ d.scaled = value * scale := by
  obtain ⟨d, hd⟩ := checked_ok "integer decimal overflow" hmin hmax
  exact ⟨d, hd, checked_eq_ok.mp hd⟩

theorem i128Min_le_of_nonneg {value : Int} (h : 0 ≤ value) : i128Min ≤ value :=
  Int.le_trans (by decide) h

theorem checkedMul_ok {a b : Decimal} (hnonneg : 0 ≤ a.scaled * b.scaled)
    (hmax : a.scaled * b.scaled ≤ i128Max) : ∃ d, a.checkedMul b = .ok d
      ∧ d.scaled = a.scaled * b.scaled / scale := by
  obtain ⟨product, hproduct⟩ := checked_ok "decimal multiplication overflow"
    (i128Min_le_of_nonneg hnonneg) hmax
  have hscaled := checked_eq_ok.mp hproduct
  have hquotient : product.scaled.tdiv scale
      = a.scaled * b.scaled / scale := by
    rw [hscaled]
    exact Int.tdiv_eq_ediv_of_nonneg hnonneg
  have hle : a.scaled * b.scaled / scale ≤ i128Max :=
    Int.le_trans (Int.ediv_le_self _ hnonneg) hmax
  obtain ⟨d, hd⟩ := checked_ok "decimal multiplication overflow"
    (i128Min_le_of_nonneg (Int.ediv_nonneg hnonneg (by decide))) hle
  refine ⟨d, ?_, checked_eq_ok.mp hd⟩
  rw [checkedMul, hproduct]
  change checked (product.scaled.tdiv scale) _ = .ok d
  rw [hquotient, hd]

theorem checkedDiv_ok {a b : Decimal} (hnonneg : 0 ≤ a.scaled)
    (hpos : 0 < b.scaled) (hmax : a.scaled * scale ≤ i128Max) :
    ∃ d, a.checkedDiv b = .ok d
      ∧ d.scaled = a.scaled * scale / b.scaled := by
  have hproductNonneg : 0 ≤ a.scaled * scale := Int.mul_nonneg hnonneg (by decide)
  obtain ⟨product, hproduct⟩ := checked_ok "decimal division overflow"
    (i128Min_le_of_nonneg hproductNonneg) hmax
  have hscaled := checked_eq_ok.mp hproduct
  have hquotient : product.scaled.tdiv b.scaled
      = a.scaled * scale / b.scaled := by
    rw [hscaled]
    exact Int.tdiv_eq_ediv_of_nonneg hproductNonneg
  have hle : a.scaled * scale / b.scaled ≤ i128Max :=
    Int.le_trans (Int.ediv_le_self _ hproductNonneg) hmax
  obtain ⟨d, hd⟩ := checked_ok "decimal division overflow"
    (i128Min_le_of_nonneg (Int.ediv_nonneg hproductNonneg (Int.le_of_lt hpos))) hle
  refine ⟨d, ?_, checked_eq_ok.mp hd⟩
  have hdivisor : refuseIf (b.scaled = 0) "division by zero" = .ok () :=
    refuseIf_of_not (by omega)
  rw [checkedDiv, hdivisor]
  change (checked (a.scaled * scale) _ >>= _) = _
  rw [hproduct]
  change checked (product.scaled.tdiv b.scaled) _ = .ok d
  rw [hquotient, hd]

theorem zero_checkedMul (ratio : Decimal) : zero.checkedMul ratio = .ok zero := by
  obtain ⟨product, hproduct, hscaled⟩ :=
    @checkedMul_ok zero ratio (by simp) (by simp; decide)
  have hzero : product = zero := by
    apply ext
    simpa using hscaled
  rw [hproduct, hzero]

theorem le_max_of_checkedMul {a b d : Decimal} (h : a.checkedMul b = .ok d) :
    a.scaled * b.scaled ≤ i128Max := by
  simp only [checkedMul, bind_eq_ok, checked_eq_ok] at h
  obtain ⟨product, hproduct, -⟩ := h
  rw [← hproduct]
  exact product.le_max

end Follon.Domain.Decimal
