import Follon.Domain.Decimal
import Follon.Foundation.PythonValues
import Mathlib.Data.List.TakeWhile

/-!
# Plain numerals

A decimal printed without an exponent is read by the host as the same number
when it has at most eight places and fits.
-/

namespace Follon.Domain

open Foundation

/-! ## Reading digits around a point -/

namespace Decimal

def digitsScaled (whole fraction : List Char) : Nat :=
  Nat.ofDigitChars 10
    (whole ++ (fraction ++ List.replicate (8 - fraction.length) '0')) 0

theorem digitsScaled_eq {whole fraction : List Char}
    (hplaces : fraction.length ≤ 8) : digitsScaled whole fraction
      = Nat.ofDigitChars 10 whole 0 * 100000000 + Nat.ofDigitChars 10
          (fraction ++ List.replicate (8 - fraction.length) '0') 0 := by
  have hlength : (fraction ++ List.replicate (8 - fraction.length) '0').length
      = 8 := by
    rw [length_append, List.length_replicate]
    omega
  rw [digitsScaled, Nat.ofDigitChars_append,
    Nat.ofDigitChars_eq_ofDigitChars_zero, hlength]
  omega

theorem parseUnsigned_digits {source unsigned whole fraction : List Char}
    {negative : Bool} (hwhole : ∀ c ∈ whole, isAsciiDigit c = true)
    (hfraction : ∀ c ∈ fraction, isAsciiDigit c = true)
    (hsome : whole ≠ []) (hplaces : fraction.length ≤ 8)
    (hunsigned : unsigned = whole ++ '.' :: fraction ∨ fraction = [] ∧ unsigned = whole)
    (hfits : (digitsScaled whole fraction : Int) ≤ i128Max) :
    ∃ d : Decimal, parseUnsigned source negative unsigned = .ok d ∧
      d.scaled = if negative then -(digitsScaled whole fraction : Int)
        else digitsScaled whole fraction := by
  have hmax : i128Max = 170141183460469231731687303715884105727 := rfl
  have hmin : i128Min = -170141183460469231731687303715884105728 := rfl
  have hscale : scale = 100000000 := rfl
  have hscaled : digitsScaled whole fraction = _ := digitsScaled_eq hplaces
  have hsplit : splitPoint unsigned = (whole, fraction) := by
    cases hunsigned with
    | inl hpoint => rw [hpoint, splitPoint_digits hwhole]
    | inr hplain =>
      have hne : ∀ c ∈ whole, (c != '.') = true := by
        intro c hc
        have := hwhole c hc
        rw [bne_iff_ne]
        rintro rfl
        contradiction
      have htake : whole.takeWhile (· != '.') = whole := by
        rwa [List.takeWhile_eq_self_iff]
      have hdrop : whole.dropWhile (· != '.') = [] := by
        rwa [List.dropWhile_eq_nil_iff]
      rw [hplain.2, hplain.1, splitPoint, htake, hdrop]
      rfl
  have hcount : unsigned.count '.' ≤ 1 := by
    cases hunsigned with
    | inl hpoint =>
      rw [hpoint, List.count_append, count_point_digits hwhole,
        List.count_cons_self, count_point_digits hfraction]
    | inr hplain =>
      rw [hplain.2, count_point_digits hwhole]
      exact Nat.zero_le 1
  have hne : unsigned ≠ [] := by
    cases hunsigned with
    | inl hpoint => simp [hpoint]
    | inr hplain => rwa [hplain.2]
  let signed : Int := if negative then -(digitsScaled whole fraction : Int)
    else digitsScaled whole fraction
  have hsigned : i128Min ≤ signed ∧ signed ≤ i128Max := by
    simp only [signed]
    split <;> omega
  refine ⟨⟨signed, hsigned.1, hsigned.2⟩, ?_, rfl⟩
  unfold parseUnsigned
  simp only [bind_eq_ok, refuseIf_eq_ok, hsplit, checked_eq_ok]
  refine ⟨(), ?_, (), ?_, (Nat.ofDigitChars 10 whole 0 : Int), ?_, (Nat.ofDigitChars 10
      (fraction ++ List.replicate (8 - fraction.length) '0') 0 : Int), ?_, ?_⟩
  · rw [not_or]
    exact ⟨hne, by omega⟩
  · simp only [not_or, not_eq_false, all_eq_true, not_and]
    exact ⟨fun hempty => absurd hempty hsome, hwhole, hfraction, by omega⟩
  · apply parseDigits_eq_ok
    omega
  · apply parseDigits_eq_ok
    omega
  · refine ⟨⟨Nat.ofDigitChars 10 whole 0 * scale, by rw [hscale]; omega,
      by rw [hscale]; omega⟩, rfl,
      ⟨digitsScaled whole fraction, by omega, by omega⟩, ?_, rfl⟩
    simp only [hscale]
    omega

theorem parse_digits {unsigned whole fraction : List Char} {negative : Bool}
    (hwhole : ∀ c ∈ whole, isAsciiDigit c = true)
    (hfraction : ∀ c ∈ fraction, isAsciiDigit c = true)
    (hsome : whole ≠ []) (hplaces : fraction.length ≤ 8)
    (hunsigned : unsigned = whole ++ '.' :: fraction ∧ fraction ≠ [] ∨
      fraction = [] ∧ unsigned = whole)
    (hfits : (digitsScaled whole fraction : Int) ≤ i128Max) : ∃ d : Decimal,
      parse (String.ofList ((if negative = true then ['-'] else []) ++ unsigned))
        = .ok d ∧
      d.scaled = if negative then -(digitsScaled whole fraction : Int)
        else digitsScaled whole fraction := by
  have hends : ∀ c ∈ unsigned, c ∈ whole ∨ c = '.' ∨ c ∈ fraction := by
    intro c hc
    cases hunsigned with
    | inl hpoint =>
      rw [hpoint.1, mem_append, mem_cons] at hc
      exact hc
    | inr hplain => exact .inl (hplain.2 ▸ hc)
  have hhead : ∃ first rest, unsigned = first :: rest ∧
      isAsciiDigit first = true := by
    cases whole with
    | nil => exact absurd rfl hsome
    | cons first rest =>
      have hfirst := hwhole first mem_cons_self
      cases hunsigned with
      | inl hpoint => exact ⟨first, _, hpoint.1, hfirst⟩
      | inr hplain => exact ⟨first, rest, hplain.2, hfirst⟩
  have hlast : ∀ c, unsigned.getLast? = some c → isAsciiDigit c = true := by
    intro c hc
    cases hunsigned with
    | inl hpoint =>
      rw [hpoint.1, List.getLast?_append, List.getLast?_cons,
        List.getLast?_eq_some_getLast hpoint.2] at hc
      simp only [getD_some, Option.some_or, Option.some.injEq] at hc
      exact hfraction c (hc ▸ List.getLast_mem hpoint.2)
    | inr hplain =>
      rw [hplain.2] at hc
      exact hwhole c (List.mem_of_getLast? hc)
  obtain ⟨first, rest, hcons, hfirst⟩ := hhead
  have htrim : trimChars ((if negative = true then ['-'] else []) ++ unsigned)
      = (if negative = true then ['-'] else []) ++ unsigned := by
    apply trimChars_of_ends
    · intro c hc
      cases negative with
      | true =>
        rw [if_pos rfl, List.singleton_append, List.head?_cons,
          Option.mem_some] at hc
        rw [← hc]
        decide
      | false =>
        rw [if_neg (by decide), nil_append, hcons, List.head?_cons,
          Option.mem_some] at hc
        exact isWhiteSpace_of_isAsciiDigit (hc ▸ hfirst)
    · intro c hc
      apply isWhiteSpace_of_isAsciiDigit
      apply hlast
      rw [List.getLast?_append, Option.mem_def] at hc
      rw [hcons, List.getLast?_cons] at hc ⊢
      simpa using hc
  obtain ⟨d, hparse, hscaled⟩ := @parseUnsigned_digits
    ((if negative = true then ['-'] else []) ++ unsigned) unsigned whole
    fraction negative hwhole hfraction hsome hplaces
    (hunsigned.imp_left And.left) hfits
  refine ⟨d, ?_, hscaled⟩
  rw [parse, toList_ofList, parseChars, htrim]
  cases negative with
  | true => exact hparse
  | false =>
    rw [if_neg (by decide), nil_append] at hparse ⊢
    have hminus : first ≠ '-' := by
      rintro rfl
      contradiction
    have hplus : first ≠ '+' := by
      rintro rfl
      contradiction
    rw [hcons] at hparse ⊢
    split
    · contradiction
    · exact absurd (List.cons.inj ‹_›).1 hminus
    · exact absurd (List.cons.inj ‹_›).1 hplus
    · exact hparse

end Decimal

/-! ## The canonical spelling -/

namespace Decimal

variable {d : Decimal}

/-- A sign only below zero, no needless zero before the point, and eight
digits after it. -/
def CanonicalSpelling (scaled : Int) (spelling : String) : Prop :=
  ∃ whole fraction,
    spelling.toList = (if scaled < 0 then ['-'] else []) ++ whole
      ++ '.' :: fraction ∧
    ((∀ c ∈ whole, isAsciiDigit c = true) ∧ ∀ c ∈ fraction, isAsciiDigit c = true) ∧
    (whole ≠ [] ∧ (whole.head? = some '0' → whole = ['0'])) ∧
    fraction.length = 8 ∧ digitsScaled whole fraction = scaled.natAbs

theorem digitsScaled_eight {whole fraction : List Char} (h : fraction.length = 8) :
    digitsScaled whole fraction = Nat.ofDigitChars 10 whole 0 * 100000000 +
      Nat.ofDigitChars 10 fraction 0 := by
  rw [digitsScaled_eq h.le, h, Nat.sub_self, List.replicate_zero, append_nil]

theorem canonicalSpelling_iff {spelling : String} :
    CanonicalSpelling d.scaled spelling ↔ spelling = d.display := by
  have hlow : d.scaled.natAbs % 100000000 < 10 ^ 8 := Nat.mod_lt _ (by decide)
  constructor
  · rintro ⟨whole, fraction, htext, ⟨hwhole, hfraction⟩, ⟨hsome, hhead⟩, hlength, hscaled⟩
    rw [digitsScaled_eight hlength] at hscaled
    have hlt : Nat.ofDigitChars 10 fraction 0 < 100000000 := by
      have hpow := ofDigitChars_lt hfraction
      rwa [hlength] at hpow
    have hhigh : d.scaled.natAbs / 100000000 = Nat.ofDigitChars 10 whole 0 := by
      omega
    have hrest : d.scaled.natAbs % 100000000
        = Nat.ofDigitChars 10 fraction 0 := by
      omega
    have hpadded := zeroPadded_ofDigitChars hfraction
      (List.ne_nil_of_length_pos (by omega))
    rw [hlength] at hpadded
    refine toList_inj.mp ?_
    rw [htext, display, toList_ofList, displayChars, hhigh, hrest,
      hpadded, toDigits_ofDigitChars hwhole hsome hhead]
  · rintro rfl
    refine ⟨Nat.toDigits 10 (d.scaled.natAbs / 100000000),
      zeroPadded 8 (d.scaled.natAbs % 100000000), ?_, ⟨?_, ?_⟩, ⟨?_, ?_⟩, ?_, ?_⟩
    · rw [display, toList_ofList, displayChars]
    · exact fun c hc => isAsciiDigit_of_mem_toDigits hc
    · exact fun c hc => isAsciiDigit_of_mem_zeroPadded hc
    · exact Nat.toDigits_ne_nil
    · intro hzero
      rcases Nat.eq_zero_or_pos (d.scaled.natAbs / 100000000) with hnone | hpos
      · rw [hnone]
        rfl
      · exact absurd rfl (Json.head_toDigits hpos '0' hzero)
    · exact length_zeroPadded (by decide) hlow
    · rw [digitsScaled_eight (length_zeroPadded (by decide) hlow),
        Nat.ofDigitChars_ten_toDigits, ofDigitChars_zeroPadded]
      omega

end Decimal

/-! ## Plain numerals -/

def scaledMagnitude (d : PythonDecimal) : Nat :=
  d.coefficient * 10 ^ (d.exponent + 8).toNat

/-- A decimal the host holds exactly. -/
def FitsHost (d : PythonDecimal) : Prop :=
  -8 ≤ d.exponent ∧ (scaledMagnitude d : Int) ≤ i128Max

instance (d : PythonDecimal) : Decidable (FitsHost d) :=
  inferInstanceAs (Decidable (_ ∧ _))

theorem plainDigits_split {d : PythonDecimal} (hplaces : -8 ≤ d.exponent) :
    ∃ whole fraction, (∀ c ∈ whole, isAsciiDigit c = true) ∧
      (∀ c ∈ fraction, isAsciiDigit c = true) ∧ whole ≠ [] ∧
      fraction.length ≤ 8 ∧
      (d.plainDigits = whole ++ '.' :: fraction ∧ fraction ≠ [] ∨
        fraction = [] ∧ d.plainDigits = whole) ∧
      Decimal.digitsScaled whole fraction = scaledMagnitude d := by
  have hdigits : ∀ c ∈ d.digits, isAsciiDigit c = true :=
    fun c hc => isAsciiDigit_of_mem_toDigits hc
  have hzeros : ∀ n, ∀ c ∈ List.replicate n '0', isAsciiDigit c = true := by
    intro n c hc
    rw [List.eq_of_mem_replicate hc]
    decide
  have hnone : ∀ c ∈ ([] : List Char), isAsciiDigit c = true :=
    fun _ hc => absurd hc not_mem_nil
  have hvalue : Nat.ofDigitChars 10 d.digits 0 = d.coefficient :=
    Nat.ofDigitChars_ten_toDigits
  by_cases hwhole : 0 ≤ d.exponent
  · by_cases hzero : d.coefficient = 0
    · refine ⟨['0'], [], hzeros 1, hnone, List.cons_ne_nil _ _, by decide,
        .inr ⟨rfl, ?_⟩, ?_⟩
      · rw [PythonDecimal.plainDigits, if_pos hwhole, if_pos hzero]
      · rw [scaledMagnitude, hzero, Nat.zero_mul]
        decide
    · refine ⟨d.digits ++ List.replicate d.exponent.toNat '0', [], ?_,
        hnone, ?_, by decide, .inr ⟨rfl, ?_⟩, ?_⟩
      · intro c hc
        cases mem_append.mp hc with
        | inl hc => exact hdigits c hc
        | inr hc => exact hzeros _ c hc
      · exact List.append_ne_nil_of_left_ne_nil Nat.toDigits_ne_nil _
      · rw [PythonDecimal.plainDigits, if_pos hwhole, if_neg hzero]
      · have hexponent : (d.exponent + 8).toNat = 8 + d.exponent.toNat := by
          omega
        rw [Decimal.digitsScaled, nil_append, Nat.ofDigitChars_append,
          Nat.ofDigitChars_append, hvalue, Nat.ofDigitChars_replicate_zero,
          Nat.ofDigitChars_replicate_zero, scaledMagnitude, hexponent, Nat.pow_add,
          List.length_nil, Nat.sub_zero, ← Nat.mul_assoc, Nat.mul_comm]
  · have hplain : d.plainDigits =
        (List.replicate (d.exponent.natAbs + 1 - d.digits.length) '0' ++
          d.digits).take ((List.replicate (d.exponent.natAbs + 1 - d.digits.length) '0' ++
              d.digits).length - d.exponent.natAbs) ++
        '.' :: (List.replicate (d.exponent.natAbs + 1 - d.digits.length) '0' ++
          d.digits).drop ((List.replicate (d.exponent.natAbs + 1 - d.digits.length) '0' ++
              d.digits).length - d.exponent.natAbs) := by
      rw [PythonDecimal.plainDigits, if_neg hwhole]
    generalize hpadded :
      List.replicate (d.exponent.natAbs + 1 - d.digits.length) '0' ++ d.digits
        = padded at hplain
    have hpaddedDigits : ∀ c ∈ padded, isAsciiDigit c = true := by
      intro c hc
      rw [← hpadded] at hc
      cases mem_append.mp hc with
      | inl hc => exact hzeros _ c hc
      | inr hc => exact hdigits c hc
    have hlength : d.exponent.natAbs + 1 ≤ padded.length := by
      rw [← hpadded, length_append, List.length_replicate]
      omega
    have hpaddedValue : Nat.ofDigitChars 10 padded 0 = d.coefficient := by
      rw [← hpadded, Nat.ofDigitChars_append,
        Nat.ofDigitChars_replicate_zero, Nat.mul_zero, hvalue]
    have hfraction : (padded.drop (padded.length - d.exponent.natAbs)).length
        = d.exponent.natAbs := by
      rw [List.length_drop]
      omega
    refine ⟨_, _, ?_, ?_, ?_, ?_, .inl ⟨hplain, ?_⟩, ?_⟩
    · exact fun c hc => hpaddedDigits c (List.mem_of_mem_take hc)
    · exact fun c hc => hpaddedDigits c (List.mem_of_mem_drop hc)
    · rw [← List.length_pos_iff, List.length_take]
      omega
    · rw [hfraction]
      omega
    · rw [← List.length_pos_iff, hfraction]
      omega
    · have hexponent : (d.exponent + 8).toNat = 8 - d.exponent.natAbs := by
        omega
      rw [Decimal.digitsScaled, ← append_assoc, List.take_append_drop, hfraction,
        Nat.ofDigitChars_append, hpaddedValue, Nat.ofDigitChars_replicate_zero,
        scaledMagnitude, hexponent, Nat.mul_comm]

theorem parse_plain {d : PythonDecimal} (h : FitsHost d) :
    ∃ e : Decimal, Decimal.parse d.plain = .ok e ∧
      e.scaled = if d.negative = true then -(scaledMagnitude d : Int)
        else scaledMagnitude d := by
  obtain ⟨whole, fraction, hwhole, hfraction, hsome, hplaces, hsplit, hscaled⟩ :=
    plainDigits_split h.1
  obtain ⟨e, hparse, he⟩ := @Decimal.parse_digits d.plainDigits whole fraction
    d.negative hwhole hfraction hsome hplaces hsplit (hscaled ▸ h.2)
  rw [hscaled] at he
  exact ⟨e, hparse, he⟩

end Follon.Domain
