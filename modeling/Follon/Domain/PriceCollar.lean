import Follon.Domain.Order

/-!
# The price collar

A collar admits a requested price when its distance from the reference, in
basis points, is at most an integer bound.  The distance is the integer
quotient of two fixed-point operations, so the bound is compared with a value
whose fraction was cut off.
-/

namespace Follon.Domain

def priceDistance (referencePrice requestedPrice : Decimal) : Int :=
  |requestedPrice.scaled - referencePrice.scaled|

def WithinCollar (referencePrice requestedPrice : Decimal) (bps : Nat) : Prop :=
  priceDistance referencePrice requestedPrice * 10000 ≤ bps * referencePrice.scaled

def JustOutsideCollar (referencePrice requestedPrice : Decimal) (bps : Nat) : Prop :=
  bps * referencePrice.scaled < priceDistance referencePrice requestedPrice * 10000
    ∧ (priceDistance referencePrice requestedPrice * 10000
        - bps * referencePrice.scaled) * Decimal.scale < referencePrice.scaled

instance (referencePrice requestedPrice : Decimal) (bps : Nat) :
    Decidable (WithinCollar referencePrice requestedPrice bps) :=
  inferInstanceAs (Decidable (_ ≤ _))

instance (referencePrice requestedPrice : Decimal) (bps : Nat) :
    Decidable (JustOutsideCollar referencePrice requestedPrice bps) :=
  inferInstanceAs (Decidable (_ ∧ _))

theorem priceDistance_nonneg (referencePrice requestedPrice : Decimal) :
    0 ≤ priceDistance referencePrice requestedPrice :=
  abs_nonneg _

variable {referencePrice requestedPrice deviation : Decimal}

theorem priceDeviationBps_eq_ok
    (h : priceDeviationBps referencePrice requestedPrice = .ok deviation) :
    0 < referencePrice.scaled ∧ ∃ distance tenThousand scaled : Decimal,
        distance.scaled = priceDistance referencePrice requestedPrice
          ∧ Decimal.fromInteger 10000 = .ok tenThousand
          ∧ distance.checkedMul tenThousand = .ok scaled
          ∧ scaled.checkedDiv referencePrice = .ok deviation := by
  unfold priceDeviationBps at h
  split at h
  · next hle =>
      simp only [bind_eq_ok, refuseIf_eq_ok, not_or, le_def,
        scaled_zero, Int.not_le, checkedSub_eq_ok] at h
      obtain ⟨-, ⟨hreference, -⟩, distance, hdistance, rest⟩ := h
      refine ⟨hreference, distance, ?_⟩
      rw [hdistance, priceDistance, abs_of_nonneg (Int.sub_nonneg_of_le hle)]
      simpa using rest
  · next hlt =>
      simp only [bind_eq_ok, refuseIf_eq_ok, not_or, le_def,
        scaled_zero, Int.not_le, checkedSub_eq_ok] at h
      obtain ⟨-, ⟨hreference, -⟩, distance, hdistance, rest⟩ := h
      have hneg : requestedPrice.scaled - referencePrice.scaled ≤ 0 := by
        rw [le_def] at hlt
        omega
      refine ⟨hreference, distance, ?_⟩
      rw [hdistance, priceDistance, abs_of_nonpos hneg, Int.neg_sub]
      simpa using rest

theorem scaled_of_priceDeviationBps
    (h : priceDeviationBps referencePrice requestedPrice = .ok deviation) :
    0 < referencePrice.scaled ∧ deviation.scaled
          = priceDistance referencePrice requestedPrice * 10000
              * Decimal.scale / referencePrice.scaled := by
  obtain ⟨hreference, distance, tenThousand, scaled, hlength, hten, hscaled,
    hdeviation⟩ := priceDeviationBps_eq_ok h
  have hfactor : tenThousand.scaled = 10000 * Decimal.scale := checked_eq_ok.mp hten
  have hproduct : scaled.scaled
      = priceDistance referencePrice requestedPrice * 10000 := by
    rw [scaled_of_checkedMul hscaled, hlength, hfactor, ← Int.mul_assoc]
    exact Int.mul_tdiv_cancel _ (by decide)
  have hnonneg : 0 ≤ priceDistance referencePrice requestedPrice * 10000
      * Decimal.scale :=
    Int.mul_nonneg (Int.mul_nonneg (priceDistance_nonneg _ _) (by decide))
      (by decide)
  refine ⟨hreference, ?_⟩
  rw [(scaled_of_checkedDiv hdeviation).2, hproduct]
  exact Int.tdiv_eq_ediv_of_nonneg hnonneg

theorem priceDeviationBps_le_iff (bps : Nat)
    (h : priceDeviationBps referencePrice requestedPrice = .ok deviation) :
    deviation.scaled ≤ bps * Decimal.scale ↔
      priceDistance referencePrice requestedPrice * 10000 * Decimal.scale
        < (bps * Decimal.scale + 1) * referencePrice.scaled := by
  obtain ⟨hreference, hdeviation⟩ := scaled_of_priceDeviationBps h
  rw [hdeviation, ← Int.lt_add_one_iff]
  exact Int.ediv_lt_iff_lt_mul hreference

theorem JustOutsideCollar.not_within {bps : Nat}
    (h : JustOutsideCollar referencePrice requestedPrice bps) :
    ¬WithinCollar referencePrice requestedPrice bps :=
  Int.not_le.mpr h.1

theorem priceDeviationBps_le_iff_within (bps : Nat)
    (h : priceDeviationBps referencePrice requestedPrice = .ok deviation) :
    deviation.scaled ≤ bps * Decimal.scale ↔
      WithinCollar referencePrice requestedPrice bps
        ∨ JustOutsideCollar referencePrice requestedPrice bps := by
  obtain ⟨hreference, -⟩ := scaled_of_priceDeviationBps h
  have hscale : Decimal.scale = 100000000 := rfl
  have hcomm : (bps : Int) * 100000000 * referencePrice.scaled
      = bps * referencePrice.scaled * 100000000 := mul_right_comm _ _ _
  rw [priceDeviationBps_le_iff bps h, WithinCollar, JustOutsideCollar, hscale,
    add_mul, one_mul, hcomm]
  omega

/-- The comparison is exact away from the sliver just outside the collar. -/
theorem priceDeviationBps_exact_iff
    {referencePrice requestedPrice deviation : Decimal} (bps : Nat)
    (h : priceDeviationBps referencePrice requestedPrice = .ok deviation) :
    (deviation.scaled ≤ bps * Decimal.scale ↔
        WithinCollar referencePrice requestedPrice bps) ↔
      ¬JustOutsideCollar referencePrice requestedPrice bps := by
  rw [priceDeviationBps_le_iff_within bps h]
  constructor
  · intro hexact houtside
    exact houtside.not_within (hexact.mp (.inr houtside))
  · intro hinside
    rw [or_iff_left hinside]

theorem priceDeviationBps_exact_at_hundred :
    ((2500000000 : Int) ≤ (25 : Nat) * Decimal.scale ↔
        WithinCollar ⟨10000000000, by decide, by decide⟩
          ⟨10025000000, by decide, by decide⟩ 25) ↔
      ¬JustOutsideCollar ⟨10000000000, by decide, by decide⟩
        ⟨10025000000, by decide, by decide⟩ 25 :=
  @priceDeviationBps_exact_iff ⟨10000000000, by decide, by decide⟩
    ⟨10025000000, by decide, by decide⟩ ⟨2500000000, by decide, by decide⟩ 25
    (by decide)

def sliverReference : Decimal := ⟨100009999, by decide, by decide⟩

def sliverRequest : Decimal := ⟨100020000, by decide, by decide⟩

/-- At one basis point of 1.00009999 the comparison admits 1.0002, which is
further away. -/
theorem priceDeviationBps_admits_sliver :
    ¬∀ (referencePrice requestedPrice deviation : Decimal) (bps : Nat),
      priceDeviationBps referencePrice requestedPrice = .ok deviation →
        (deviation.scaled ≤ bps * Decimal.scale ↔
          WithinCollar referencePrice requestedPrice bps) := by
  intro h
  have hdeviation : priceDeviationBps sliverReference sliverRequest
      = .ok ⟨100000000, by decide, by decide⟩ := by
    decide
  have hadmits := h _ _ _ 1 hdeviation
  revert hadmits
  decide

end Follon.Domain
