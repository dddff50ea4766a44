import Mathlib.Algebra.BigOperators.Ring.Finset
import Mathlib.Algebra.Order.BigOperators.Group.Finset
import Mathlib.Tactic.Linarith
import Mathlib.Tactic.Ring

/-!
# Sums over subsets

The smallest and the largest sum over the sublists of a list, and the largest
magnitude such a sum can have.
-/

namespace Follon.Foundation.SubsetSums

variable {α : Type} (f : α → Int) (items : List α)

def reachable (base : Int) : Set Int :=
  {total | ∃ taken : List α, taken.Sublist items ∧
    base + (taken.map f).sum = total}

def low : Int := (items.map fun a => min (f a) 0).sum

def high : Int := (items.map fun a => max (f a) 0).sum

variable {f items}

theorem low_le_sum {taken : List α} (h : taken.Sublist items) :
    low f items ≤ (taken.map f).sum := by
  induction h with
  | slnil => exact le_refl _
  | cons a _ ih =>
    simp only [low, List.map_cons, List.sum_cons] at ih ⊢
    omega
  | cons_cons a _ ih =>
    simp only [low, List.map_cons, List.sum_cons] at ih ⊢
    omega

theorem sum_le_high {taken : List α} (h : taken.Sublist items) :
    (taken.map f).sum ≤ high f items := by
  induction h with
  | slnil => exact le_refl _
  | cons a _ ih =>
    simp only [high, List.map_cons, List.sum_cons] at ih ⊢
    omega
  | cons_cons a _ ih =>
    simp only [high, List.map_cons, List.sum_cons] at ih ⊢
    omega

theorem sum_filter_neg (items : List α) :
    ((items.filter fun a => f a < 0).map f).sum = low f items := by
  induction items with
  | nil => rfl
  | cons a items ih =>
    simp only [low, List.map_cons, List.sum_cons] at ih ⊢
    by_cases ha : f a < 0
    · rw [List.filter_cons, if_pos (decide_eq_true ha), List.map_cons, List.sum_cons]
      omega
    · rw [List.filter_cons, if_neg (by simpa using ha)]
      omega

theorem sum_filter_nonneg (items : List α) :
    ((items.filter fun a => 0 ≤ f a).map f).sum = high f items := by
  induction items with
  | nil => rfl
  | cons a items ih =>
    simp only [high, List.map_cons, List.sum_cons] at ih ⊢
    by_cases ha : 0 ≤ f a
    · rw [List.filter_cons, if_pos (decide_eq_true ha), List.map_cons, List.sum_cons]
      omega
    · rw [List.filter_cons, if_neg (by simpa using ha)]
      omega

theorem isGreatest_abs (base : Int) :
    IsGreatest ((fun total => |total|) '' reachable f items base)
      (max |base + low f items| |base + high f items|) := by
  constructor
  · rcases max_choice |base + low f items| |base + high f items| with
      hmax | hmax <;> rw [hmax]
    · exact ⟨_, ⟨_, List.filter_sublist, rfl⟩, by rw [sum_filter_neg]⟩
    · exact ⟨_, ⟨_, List.filter_sublist, rfl⟩, by rw [sum_filter_nonneg]⟩
  · rintro _ ⟨_, ⟨taken, htaken, rfl⟩, rfl⟩
    have hlow := @low_le_sum _ f _ _ htaken
    have hhigh := @sum_le_high _ f _ _ htaken
    exact abs_le_max_abs_abs (by omega) (by omega)

end Follon.Foundation.SubsetSums

/-!
## Greedy consumption

What is taken from the dearest stocks first costs the most that the same
quantity can cost.
-/

namespace Follon.Foundation

variable {ι R : Type} [CommRing R] [LinearOrder R] [IsStrictOrderedRing R]
  {stocks : Finset ι} {taken other price capacity : ι → R}

def DearestFirst (stocks : Finset ι) (price capacity taken : ι → R) : Prop :=
  ∀ i ∈ stocks, ∀ j ∈ stocks, price j < price i → 0 < taken j → taken i = capacity i

theorem other_eq_zero (htaken : ∀ i ∈ stocks, taken i = 0)
    (hother : ∀ i ∈ stocks, 0 ≤ other i)
    (hsum : ∑ i ∈ stocks, other i = ∑ i ∈ stocks, taken i) :
    ∀ i ∈ stocks, other i = 0 := by
  rw [Finset.sum_eq_zero htaken] at hsum
  exact (Finset.sum_eq_zero_iff_of_nonneg hother).mp hsum

theorem sum_mul_le_at (level : R)
    (hterm : ∀ i ∈ stocks, (other i - taken i) * (price i - level) ≤ 0)
    (hsum : ∑ i ∈ stocks, other i = ∑ i ∈ stocks, taken i) :
    ∑ i ∈ stocks, other i * price i ≤ ∑ i ∈ stocks, taken i * price i := by
  have hnonpos := Finset.sum_nonpos hterm
  have hsplit : ∑ i ∈ stocks, (other i - taken i) * (price i - level)
      = (∑ i ∈ stocks, other i * price i - ∑ i ∈ stocks, taken i * price i) -
        (∑ i ∈ stocks, other i - ∑ i ∈ stocks, taken i) * level := by
    rw [← Finset.sum_sub_distrib, ← Finset.sum_sub_distrib, Finset.sum_mul,
      ← Finset.sum_sub_distrib]
    apply Finset.sum_congr rfl
    intro i _
    ring
  rw [hsplit, hsum, sub_self, zero_mul, sub_zero] at hnonpos
  exact sub_nonpos.mp hnonpos

theorem sum_mul_le_of_dearestFirst (hgreedy : DearestFirst stocks price capacity taken)
    (htaken : ∀ i ∈ stocks, 0 ≤ taken i)
    (hother : ∀ i ∈ stocks, 0 ≤ other i ∧ other i ≤ capacity i)
    (hsum : ∑ i ∈ stocks, other i = ∑ i ∈ stocks, taken i) :
    ∑ i ∈ stocks, other i * price i ≤ ∑ i ∈ stocks, taken i * price i := by
  by_cases hsome : ∃ j ∈ stocks, 0 < taken j
  · -- the cheapest stock that is touched sets the level
    have hne : (stocks.filter fun j => 0 < taken j).Nonempty := by
      obtain ⟨j, hj, hpositive⟩ := hsome
      exact ⟨j, Finset.mem_filter.mpr ⟨hj, hpositive⟩⟩
    obtain ⟨cheapest, hcheapest, hleast⟩ :=
      Finset.exists_min_image _ price hne
    rw [Finset.mem_filter] at hcheapest
    apply sum_mul_le_at (price cheapest) _ hsum
    intro i hi
    rcases lt_trichotomy (price i) (price cheapest) with hlt | heq | hgt
    · have hzero : taken i = 0 := by
        apply le_antisymm _ (htaken i hi)
        by_contra hpositive
        rw [not_le] at hpositive
        have hle := hleast i (Finset.mem_filter.mpr ⟨hi, hpositive⟩)
        exact absurd hlt (not_lt.mpr hle)
      rw [hzero, sub_zero]
      exact mul_nonpos_of_nonneg_of_nonpos (hother i hi).1
        (sub_nonpos.mpr hlt.le)
    · rw [heq, sub_self, mul_zero]
    · have hfull := hgreedy i hi cheapest hcheapest.1 hgt hcheapest.2
      rw [hfull]
      exact mul_nonpos_of_nonpos_of_nonneg
        (sub_nonpos.mpr (hother i hi).2) (sub_nonneg.mpr hgt.le)
  · have hzero : ∀ i ∈ stocks, taken i = 0 := by
      intro i hi
      apply le_antisymm _ (htaken i hi)
      by_contra hpositive
      exact hsome ⟨i, hi, not_le.mp hpositive⟩
    have hnone := other_eq_zero hzero (fun i hi => (hother i hi).1) hsum
    apply le_of_eq
    apply Finset.sum_congr rfl
    intro i hi
    rw [hzero i hi, hnone i hi]

end Follon.Foundation
