import Mathlib.Algebra.Order.BigOperators.Group.List
import Mathlib.Tactic.Linarith

/-!
# Running sums

Totals that are added up one amount after the other and must stay within
bounds all the way.  The order of the amounts decides whether they do, unless
the gains and the losses alone are within the bounds.
-/

namespace Follon.Foundation

def RunsWithin (low high start : Int) (amounts : List Int) : Prop :=
  ∀ seen, seen <+: amounts → low ≤ start + seen.sum ∧ start + seen.sum ≤ high

def gains (amounts : List Int) : Int := (amounts.map (max · 0)).sum

def losses (amounts : List Int) : Int := (amounts.map (min · 0)).sum

variable {low high start : Int} {amounts : List Int}

theorem runsWithin_nil : RunsWithin low high start [] ↔ low ≤ start ∧ start ≤ high := by
  simp [RunsWithin]

theorem runsWithin_cons {amount : Int} :
    RunsWithin low high start (amount :: amounts) ↔ (low ≤ start ∧ start ≤ high) ∧
        RunsWithin low high (start + amount) amounts := by
  constructor
  · intro h
    constructor
    · simpa using h [] List.nil_prefix
    · intro seen hseen
      have := h (amount :: seen) (List.cons_prefix_cons.mpr ⟨rfl, hseen⟩)
      rwa [List.sum_cons, ← Int.add_assoc] at this
  · rintro ⟨hstart, hrest⟩ seen hseen
    cases seen with
    | nil => simpa using hstart
    | cons first seen =>
      obtain ⟨hfirst, htail⟩ := List.cons_prefix_cons.mp hseen
      rw [List.sum_cons, ← Int.add_assoc, hfirst]
      exact hrest seen htail

theorem RunsWithin.start_mem (h : RunsWithin low high start amounts) :
    low ≤ start ∧ start ≤ high := by
  simpa using h [] List.nil_prefix

theorem gains_append (left right : List Int) :
    gains (left ++ right) = gains left + gains right := by
  simp [gains]

theorem losses_append (left right : List Int) :
    losses (left ++ right) = losses left + losses right := by
  simp [losses]

theorem gains_nonneg (amounts : List Int) : 0 ≤ gains amounts := by
  apply List.sum_nonneg
  simp

theorem losses_nonpos (amounts : List Int) : losses amounts ≤ 0 := by
  induction amounts with
  | nil => exact le_refl _
  | cons amount amounts ih =>
    simp only [losses, List.map_cons, List.sum_cons] at ih ⊢
    omega

theorem sum_between (amounts : List Int) :
    losses amounts ≤ amounts.sum ∧ amounts.sum ≤ gains amounts := by
  induction amounts with
  | nil => exact ⟨le_refl _, le_refl _⟩
  | cons amount amounts ih =>
    simp only [losses, gains, List.map_cons, List.sum_cons] at ih ⊢
    omega

theorem runsWithin_of_parts (hlow : low ≤ losses amounts)
    (hhigh : gains amounts ≤ high) : RunsWithin low high 0 amounts := by
  rintro seen ⟨rest, rfl⟩
  have hseen := sum_between seen
  have hlosses := losses_nonpos rest
  have hgains := gains_nonneg rest
  rw [losses_append] at hlow
  rw [gains_append] at hhigh
  omega

theorem runsWithin_sum (h : RunsWithin low high 0 amounts) :
    low ≤ amounts.sum ∧ amounts.sum ≤ high := by
  simpa using h amounts List.prefix_rfl

theorem RunsWithin.of_append {more : List Int}
    (h : RunsWithin low high start (amounts ++ more)) :
    RunsWithin low high start amounts :=
  fun seen hseen => h seen (hseen.trans (List.prefix_append _ _))

/-! ## Amounts contributed one by one -/

section

variable {α : Type} {amount : α → Option Int}

def contributed (amount : α → Option Int) (contributors : List α) : List Int :=
  contributors.flatMap fun a => (amount a).toList

theorem contributed_append (left right : List α) : contributed amount (left ++ right)
      = contributed amount left ++ contributed amount right := by
  simp [contributed]

theorem contributed_perm {left right : List α} (h : left.Perm right) :
    (contributed amount left).Perm (contributed amount right) :=
  h.flatMap_right _

theorem gains_filter (contributors : List α) : (contributed amount (contributors.filter
      fun a => (amount a).any (0 < ·))).sum
        = gains (contributed amount contributors) := by
  induction contributors with
  | nil => rfl
  | cons a rest ih =>
    have hsplit : gains (contributed amount (a :: rest))
        = gains (amount a).toList + gains (contributed amount rest) := by
      rw [← gains_append]
      rfl
    rw [hsplit, ← ih]
    cases hamount : amount a with
    | none => simp [hamount, gains]
    | some value =>
      by_cases hpos : 0 < value
      · simp [hamount, hpos, gains, contributed, max_eq_left hpos.le]
      · simp [hamount, hpos, gains, max_eq_right (not_lt.mp hpos)]

theorem losses_filter (contributors : List α) : (contributed amount (contributors.filter
      fun a => (amount a).any (· < 0))).sum
        = losses (contributed amount contributors) := by
  induction contributors with
  | nil => rfl
  | cons a rest ih =>
    have hsplit : losses (contributed amount (a :: rest))
        = losses (amount a).toList + losses (contributed amount rest) := by
      rw [← losses_append]
      rfl
    rw [hsplit, ← ih]
    cases hamount : amount a with
    | none => simp [hamount, losses]
    | some value =>
      by_cases hneg : value < 0
      · simp [hamount, hneg, losses, contributed, min_eq_left hneg.le]
      · simp [hamount, hneg, losses, min_eq_right (not_lt.mp hneg)]

/-- In every order of the contributors the totals stay within the bounds
exactly when the gains and the losses do. -/
theorem runsWithin_all_orders_iff {contributors : List α} :
    (∀ order : List α, order.Perm contributors →
        RunsWithin low high 0 (contributed amount order)) ↔
      low ≤ losses (contributed amount contributors) ∧
        gains (contributed amount contributors) ≤ high := by
  constructor
  · intro h
    constructor
    · have hfirst := h _ (List.filter_append_perm
        (fun a => (amount a).any (· < 0)) contributors)
      rw [contributed_append] at hfirst
      rw [← losses_filter]
      exact (runsWithin_sum hfirst.of_append).1
    · have hfirst := h _ (List.filter_append_perm
        (fun a => (amount a).any (0 < ·)) contributors)
      rw [contributed_append] at hfirst
      rw [← gains_filter]
      exact (runsWithin_sum hfirst.of_append).2
  · rintro ⟨hlow, hhigh⟩ order hperm
    have hcontributed : (contributed amount order).Perm
        (contributed amount contributors) := contributed_perm hperm
    apply runsWithin_of_parts
    · rwa [losses, (hcontributed.map _).sum_eq]
    · rwa [gains, (hcontributed.map _).sum_eq]

end

end Follon.Foundation
