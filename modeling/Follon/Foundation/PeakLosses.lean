import Mathlib.Order.Bounds.Basic
import Mathlib.Order.MinMax

/-!
# Losses from the highest value so far

One pass keeps the highest value seen and the worst loss from it.  Where a
higher start never makes a loss smaller, that is the worst loss over all pairs
of an earlier and a later value.
-/

namespace Follon.Foundation.PeakLosses

variable {α β : Type} [LinearOrder α]
variable (counts : α → α → Prop) (loss : α → α → β)

/-! ## The pass -/

def track [LinearOrder β] [DecidableRel counts] (acc : α × β) (value : α) : α × β :=
  let peak := max acc.1 value
  (peak, if counts peak value then max acc.2 (loss peak value) else acc.2)

def highest (first : α) (values : List α) : α := values.foldl max first

def losses (first : α) (values : List α) : Set β :=
  {l | ∃ before value, before ++ [value] <+: values ∧
    counts (highest first (before ++ [value])) value ∧
    loss (highest first (before ++ [value])) value = l}

/-! ## The highest value -/

theorem le_highest (first : α) (values : List α) :
    ∀ value ∈ first :: values, value ≤ highest first values := by
  induction values generalizing first with
  | nil => simp [highest]
  | cons next values ih =>
    have hnext := ih (max first next) (max first next) List.mem_cons_self
    intro value hvalue
    rcases List.mem_cons.mp hvalue with rfl | hvalue
    · exact (le_max_left _ _).trans hnext
    · rcases List.mem_cons.mp hvalue with rfl | hvalue
      · exact (le_max_right _ _).trans hnext
      · exact ih (max first next) value (List.mem_cons_of_mem _ hvalue)

theorem highest_mem (first : α) (values : List α) :
    highest first values ∈ first :: values := by
  induction values generalizing first with
  | nil => simp [highest]
  | cons next values ih =>
    change highest (max first next) values ∈ first :: next :: values
    rcases List.mem_cons.mp (ih (max first next)) with hmax | hmem
    · rw [hmax]
      rcases max_choice first next with h | h <;> simp [h]
    · simp [hmem]

theorem highest_concat (first : α) (values : List α) (value : α) :
    highest first (values ++ [value]) = max (highest first values) value := by
  simp [highest]

/-! ## The worst loss -/

theorem mem_losses_cons {first next : α} {values : List α} {l : β} :
    l ∈ losses counts loss first (next :: values) ↔
      (counts (max first next) next ∧ loss (max first next) next = l) ∨
        l ∈ losses counts loss (max first next) values := by
  constructor
  · rintro ⟨before, value, hbegins, hcounts, hloss⟩
    cases before with
    | nil =>
      obtain ⟨rfl, -⟩ := List.cons_prefix_cons.mp hbegins
      exact Or.inl ⟨hcounts, hloss⟩
    | cons head before =>
      obtain ⟨rfl, hrest⟩ := List.cons_prefix_cons.mp hbegins
      exact Or.inr ⟨before, value, hrest, hcounts, hloss⟩
  · rintro (⟨hcounts, hloss⟩ | ⟨before, value, hbegins, hcounts, hloss⟩)
    · exact ⟨[], next, by simp, hcounts, hloss⟩
    · exact ⟨next :: before, value,
        List.cons_prefix_cons.mpr ⟨rfl, hbegins⟩, hcounts, hloss⟩

theorem isGreatest_track [LinearOrder β] [DecidableRel counts] (first : α)
    (worst : β) (values : List α) :
    IsGreatest (insert worst (losses counts loss first values))
      (values.foldl (track counts loss) (first, worst)).2 := by
  induction values generalizing first worst with
  | nil =>
    refine ⟨Set.mem_insert _ _, ?_⟩
    rintro l (rfl | ⟨before, value, hbegins, -⟩)
    · exact le_refl _
    · simp at hbegins
  | cons next values ih =>
    simp only [List.foldl_cons, track]
    split
    · next hcounts =>
        obtain ⟨hmem, hupper⟩ := ih (max first next)
          (max worst (loss (max first next) next))
        have hworst := hupper (Set.mem_insert _ _)
        constructor
        · rcases hmem with hmax | hlater
          · rw [hmax]
            rcases max_choice worst (loss (max first next) next)
              with h | h
            · rw [h]
              exact Set.mem_insert _ _
            · rw [h]
              exact Or.inr ((mem_losses_cons counts loss).mpr (Or.inl ⟨hcounts, rfl⟩))
          · exact Or.inr ((mem_losses_cons counts loss).mpr (Or.inr hlater))
        · rintro l (rfl | hl)
          · exact (le_max_left _ _).trans hworst
          · rcases (mem_losses_cons counts loss).mp hl with
              ⟨-, rfl⟩ | hlater
            · exact (le_max_right _ _).trans hworst
            · exact hupper (Or.inr hlater)
    · next hcounts =>
        obtain ⟨hmem, hupper⟩ := ih (max first next) worst
        constructor
        · rcases hmem with hmax | hlater
          · exact Or.inl hmax
          · exact Or.inr ((mem_losses_cons counts loss).mpr (Or.inr hlater))
        · rintro l (rfl | hl)
          · exact hupper (Set.mem_insert _ _)
          · rcases (mem_losses_cons counts loss).mp hl with
              ⟨habsurd, -⟩ | hlater
            · exact absurd habsurd hcounts
            · exact hupper (Or.inr hlater)

end Follon.Foundation.PeakLosses
