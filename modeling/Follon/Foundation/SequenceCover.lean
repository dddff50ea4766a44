import Mathlib.Data.List.Induction

/-!
# Increasing sequences and the ranges they skip

A cursor takes larger and larger numbers.  Each step reports the numbers it
skips as one range, so all the ranges together are the numbers between the
first and the last that were not taken, each in one range.
-/

namespace Follon.Foundation

def skipped (cursor : Option ℕ) (taken : ℕ) : List (ℕ × ℕ) :=
  match cursor with
  | some last => if last + 1 < taken then [(last + 1, taken - 1)] else []
  | none => []

theorem skipped_some (last taken : ℕ) : skipped (some last) taken =
      if last + 1 < taken then [(last + 1, taken - 1)] else [] :=
  rfl

def InRanges (ranges : List (ℕ × ℕ)) (n : ℕ) : Prop :=
  ∃ range ∈ ranges, range.1 ≤ n ∧ n ≤ range.2

structure SequenceCover (taken : List ℕ) (ranges : List (ℕ × ℕ)) : Prop where
  increasing : taken.Pairwise (· < ·)
  nonempty : ∀ range ∈ ranges, range.1 ≤ range.2
  disjoint : ranges.Pairwise fun range later => range.2 < later.1
  exact : ∀ n, InRanges ranges n ↔ n ∉ taken ∧ (∃ first ∈ taken.head?, first < n) ∧
      ∃ last ∈ taken.getLast?, n < last

namespace SequenceCover

theorem nil : SequenceCover [] [] where
  increasing := List.Pairwise.nil
  nonempty := by simp
  disjoint := List.Pairwise.nil
  exact := by simp [InRanges]

variable {ranges : List (ℕ × ℕ)} {n last : ℕ} {before : List ℕ}

theorem inRanges_append {ranges' : List (ℕ × ℕ)} : InRanges (ranges ++ ranges') n ↔
      InRanges ranges n ∨ InRanges ranges' n := by
  simp [InRanges, or_and_right, exists_or]

theorem inRanges_skipped {taken : ℕ} :
    InRanges (skipped (some last) taken) n ↔ last < n ∧ n < taken := by
  rw [skipped_some]
  unfold InRanges
  split
  · next h =>
      simp only [List.mem_singleton, exists_eq_left]
      omega
  · next h =>
      simp only [List.not_mem_nil, false_and, exists_false, false_iff]
      omega

theorem single (number : ℕ) : SequenceCover [number] [] where
  increasing := List.pairwise_singleton _ _
  nonempty := by simp
  disjoint := List.Pairwise.nil
  exact := by
    intro n
    simp only [InRanges, List.not_mem_nil, false_and, exists_false, List.head?_cons,
      Option.mem_some_iff, exists_eq_left', List.getLast?_singleton, false_iff]
    omega

theorem below_last (h : SequenceCover (before ++ [last]) ranges)
    (hn : InRanges ranges n) : n < last := by
  obtain ⟨-, -, last', hlast', hlt⟩ := (h.exact n).mp hn
  rw [List.getLast?_concat, Option.mem_some_iff] at hlast'
  rw [hlast']
  exact hlt

theorem first_le (h : SequenceCover (before ++ [last]) ranges) :
    ∃ first, (before ++ [last]).head? = some first ∧ first ≤ last := by
  cases before with
  | nil => exact ⟨last, rfl, Nat.le_refl _⟩
  | cons first before =>
    have hlt := (List.pairwise_append.mp h.increasing).2.2 first
      List.mem_cons_self last (List.mem_singleton_self _)
    exact ⟨first, rfl, Nat.le_of_lt hlt⟩

theorem concat {number : ℕ} (h : SequenceCover (before ++ [last]) ranges)
    (hnext : last < number) : SequenceCover (before ++ [last] ++ [number])
      (ranges ++ skipped (some last) number) := by
  have hbefore : ∀ n ∈ before, n < last := fun n hn =>
    (List.pairwise_append.mp h.increasing).2.2 n hn last
      (List.mem_singleton_self _)
  have hskipped : ∀ range ∈ skipped (some last) number,
      range = (last + 1, number - 1) ∧ last + 1 < number := by
    intro range hrange
    rw [skipped_some] at hrange
    split at hrange
    · next hlt => exact ⟨List.mem_singleton.mp hrange, hlt⟩
    · simp at hrange
  constructor
  · refine List.pairwise_append.mpr
      ⟨h.increasing, List.pairwise_singleton _ _, ?_⟩
    intro n hn n' hn'
    obtain rfl := List.mem_singleton.mp hn'
    rcases List.mem_append.mp hn with hn | hn
    · exact Nat.lt_trans (hbefore n hn) hnext
    · rw [List.mem_singleton.mp hn]
      exact hnext
  · intro range hrange
    rcases List.mem_append.mp hrange with hrange | hrange
    · exact h.nonempty range hrange
    · obtain ⟨rfl, hlt⟩ := hskipped range hrange
      change last + 1 ≤ number - 1
      omega
  · refine List.pairwise_append.mpr ⟨h.disjoint, ?_, ?_⟩
    · rw [skipped_some]
      split <;> simp
    · intro range hrange later hlater
      obtain ⟨rfl, -⟩ := hskipped later hlater
      have hlt := h.below_last
        ⟨range, hrange, h.nonempty range hrange, Nat.le_refl _⟩
      change range.2 < last + 1
      omega
  · intro n
    obtain ⟨first, hfirst, hle⟩ := h.first_le
    have hold := h.exact n
    rw [inRanges_append, inRanges_skipped, List.head?_append, hfirst,
      List.getLast?_concat]
    rw [hfirst, List.getLast?_concat] at hold
    simp only [Option.mem_some_iff, exists_eq_left', List.mem_append,
      List.mem_singleton, Option.some_or] at hold ⊢
    rcases Nat.lt_trichotomy n last with hlt | rfl | hlt
    · rw [hold]
      constructor
      · rintro (⟨hn, hf, -⟩ | ⟨hl, -⟩)
        · refine ⟨?_, hf, by omega⟩
          rintro (hmem | hself)
          · exact hn hmem
          · omega
        · omega
      · rintro ⟨hn, hf, -⟩
        exact Or.inl ⟨fun hmem => hn (Or.inl hmem), hf, hlt⟩
    · constructor
      · rintro (hranges | ⟨habsurd, -⟩)
        · exact absurd (Or.inr rfl) (hold.mp hranges).1
        · omega
      · rintro ⟨hn, -⟩
        exact absurd (Or.inl (Or.inr rfl)) hn
    · constructor
      · rintro (hranges | ⟨-, hn⟩)
        · have := h.below_last hranges
          omega
        · refine ⟨?_, by omega, hn⟩
          rintro ((hmem | hself) | hself)
          · have := hbefore n hmem
            omega
          · omega
          · omega
      · rintro ⟨-, -, hn⟩
        exact Or.inr ⟨hlt, hn⟩

theorem snoc {taken : List ℕ} {number : ℕ} {ranges : List (ℕ × ℕ)}
    (h : SequenceCover taken ranges) (hnext : ∀ last ∈ taken.getLast?, last < number) :
    SequenceCover (taken ++ [number])
      (ranges ++ skipped taken.getLast? number) := by
  cases taken using List.reverseRec with
  | nil =>
    have hranges : ranges = [] := by
      cases ranges with
      | nil => rfl
      | cons range ranges =>
        have hmem := (h.exact range.1).mp
          ⟨range, List.mem_cons_self, Nat.le_refl _, h.nonempty range List.mem_cons_self⟩
        simp at hmem
    rw [hranges]
    exact single number
  | append_singleton before last =>
    rw [List.getLast?_concat] at hnext ⊢
    exact h.concat (hnext last rfl)

end SequenceCover

end Follon.Foundation
