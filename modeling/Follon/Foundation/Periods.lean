import Mathlib

/-!
# Half-open periods

Periods of a linear order that hold their start and not their end; a period
without an end has `⊤` for one.
-/

namespace Follon.Foundation

structure Period (α : Type) where
  start : α
  stop : WithTop α

namespace Period

variable {α : Type} [LinearOrder α]

def moments (period : Period α) : Set α :=
  {moment | period.start ≤ moment ∧ (moment : WithTop α) < period.stop}

def Proper (period : Period α) : Prop := (period.start : WithTop α) < period.stop

variable {period later : Period α}

theorem nonempty_moments_iff : period.moments.Nonempty ↔ period.Proper := by
  constructor
  · intro h
    cases h with
    | intro moment hmoment =>
      exact lt_of_le_of_lt (WithTop.coe_le_coe.mpr hmoment.1) hmoment.2
  · intro h
    exact ⟨period.start, le_refl _, h⟩

def EndsBefore (period later : Period α) : Prop := period.stop ≤ later.start

theorem EndsBefore.disjoint (h : period.EndsBefore later)
    : Disjoint period.moments later.moments := by
  rw [Set.disjoint_left]
  intro moment hmoment hlater
  exact absurd (lt_of_lt_of_le hmoment.2 h)
    (not_lt_of_ge (WithTop.coe_le_coe.mpr hlater.1))

theorem endsBefore_of_disjoint (hproper : later.Proper)
    (hstart : period.start ≤ later.start)
    (h : Disjoint period.moments later.moments) : period.EndsBefore later := by
  apply le_of_not_gt
  intro hover
  exact Set.disjoint_left.mp h ⟨hstart, hover⟩ ⟨le_refl _, hproper⟩

theorem EndsBefore.trans {first second third : Period α}
    (hproper : second.Proper) (h : first.EndsBefore second)
    (h' : second.EndsBefore third) : first.EndsBefore third :=
  le_trans h (le_trans (le_of_lt hproper) h')

theorem isChain_endsBefore_iff {periods : List (Period α)}
    (hproper : ∀ period ∈ periods, period.Proper)
    (hsorted : periods.Pairwise fun period later =>
      period.start ≤ later.start) : periods.IsChain EndsBefore ↔
      periods.Pairwise fun period later =>
        Disjoint period.moments later.moments := by
  induction periods with
  | nil => simp
  | cons first rest ih =>
    rw [List.forall_mem_cons] at hproper
    rw [List.pairwise_cons] at hsorted ⊢
    cases rest with
    | nil => simp
    | cons second rest =>
      rw [List.isChain_cons_cons, ih hproper.2 hsorted.2]
      constructor
      · intro h
        refine ⟨?_, h.2⟩
        have hpairs := List.pairwise_cons.mp h.2
        intro later hlater
        cases List.mem_cons.mp hlater with
        | inl hsecond => exact hsecond ▸ h.1.disjoint
        | inr hrest =>
          have hstart := (List.pairwise_cons.mp hsorted.2).1 later hrest
          have hsecond := endsBefore_of_disjoint
            (hproper.2 later hlater) hstart (hpairs.1 later hrest)
          exact (h.1.trans (hproper.2 second List.mem_cons_self) hsecond).disjoint
      · intro h
        refine ⟨?_, h.2⟩
        exact endsBefore_of_disjoint
          (hproper.2 second List.mem_cons_self)
          (hsorted.1 second List.mem_cons_self)
          (h.1 second List.mem_cons_self)

end Period

end Follon.Foundation
