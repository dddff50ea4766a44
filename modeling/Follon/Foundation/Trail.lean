import Mathlib.Data.List.Chain
import Mathlib.Data.List.Nodup

/-!
# Trails of a partial function

Following a partial function from a start visits distinct elements until it is
not defined or comes back.  There is one such complete trail.
-/

namespace Follon.Foundation

variable {α : Type} {next : α → Option α} {start : α}

structure Trail (next : α → Option α) (start : α) (trail : List α) : Prop where
  start : trail.head? = some start
  linked : trail.IsChain fun a b => next a = some b
  distinct : trail.Nodup

namespace Trail

def Complete (next : α → Option α) (trail : List α) : Prop :=
  ∀ last ∈ trail.getLast?, ∀ a ∈ next last, a ∈ trail

theorem single (next : α → Option α) (start : α) : Trail next start [start] where
  start := rfl
  linked := List.isChain_singleton start
  distinct := List.nodup_singleton start

theorem concat {trail : List α} (h : Trail next start trail) {last a : α}
    (hlast : trail.getLast? = some last) (hnext : next last = some a)
    (hnew : a ∉ trail) : Trail next start (trail ++ [a]) where
  start := by
    rw [List.head?_append, h.start]
    rfl
  linked := by
    refine h.linked.append (List.isChain_singleton a) ?_
    intro x hx y hy
    rw [Option.mem_def, hlast] at hx
    obtain rfl := Option.some.inj hx
    obtain rfl := Option.some.inj hy
    exact hnext
  distinct := by
    refine List.nodup_append.mpr ⟨h.distinct, List.nodup_singleton a, ?_⟩
    intro x hx y hy
    rw [List.mem_singleton.mp hy]
    rintro rfl
    exact hnew hx

theorem ne_nil {trail : List α} (h : Trail next start trail) : trail ≠ [] := by
  rintro rfl
  exact absurd h.start (Option.some_ne_none start).symm

end Trail

end Follon.Foundation
