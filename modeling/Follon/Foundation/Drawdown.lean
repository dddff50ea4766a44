import Follon.Foundation.Transition
import Mathlib.Algebra.Order.BigOperators.Group.List
import Mathlib.Algebra.Order.Group.Unbundled.Basic
import Mathlib.Tactic.Abel

/-!
# Drawing several amounts down

Several amounts are drawn down by parts, in any order and each only as far as
it goes.  Whatever is drawn, it is never more than all of them together.
-/

namespace Follon.Foundation

variable {α : Type} [AddCommGroup α] [LinearOrder α] [IsOrderedAddMonoid α]

structure Drawdown (α : Type) where
  drawn : α
  left : List α

namespace Drawdown

inductive Draw : Drawdown α → Drawdown α → Prop
  | draw (before after : List α) {drawn amount part : α} (hpart : 0 ≤ part)
      (hfits : part ≤ amount) :
      Draw ⟨drawn, before ++ amount :: after⟩
        ⟨drawn + part, before ++ (amount - part) :: after⟩

/-- Nothing is owed twice: what is left and what is drawn make up the total,
and no amount goes below zero. -/
structure Within (total : α) (s : Drawdown α) : Prop where
  total : s.drawn + s.left.sum = total
  drawn : 0 ≤ s.drawn
  left : ∀ amount ∈ s.left, 0 ≤ amount

theorem Within.draw {total : α} {s t : Drawdown α} (h : s.Within total)
    (hdraw : Draw s t) : t.Within total := by
  cases hdraw with
  | @draw before after drawn amount part hpart hfits =>
    refine ⟨?_, add_nonneg h.drawn hpart, ?_⟩
    · rw [← h.total]
      simp only [List.sum_append, List.sum_cons]
      abel
    · intro other hother
      rcases List.mem_append.mp hother with hbefore | hrest
      · exact h.left other (List.mem_append_left _ hbefore)
      · rcases List.mem_cons.mp hrest with rfl | hafter
        · exact sub_nonneg.mpr hfits
        · exact h.left other (List.mem_append_right _ (List.mem_cons_of_mem _ hafter))

theorem Within.drawn_le {total : α} {s : Drawdown α} (h : s.Within total) :
    s.drawn ≤ total := by
  rw [← h.total]
  exact le_add_of_nonneg_right (List.sum_nonneg h.left)

theorem drawn_between {amounts : List α} (hamounts : ∀ a ∈ amounts, 0 ≤ a)
    {s : Drawdown α} (hrun : Runs Draw ⟨0, amounts⟩ s) :
    0 ≤ s.drawn ∧ s.drawn ≤ amounts.sum := by
  have hstart : Within amounts.sum ⟨0, amounts⟩ := ⟨zero_add _, le_refl _, hamounts⟩
  have hend := hrun.keeps (fun _ _ => Within.draw) hstart
  exact ⟨hend.drawn, hend.drawn_le⟩

end Drawdown

end Follon.Foundation
