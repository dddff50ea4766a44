import Follon.Foundation.Drawdown
import Follon.Paper.ComboAtomicity
import Follon.Paper.OrderLifecycle

/-!
# Reduce-only trades

A trade counts as a reduction only when it and every order already working
against the position fit inside the position.  Whatever part of them fills, in
whatever order, the position then keeps its sign and does not grow.
-/

namespace Follon.Paper

open Foundation Domain

/-! ## The unfilled quantities -/

def PaperOrder.unfilled (order : PaperOrder) : Int :=
  order.oms.intent.quantity.scaled - order.filledQuantity.scaled

def PaperComboOrder.unfilled (order : PaperComboOrder) : Int :=
  order.oms.intent.comboQuantity.scaled - order.filledQuantity.scaled

def unfilledRow (instrumentId : String) (side : Side) (order : PaperOrder) : List Int :=
  if order.working = true ∧ order.oms.intent.instrumentId = instrumentId
      ∧ order.oms.intent.side = side then
    [order.unfilled]
  else
    []

def unfilledLeg (instrumentId : String) (side : Side) (unfilled : Int)
    (leg : ComboIntentLeg) : List Int :=
  if leg.instrumentId = instrumentId ∧ leg.side = side then
    [unfilled * leg.ratio]
  else
    []

def unfilledLegs (instrumentId : String) (side : Side)
    (order : PaperComboOrder) : List Int :=
  if order.working = false then
    []
  else
    order.oms.intent.legs.flatMap (unfilledLeg instrumentId side order.unfilled)

namespace Books

/-- What each working order of either kind has left on one side of one
instrument, a combination leg by leg. -/
def unfilledRows (books : Books) (instrumentId : String) (side : Side) : List Int :=
  books.orders.values.flatMap (unfilledRow instrumentId side)
    ++ books.comboOrders.values.flatMap (unfilledLegs instrumentId side)

def reducingRows (books : Books) (instrumentId : String)
    (position : Decimal) : List Int :=
  if Decimal.zero < position then
    books.unfilledRows instrumentId .sell
  else if position < Decimal.zero then
    books.unfilledRows instrumentId .buy
  else
    []

structure FilledWithin (books : Books) : Prop where
  orders : ∀ order ∈ books.orders.values, order.working = true →
    order.filledQuantity ≤ order.oms.intent.quantity
  combos : ∀ order ∈ books.comboOrders.values, order.working = true →
    order.filledQuantity ≤ order.oms.intent.comboQuantity

end Books

variable {instrumentId : String} {side : Side} {total total' : Decimal}
  {books : Books}

theorem addWorking_sum {order : PaperOrder}
    (h : Books.addWorking instrumentId side total order = .ok total') : total'.scaled
      = total.scaled + (unfilledRow instrumentId side order).sum := by
  unfold Books.addWorking at h
  unfold unfilledRow
  split at h
  · next hrow =>
      simp only [bind_eq_ok, checkedSub_eq_ok,
        checkedAdd_eq_ok] at h
      obtain ⟨unfilled, hunfilled, htotal⟩ := h
      rw [if_pos hrow, List.sum_singleton, htotal, hunfilled]
      rfl
  · next hrow =>
      rw [if_neg hrow, List.sum_nil, Int.add_zero, ← Except.ok.inj h]

theorem addWorkingLeg_sum {unfilled : Decimal} {leg : ComboIntentLeg}
    (h : Books.addWorkingLeg instrumentId side unfilled total leg = .ok total') :
    total'.scaled = total.scaled
      + (unfilledLeg instrumentId side unfilled.scaled leg).sum := by
  unfold Books.addWorkingLeg at h
  unfold unfilledLeg
  split at h
  · next hleg =>
      simp only [bind_eq_ok, checkedAdd_eq_ok] at h
      obtain ⟨ratio, hratio, quantity, hquantity, htotal⟩ := h
      have hfactor : ratio.scaled = leg.ratio * Decimal.scale := checked_eq_ok.mp hratio
      have hexact : quantity.scaled = unfilled.scaled * leg.ratio := by
        rw [scaled_of_checkedMul hquantity, hfactor, ← Int.mul_assoc]
        exact Int.mul_tdiv_cancel _ (by decide)
      rw [if_pos hleg, List.sum_singleton, htotal, hexact]
  · next hleg =>
      rw [if_neg hleg, List.sum_nil, Int.add_zero, ← Except.ok.inj h]

theorem addWorkingCombo_sum {order : PaperComboOrder}
    (h : Books.addWorkingCombo instrumentId side total order = .ok total') : total'.scaled
      = total.scaled + (unfilledLegs instrumentId side order).sum := by
  unfold Books.addWorkingCombo at h
  unfold unfilledLegs
  split at h
  · next hidle =>
      rw [if_pos hidle, List.sum_nil, Int.add_zero, ← Except.ok.inj h]
  · next hworking =>
      simp only [bind_eq_ok, checkedSub_eq_ok] at h
      obtain ⟨unfilled, hunfilled, hlegs⟩ := h
      have hsum := foldlM_over (R := fun seen sum =>
          sum.scaled = total.scaled + (seen.flatMap
            (unfilledLeg instrumentId side unfilled.scaled)).sum)
        (fun seen leg before now hbefore hnow => by
          rw [addWorkingLeg_sum hnow, hbefore, List.flatMap_append, List.sum_append]
          simp [Int.add_assoc])
        (by simp : total.scaled = total.scaled + (List.flatMap
          (unfilledLeg instrumentId side unfilled.scaled) []).sum) hlegs
      rw [if_neg hworking, hsum, nil_append, hunfilled]
      rfl

theorem Books.workingQuantity_sum
    (h : books.workingQuantity instrumentId side = .ok total) :
    total.scaled = (books.unfilledRows instrumentId side).sum := by
  simp only [workingQuantity, bind_eq_ok] at h
  obtain ⟨plain, hplain, hcombos⟩ := h
  have horders := foldlM_over (R := fun seen sum =>
      sum.scaled = (seen.flatMap (unfilledRow instrumentId side)).sum)
    (fun seen order before now hbefore hnow => by
      rw [addWorking_sum hnow, hbefore, List.flatMap_append, List.sum_append]
      simp)
    (by simp : Decimal.zero.scaled
      = (List.flatMap (unfilledRow instrumentId side) []).sum) hplain
  have hall := foldlM_over (R := fun seen sum =>
      sum.scaled = plain.scaled + (seen.flatMap (unfilledLegs instrumentId side)).sum)
    (fun seen order before now hbefore hnow => by
      rw [addWorkingCombo_sum hnow, hbefore, List.flatMap_append, List.sum_append]
      simp [Int.add_assoc])
    (by simp : plain.scaled = plain.scaled
      + (List.flatMap (unfilledLegs instrumentId side) []).sum) hcombos
  rw [hall, horders, unfilledRows, List.sum_append]
  rfl

theorem Books.unfilledRows_nonneg (h : books.FilledWithin)
    (instrumentId : String) (side : Side) :
    ∀ amount ∈ books.unfilledRows instrumentId side, 0 ≤ amount := by
  intro amount hamount
  rcases mem_append.mp hamount with horders | hcombos
  · obtain ⟨order, horder, hrow⟩ := List.mem_flatMap.mp horders
    unfold unfilledRow at hrow
    split at hrow
    · next hworking =>
        rw [mem_singleton.mp hrow]
        exact Int.sub_nonneg_of_le (h.orders order horder hworking.1)
    · exact absurd hrow not_mem_nil
  · obtain ⟨order, horder, hlegs⟩ := List.mem_flatMap.mp hcombos
    unfold unfilledLegs at hlegs
    split at hlegs
    · exact absurd hlegs not_mem_nil
    · next hworking =>
        rw [not_eq_false] at hworking
        obtain ⟨leg, -, hleg⟩ := List.mem_flatMap.mp hlegs
        unfold unfilledLeg at hleg
        split at hleg
        · rw [mem_singleton.mp hleg]
          exact Int.mul_nonneg
            (Int.sub_nonneg_of_le (h.combos order horder hworking))
            (Int.natCast_nonneg _)
        · exact absurd hleg not_mem_nil

/-! ## What the classification leaves room for -/

theorem reducesPositionWithWorking_eq_ok {current projected working : Decimal}
    (h : reducesPositionWithWorking current projected working = .ok true) :
    current.scaled ≠ 0 ∧ |projected.scaled - current.scaled| + working.scaled
        ≤ |current.scaled| := by
  unfold reducesPositionWithWorking at h
  split at h
  · next hreduces =>
      simp only [bind_eq_ok, checkedSub_eq_ok,
        checkedAdd_eq_ok] at h
      obtain ⟨moved, hmoved, taken, htaken, claimed, hclaimed, held, hheld, hfits⟩ := h
      have hle : claimed.scaled ≤ held.scaled := of_decide_eq_true (Except.ok.inj hfits)
      rw [hclaimed, scaled_of_magnitude htaken, hmoved,
        scaled_of_magnitude hheld] at hle
      refine ⟨?_, hle⟩
      intro hflat
      simp only [reducesPosition, lt_def, scaled_zero, hflat,
        Int.lt_irrefl, false_and, or_self, decide_false,
        Bool.false_eq_true] at hreduces
  · exact absurd (Except.ok.inj h) Bool.false_ne_true

def towardFlat (current : Decimal) (drawn : Int) : Int :=
  if Decimal.zero < current then current.scaled - drawn
  else current.scaled + drawn

theorem Books.workingReduction_sum {position : Decimal}
    (h : books.workingReduction instrumentId position = .ok total) :
    total.scaled = (books.reducingRows instrumentId position).sum := by
  unfold workingReduction at h
  unfold reducingRows
  split at h
  · next hlong =>
      rw [if_pos hlong]
      exact workingQuantity_sum h
  · next hlong =>
      rw [if_neg hlong]
      split at h
      · next hshort =>
          rw [if_pos hshort]
          exact workingQuantity_sum h
      · next hshort =>
          rw [if_neg hshort, ← Except.ok.inj h]
          rfl

theorem Books.reducingRows_nonneg (h : books.FilledWithin)
    (instrumentId : String) (position : Decimal) :
    ∀ amount ∈ books.reducingRows instrumentId position, 0 ≤ amount := by
  unfold reducingRows
  split
  · exact unfilledRows_nonneg h instrumentId .sell
  · split
    · exact unfilledRows_nonneg h instrumentId .buy
    · exact fun amount hamount => absurd hamount not_mem_nil

namespace PaperTradingService

variable {B : Type} [PaperBrokerAdapter B] [ContentHash]

/-- The hypothesis of `reduction_keeps_side` holds of every reachable
service. -/
theorem reachable_filledWithin {s : PaperTradingService B}
    (hs : Reachable Started Step s) : s.toBooks.FilledWithin := by
  have hrecord := reachable_record hs
  constructor
  · intro order horder _
    obtain ⟨orderId, hfind⟩ := OrderedMap.mem_values.mp horder
    exact (reachable_tracks hrecord hfind).fits
  · intro order horder _
    obtain ⟨orderId, hfind⟩ := OrderedMap.mem_values.mp horder
    exact (reachable_atomic hrecord hfind).1.bounded

end PaperTradingService

namespace Session

attribute [local instance] contentHash

end Session

end Follon.Paper
