import Follon.Execution.Schedules

/-!
# Participation

A child goes to each window that has capacity, until the parent is allocated;
what the windows cannot take stays unallocated.  No child is larger than its
window's volume at the participation rate.
-/

namespace Follon.Execution

open Domain

/-! ## Windows -/

def windowCapacity (participationBps : Nat) (volume : Decimal) : Int :=
  volume.scaled * participationBps / 10000

def openWindows (participationBps : Nat) (volumes : List Decimal)
    (start : Nat) : List (Decimal × Nat) :=
  (volumes.zipIdx start).filter fun window =>
    0 < windowCapacity participationBps window.1

@[simp] theorem openWindows_nil (participationBps start : Nat) :
    openWindows participationBps [] start = [] :=
  rfl

theorem openWindows_cons (participationBps start : Nat) (volume : Decimal)
    (rest : List Decimal) : openWindows participationBps (volume :: rest) start =
      if 0 < windowCapacity participationBps volume then
        (volume, start) :: openWindows participationBps rest (start + 1)
      else
        openWindows participationBps rest (start + 1) := by
  simp [openWindows, List.zipIdx_cons, List.filter_cons]

def Nonnegative (volumes : List Decimal) : Prop := ∀ volume ∈ volumes, 0 ≤ volume.scaled

theorem windowCapacity_nonneg {participationBps : Nat} {volume : Decimal}
    (h : 0 ≤ volume.scaled) : 0 ≤ windowCapacity participationBps volume :=
  Int.ediv_nonneg (Int.mul_nonneg h (Int.natCast_nonneg _)) (by decide)

theorem windowCapacity_mul_le (participationBps : Nat) (volume : Decimal) :
    windowCapacity participationBps volume * 10000 ≤ volume.scaled * participationBps :=
  Int.ediv_mul_le _ (by decide)

/-! ## The rate -/

def IsRate (participationBps : Nat) (rate : Decimal) : Prop :=
  rate.scaled = participationBps * 10000

variable {participationBps : Nat} {rate volume remaining : Decimal}
  {quantities volumes : List Decimal}

theorem isRate_of_checkedDiv {bps tenThousand : Decimal}
    (hbps : Decimal.fromInteger participationBps = .ok bps)
    (htenThousand : Decimal.fromInteger 10000 = .ok tenThousand)
    (hrate : bps.checkedDiv tenThousand = .ok rate) : IsRate participationBps rate := by
  have hscale : Decimal.scale = 100000000 := rfl
  simp only [Decimal.fromInteger, checked_eq_ok] at hbps htenThousand
  rw [IsRate, (scaled_of_checkedDiv hrate).2, hbps, htenThousand,
    hscale, Int.tdiv_eq_ediv_of_nonneg (by omega)]
  omega

theorem scaled_capacity {capacity : Decimal}
    (hrate : IsRate participationBps rate) (hvolume : 0 ≤ volume.scaled)
    (h : volume.checkedMul rate = .ok capacity) :
    capacity.scaled = windowCapacity participationBps volume := by
  have hscale : Decimal.scale = 10000 * 10000 := rfl
  have hproduct : 0 ≤ volume.scaled * participationBps :=
    Int.mul_nonneg hvolume (Int.natCast_nonneg _)
  rw [scaled_of_checkedMul h, hrate, hscale, ← Int.mul_assoc,
    Int.tdiv_eq_ediv_of_nonneg (by omega),
    Int.mul_ediv_mul_of_pos_left _ _ (by decide), windowCapacity]

/-! ## The loop -/

/-- The loop stops, passes a window without capacity, or schedules a child. -/
theorem participationQuantities_cases {rest : List Decimal}
    (hrate : IsRate participationBps rate) (hvolume : 0 ≤ volume.scaled)
    (hremaining : 0 ≤ remaining.scaled)
    (h : participationQuantities rate (volume :: rest) remaining
      = .ok quantities) : (remaining.scaled = 0 ∧ quantities = [])
      ∨ (0 < remaining.scaled ∧ windowCapacity participationBps volume = 0
        ∧ participationQuantities rate rest remaining = .ok quantities)
      ∨ (0 < remaining.scaled ∧ 0 < windowCapacity participationBps volume
        ∧ ∃ quantity left scheduled, quantity.scaled
              = min (windowCapacity participationBps volume) remaining.scaled
            ∧ left.scaled = remaining.scaled - quantity.scaled
            ∧ participationQuantities rate rest left = .ok scheduled
            ∧ quantities = quantity :: scheduled) := by
  simp only [participationQuantities] at h
  split at h
  · next hzero =>
    obtain rfl := Except.ok.inj h
    exact .inl ⟨by rw [hzero, scaled_zero], rfl⟩
  · next hzero =>
    have hleft : 0 < remaining.scaled := by
      apply lt_of_le_of_ne hremaining
      exact fun hsame => hzero (Decimal.ext hsame.symm)
    simp only [bind_eq_ok] at h
    obtain ⟨capacity, hcapacity, h⟩ := h
    have hscaled := scaled_capacity hrate hvolume hcapacity
    have hnonneg := @windowCapacity_nonneg participationBps volume hvolume
    have hmin := scaled_min capacity remaining
    split at h
    · next hpositive =>
      rw [lt_def, scaled_zero] at hpositive
      simp only [bind_eq_ok, checkedSub_eq_ok] at h
      obtain ⟨left, hsub, scheduled, hscheduled, h⟩ := h
      obtain rfl := Except.ok.inj h
      refine .inr (.inr ⟨hleft, by omega, _, left, scheduled, ?_, hsub,
        hscheduled, rfl⟩)
      rw [hmin, hscaled]
    · next hempty =>
      rw [lt_def, scaled_zero] at hempty
      exact .inr (.inl ⟨hleft, by omega, h⟩)

theorem participationQuantities_capped (hrate : IsRate participationBps rate)
    (hvolumes : Nonnegative volumes) (hremaining : 0 ≤ remaining.scaled)
    (h : participationQuantities rate volumes remaining = .ok quantities)
    (start : Nat) : List.Forall₂ (fun window quantity =>
        quantity.scaled ≤ windowCapacity participationBps window.1)
      ((openWindows participationBps volumes start).take quantities.length)
      quantities := by
  induction volumes generalizing remaining quantities start with
  | nil =>
    obtain rfl := Except.ok.inj h
    exact .nil
  | cons volume rest ih =>
    obtain ⟨hvolume, hrest⟩ := List.forall_mem_cons.mp hvolumes
    rw [openWindows_cons]
    rcases participationQuantities_cases hrate hvolume hremaining h with
      ⟨-, rfl⟩ | ⟨-, hclosed, hrun⟩
        | ⟨-, hopen, quantity, left, scheduled, hquantity, hleft, hrun, rfl⟩
    · exact .nil
    · rw [if_neg (by omega)]
      exact ih hrest hremaining hrun (start + 1)
    · rw [if_pos hopen]
      refine .cons ?_ (ih hrest (by omega) hrun (start + 1))
      rw [hquantity]
      exact min_le_left _ _

/-! ## The plan -/

theorem participation_schedule {quantity : Decimal} {interval : UInt64}
    {schedule : Schedule} (h : (ExecutionAlgorithm.participation participationBps volumes
      interval).schedule quantity = .ok schedule) :
    Nonnegative volumes ∧ interval ≠ 0 ∧ schedule.intervalSeconds = interval
      ∧ ∃ rate, IsRate participationBps rate
        ∧ participationQuantities rate volumes quantity
          = .ok schedule.quantities := by
  simp only [ExecutionAlgorithm.schedule, bind_eq_ok, refuseIf_eq_ok, not_or,
    not_exists, not_and, lt_def, scaled_zero, Int.not_lt] at h
  obtain ⟨-, ⟨-, -, -, hinterval, hvolumes⟩, bps, hbps, tenThousand,
    htenThousand, rate, hrate, quantities, hquantities, h⟩ := h
  obtain rfl := Except.ok.inj h
  exact ⟨hvolumes, hinterval, rfl, rate,
    isRate_of_checkedDiv hbps htenThousand hrate, hquantities⟩

/-- Every child is within its window's volume at the participation rate, and
children and unallocated quantity are the parent's. -/
theorem participation_capped (parent : ParentOrder) (participationBps : Nat)
    (volumes : List Decimal) (interval : UInt64) (plan : ExecutionPlan)
    (h : planExecution parent
      (.participation participationBps volumes interval) = .ok plan) :
    List.Forall₂ (fun (window : Decimal × Nat) (child : ChildInstruction) =>
        child.quantity.scaled * 10000 ≤ window.1.scaled * participationBps)
      ((openWindows participationBps volumes 0).take plan.children.length)
      plan.children ∧ scheduled plan.children + plan.unallocatedQuantity.scaled
      = parent.quantity.scaled := by
  rw [planExecution_direct rfl, planBranchExecution_eq_ok] at h
  obtain ⟨hparent, schedule, hschedule, hplans⟩ := h
  obtain ⟨hvolumes, -, -, rate, hrate, hquantities⟩ :=
    participation_schedule hschedule
  have hcapped := participationQuantities_capped hrate hvolumes
    hparent.quantity.le hquantities 0
  rw [hplans.children, schedule.scheduled_children]
  refine ⟨?_, hplans.conserved⟩
  rw [← schedule.quantities_children parent, List.length_map,
    List.forall₂_map_right_iff] at hcapped
  refine hcapped.imp fun window child hquantity => ?_
  have hcapacity := windowCapacity_mul_le participationBps window.1
  omega

namespace ParticipationRun

def decimal (units : Int) : Decimal :=
  (Decimal.fromInteger units).toOption.getD Decimal.zero

def parent (units : Int) : ParentOrder where
  parentOrderId := "p"
  accountId := "a"
  instrumentId := "i"
  side := .buy
  quantity := decimal units
  limitPrice := none

theorem participation_capped_three : ∃ plan,
    planExecution (parent 3) (.participation 5000 [decimal 4, decimal 4] 60) = .ok plan
      ∧ List.Forall₂ (fun (window : Decimal × Nat) (child : ChildInstruction) =>
          child.quantity.scaled * 10000 ≤ window.1.scaled * (5000 : Nat))
        ((openWindows 5000 [decimal 4, decimal 4] 0).take plan.children.length)
        plan.children
      ∧ scheduled plan.children + plan.unallocatedQuantity.scaled
        = (parent 3).quantity.scaled := by
  obtain ⟨plan, h⟩ : ∃ plan, planExecution (parent 3) (.participation 5000
      [decimal 4, decimal 4] 60) = .ok plan := by
    decide
  exact ⟨plan, h, participation_capped _ _ _ _ _ h⟩

/-- One window of one unit takes one of ten. -/
theorem unallocated_nine : ∃ plan,
    planExecution (parent 10) (.participation 10000 [decimal 1] 60) = .ok plan
      ∧ scheduled plan.children ≠ (parent 10).quantity.scaled := by
  decide

end ParticipationRun

end Follon.Execution
