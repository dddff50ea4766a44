import Follon.Execution.AlgoWheel
import Follon.Execution.Participation
import Follon.Execution.ScheduledPlans

/-!
# Offsets

A child of the `n`-th slice belongs `n` intervals after the start.  The VWAP
planner wraps that product, and the participation branch counts children where
it should count windows; all other offsets are exact.
-/

namespace Follon.Execution

open Domain

/-! ## Pointwise bounded lists -/

variable {xs ys : List Nat} {xss yss : List (List Nat)} {quantity : Int}
  {rate remaining : Decimal}

theorem sum_le_of_forall₂ (h : List.Forall₂ (· ≤ ·) xs ys) : xs.sum ≤ ys.sum := by
  induction h with
  | nil => simp
  | cons hle hrest ih =>
    simp only [List.sum_cons]
    omega

theorem eq_of_sum_eq (h : List.Forall₂ (· ≤ ·) xs ys) (hsum : xs.sum = ys.sum)
    : xs = ys := by
  induction h with
  | nil => rfl
  | cons hle hrest ih =>
    have := sum_le_of_forall₂ hrest
    simp only [List.sum_cons] at hsum
    rw [ih (by omega)]
    congr 1
    omega

theorem sum_flatten_le (h : List.Forall₂ (List.Forall₂ (· ≤ ·)) xss yss) :
    xss.flatten.sum ≤ yss.flatten.sum := by
  induction h with
  | nil => simp
  | cons hle hrest ih =>
    have := sum_le_of_forall₂ hle
    simp only [List.flatten_cons, List.sum_append]
    omega

theorem perm_flatten_iff (h : List.Forall₂ (List.Forall₂ (· ≤ ·)) xss yss) :
    xss.flatten.Perm yss.flatten ↔ xss = yss := by
  constructor
  · intro hperm
    have hsum := hperm.sum_nat
    clear hperm
    induction h with
    | nil => rfl
    | cons hle hrest ih =>
      have := sum_le_of_forall₂ hle
      have := sum_flatten_le hrest
      simp only [List.flatten_cons, List.sum_append] at hsum
      rw [ih (by omega), eq_of_sum_eq hle (by omega)]
  · rintro rfl
    exact .refl _

/-! ## Windows of a participation -/

theorem le_openWindows (participationBps : Nat) (volumes : List Decimal)
    (start position : Nat)
    (h : position < (openWindows participationBps volumes start).length) :
    start + position
      ≤ ((openWindows participationBps volumes start)[position]).2 := by
  induction volumes generalizing start position with
  | nil => simp at h
  | cons volume rest ih =>
    simp only [openWindows_cons] at h ⊢
    split at h
    · next hopen =>
      simp only [if_pos hopen]
      cases position with
      | zero => simp
      | succ position =>
        have := ih (start + 1) position (by simpa using h)
        simp only [List.getElem_cons_succ]
        omega
    · next hclosed =>
      simp only [if_neg hclosed]
      have := ih (start + 1) position h
      omega

def GapFree (participationBps : Nat) (volumes : List Decimal) (quantity : Int) : Prop :=
  ∀ before volume after, volumes = before ++ volume :: after →
    windowCapacity participationBps volume = 0 →
      quantity ≤ (before.map (windowCapacity participationBps)).sum
        ∨ ∀ later ∈ after, windowCapacity participationBps later = 0

theorem sum_capacity_nonneg {participationBps : Nat} {volumes : List Decimal}
    (h : Nonnegative volumes) :
    0 ≤ (volumes.map (windowCapacity participationBps)).sum := by
  induction volumes with
  | nil => simp
  | cons volume rest ih =>
    obtain ⟨hvolume, hrest⟩ := List.forall_mem_cons.mp h
    have := ih hrest
    have := @windowCapacity_nonneg participationBps volume hvolume
    simp only [List.map_cons, List.sum_cons]
    omega

variable {participationBps : Nat} {volumes quantities : List Decimal}

theorem gapFree_allocated (hvolumes : Nonnegative volumes) (h : quantity ≤ 0)
    : GapFree participationBps volumes quantity := by
  rintro before volume after rfl -
  have := @sum_capacity_nonneg participationBps before
    fun other hother => hvolumes other (List.mem_append_left _ hother)
  omega

theorem gapFree_cons_open {participationBps : Nat} {volume : Decimal}
    {rest : List Decimal} {quantity left : Int} (hrest : Nonnegative rest)
    (hopen : 0 < windowCapacity participationBps volume) (hleft : left = quantity
      - min (windowCapacity participationBps volume) quantity) :
    GapFree participationBps (volume :: rest) quantity
      ↔ GapFree participationBps rest left := by
  constructor
  · rintro h before other after rfl hclosed
    have hnonneg := @sum_capacity_nonneg participationBps before
      fun earlier hearlier => hrest earlier (List.mem_append_left _ hearlier)
    rcases h (volume :: before) other after rfl hclosed with h | h
    · simp only [List.map_cons, List.sum_cons] at h
      exact .inl (by omega)
    · exact .inr h
  · rintro h before other after hsplit hclosed
    cases before with
    | nil =>
      obtain ⟨rfl, -⟩ := List.cons.inj hsplit
      omega
    | cons first before =>
      obtain ⟨rfl, rfl⟩ := List.cons.inj hsplit
      rcases h before other after rfl hclosed with h | h
      · simp only [List.map_cons, List.sum_cons]
        exact .inl (by omega)
      · exact .inr h

theorem gapFree_cons_closed {volume : Decimal} {rest : List Decimal}
    (hclosed : windowCapacity participationBps volume = 0) (hquantity : 0 < quantity)
    : GapFree participationBps (volume :: rest) quantity
      ↔ ∀ later ∈ rest, windowCapacity participationBps later = 0 := by
  constructor
  · intro h
    rcases h [] volume rest rfl hclosed with h | h
    · simp only [List.map_nil, List.sum_nil] at h
      omega
    · exact h
  · rintro h before other after hsplit -
    cases before with
    | nil =>
      obtain ⟨-, rfl⟩ := List.cons.inj hsplit
      exact .inr h
    | cons first before =>
      obtain ⟨-, rfl⟩ := List.cons.inj hsplit
      exact .inr fun later hlater => h later (by simp [hlater])

theorem participationQuantities_eq_nil (hrate : IsRate participationBps rate)
    (hvolumes : Nonnegative volumes) (hremaining : 0 < remaining.scaled)
    (h : participationQuantities rate volumes remaining = .ok quantities) :
    quantities = []
      ↔ ∀ volume ∈ volumes, windowCapacity participationBps volume = 0 := by
  induction volumes generalizing quantities with
  | nil =>
    obtain rfl := Except.ok.inj h
    simp
  | cons volume rest ih =>
    obtain ⟨hvolume, hrest⟩ := List.forall_mem_cons.mp hvolumes
    rw [List.forall_mem_cons]
    rcases participationQuantities_cases hrate hvolume hremaining.le h with
      ⟨hzero, -⟩ | ⟨-, hclosed, hrun⟩ | ⟨-, hopen, _, _, _, -, -, -, rfl⟩
    · omega
    · rw [ih hrest hrun]
      exact ⟨fun hall => ⟨hclosed, hall⟩, And.right⟩
    · refine iff_of_false (List.cons_ne_nil _ _) fun hall => ?_
      have := hall.1
      omega

theorem openWindows_numbered_iff (hrate : IsRate participationBps rate)
    (hvolumes : Nonnegative volumes) (hremaining : 0 ≤ remaining.scaled)
    (h : participationQuantities rate volumes remaining = .ok quantities)
    (start : Nat) : List.range' start quantities.length
        = ((openWindows participationBps volumes start).take
          quantities.length).map Prod.snd
      ↔ GapFree participationBps volumes remaining.scaled := by
  induction volumes generalizing remaining quantities start with
  | nil =>
    obtain rfl := Except.ok.inj h
    simp [GapFree]
  | cons volume rest ih =>
    obtain ⟨hvolume, hrest⟩ := List.forall_mem_cons.mp hvolumes
    rw [openWindows_cons]
    rcases participationQuantities_cases hrate hvolume hremaining h with
      ⟨hzero, rfl⟩ | ⟨hpositive, hclosed, hrun⟩
        | ⟨hpositive, hopen, quantity, left, scheduled, hquantity, hleft, hrun, rfl⟩
    · exact iff_of_true rfl (gapFree_allocated hvolumes hzero.le)
    · rw [gapFree_cons_closed hclosed hpositive, if_neg (by omega),
        ← participationQuantities_eq_nil hrate hrest hpositive hrun]
      constructor
      · intro hsame
        cases quantities with
        | nil => rfl
        | cons quantity scheduled =>
          have hbound := le_openWindows participationBps rest (start + 1) 0
          cases hwindows :
              openWindows participationBps rest (start + 1) with
          | nil => simp [hwindows] at hsame
          | cons window windows =>
            simp only [hwindows, List.length_cons,
              List.getElem_cons_zero, List.range'_succ,
              List.take_succ_cons, List.map_cons,
              List.cons.injEq] at hsame hbound
            have := hbound (by omega)
            omega
      · rintro rfl
        rfl
    · have hstep := @gapFree_cons_open participationBps volume rest
        remaining.scaled left.scaled hrest hopen (by omega)
      rw [if_pos hopen, hstep, ← ih hrest (by omega) hrun (start + 1)]
      simp [List.range'_succ]

/-! ## Exact offsets -/

namespace ExecutionAlgorithm

/-- The slices or windows the first `count` children belong to. -/
def windows (count : Nat) : ExecutionAlgorithm → List Nat
  | participation participationBps volumes _ =>
    ((openWindows participationBps volumes 0).take count).map Prod.snd
  | _ => List.range count

def GapFree (quantity : Decimal) : ExecutionAlgorithm → Prop
  | participation participationBps volumes _ =>
    Execution.GapFree participationBps volumes quantity.scaled
  | _ => True

end ExecutionAlgorithm

def exactBranchOffsets (branch : ParentOrder × ExecutionAlgorithm) : List Nat :=
  match planBranchExecution branch.1 branch.2 with
  | .ok plan =>
    (branch.2.windows plan.children.length).map
      (· * branch.2.intervalSeconds.toNat)
  | .error _ => []

theorem exactBranchOffsets_eq {branch : ParentOrder × ExecutionAlgorithm}
    {plan : ExecutionPlan} (h : Branch.Planned branch plan) :
    exactBranchOffsets branch = (branch.2.windows plan.children.length).map
          (· * branch.2.intervalSeconds.toNat) := by
  rw [Branch.Planned] at h
  rw [exactBranchOffsets, h]

/-- A planned branch counts its children: at or before the window each belongs
to, and at it exactly when no window was skipped. -/
theorem branch_offsets {branch : ParentOrder × ExecutionAlgorithm}
    {plan : ExecutionPlan} (h : Branch.Planned branch plan) :
    List.Forall₂ (· ≤ ·) (offsets plan.children) (exactBranchOffsets branch)
      ∧ (offsets plan.children = exactBranchOffsets branch
        ↔ branch.2.GapFree branch.1.quantity) := by
  rw [exactBranchOffsets_eq h]
  obtain ⟨parent, algorithm⟩ := branch
  obtain ⟨hparent, schedule, hschedule, hplans⟩ :=
    planBranchExecution_eq_ok.mp h
  obtain ⟨-, -, hinterval⟩ := schedule_sound hparent.quantity hschedule
  have hlength : plan.children.length = schedule.quantities.length := by
    rw [hplans.children]
    exact List.length_mapIdx
  have hoffsets : offsets plan.children
      = (List.range plan.children.length).map
          (· * algorithm.intervalSeconds.toNat) := by
    rw [hlength, ← hinterval, ← Schedule.offsets_children hplans.offsets, hplans.children]
  rw [hoffsets]
  have hcounted : ∀ windows, windows = List.range plan.children.length →
      List.Forall₂ (· ≤ ·)
        ((List.range plan.children.length).map (· * algorithm.intervalSeconds.toNat))
        (windows.map (· * algorithm.intervalSeconds.toNat)) := by
    rintro windows rfl
    exact List.forall₂_same.mpr fun _ _ => Nat.le_refl _
  cases algorithm with
  | participation participationBps volumes interval =>
    obtain ⟨hvolumes, hpositive, -, rate, hrate, hquantities⟩ :=
      participation_schedule hschedule
    have hcapped := participationQuantities_capped hrate hvolumes
      hparent.quantity.le hquantities 0
    have hnumbered := openWindows_numbered_iff hrate hvolumes
      hparent.quantity.le hquantities 0
    rw [← hlength] at hcapped hnumbered
    rw [← List.range_eq_range'] at hnumbered
    simp only [ExecutionAlgorithm.windows,
      ExecutionAlgorithm.intervalSeconds, ExecutionAlgorithm.GapFree]
    constructor
    · apply List.forall₂_iff_get.mpr
      refine ⟨by simpa [hlength] using hcapped.length_eq.symm, ?_⟩
      intro position hleft hright
      simp only [List.length_map, List.length_take] at hright
      have hle := le_openWindows participationBps volumes 0 position
        (by omega)
      simp only [List.get_eq_getElem, List.getElem_map, List.getElem_range,
        List.getElem_take]
      exact Nat.mul_le_mul_right _ (by omega)
    · have hinterval : 0 < interval.toNat := by
        apply Nat.pos_of_ne_zero
        intro hzero
        exact hpositive (UInt64.toNat_inj.mp hzero)
      rw [← hnumbered]
      refine ⟨fun hsame => ?_, fun hsame => by rw [← hsame]⟩
      exact List.map_injective_iff.mpr
        (fun _ _ h => Nat.eq_of_mul_eq_mul_right hinterval h) hsame
  | _ => exact ⟨hcounted _ rfl, iff_of_true rfl trivial⟩

/-! ## Planner calls -/

def branchesOf (parent : ParentOrder)
    (allocations : List (AlgoWheelAllocation ExecutionAlgorithm)) :
    List (ParentOrder × ExecutionAlgorithm) :=
  match subQuantities parent allocations with
  | .ok quantities => wheelBranches parent allocations quantities
  | .error _ => []

inductive PlanCall where
  | twap (parent : ParentOrder) (durationSeconds : UInt64) (numSlices : Nat)
      (kind : ChildOrderKind)
  | vwap (parent : ParentOrder) (intervalSeconds : UInt64)
      (volumeProfile : List Decimal) (kind : ChildOrderKind)
  | general (parent : ParentOrder) (algorithm : ExecutionAlgorithm)

namespace PlanCall

def plan : PlanCall → Result ExecutionPlan
  | twap parent durationSeconds numSlices kind =>
    planTwapExecution parent durationSeconds numSlices kind
  | vwap parent intervalSeconds volumeProfile kind =>
    planVwapExecution parent intervalSeconds volumeProfile kind
  | general parent algorithm => planExecution parent algorithm

/-- Every child is at its slice or window times the interval.  A wheel's
children are those of its branches, in the order of the merge. -/
def OffsetsExact (children : List ChildInstruction) : PlanCall → Prop
  | twap _ durationSeconds numSlices _ =>
    offsets children = (List.range numSlices).map
      (· * (twapInterval durationSeconds numSlices).toNat)
  | vwap parent intervalSeconds volumeProfile _ =>
    offsets children = (vwapWindows parent.quantity volumeProfile).map
      fun window => window.2 * intervalSeconds.toNat
  | general parent (.algoWheel allocations) =>
    (offsets children).Perm
      ((branchesOf parent allocations).map exactBranchOffsets).flatten
  | general parent algorithm =>
    offsets children = exactBranchOffsets (parent, algorithm)

/-- No product of the VWAP planner wraps for a window with a child, and no
participation skips a window before one it schedules. -/
def OffsetsFit : PlanCall → Prop
  | twap _ _ _ _ => True
  | vwap parent intervalSeconds volumeProfile _ =>
    ∀ window ∈ vwapWindows parent.quantity volumeProfile,
      window.2 * intervalSeconds.toNat < 2 ^ 64
  | general parent (.algoWheel allocations) =>
    ∀ branch ∈ branchesOf parent allocations, branch.2.GapFree branch.1.quantity
  | general parent algorithm => algorithm.GapFree parent.quantity

end PlanCall

theorem offsets_combinedFrom (index : Nat) (plans : List ExecutionPlan) :
    offsets ((combinedFrom index plans).map (·.child))
      = (plans.map fun plan => offsets plan.children).flatten := by
  induction plans generalizing index with
  | nil => rfl
  | cons plan rest ih =>
    rw [combinedFrom, List.map_append, map_child_branchChildren,
      List.map_cons, List.flatten_cons, ← ih (index + 1)]
    simp [offsets]

theorem WheelPlans.merged_offsets_iff {parent : ParentOrder}
    {allocations : List (AlgoWheelAllocation ExecutionAlgorithm)}
    {plan : ExecutionPlan} {plans : List ExecutionPlan}
    (h : WheelPlans parent allocations plan quantities plans) :
    (offsets plan.children).Perm
        ((branchesOf parent allocations).map exactBranchOffsets).flatten
      ↔ ∀ branch ∈ branchesOf parent allocations,
        branch.2.GapFree branch.1.quantity := by
  have hbranches : branchesOf parent allocations
      = wheelBranches parent allocations quantities := by
    rw [branchesOf, h.split]
  have hmerged : (offsets plan.children).Perm
      (plans.map fun plan => offsets plan.children).flatten := by
    rw [h.children, offsets_renumbered, ← offsets_combinedFrom 0]
    exact ((List.perm_insertionSort _ _).map _).map _
  have hbounded : List.Forall₂ (List.Forall₂ (· ≤ ·))
      (plans.map fun plan => offsets plan.children)
      ((wheelBranches parent allocations quantities).map
        exactBranchOffsets) := by
    rw [List.forall₂_map_left_iff, List.forall₂_map_right_iff]
    exact (h.planned.imp fun _ _ hplan => (branch_offsets hplan).1).flip
  rw [hbranches, hmerged.congr_left, perm_flatten_iff hbounded]
  have hplanned := h.planned
  clear hbounded hmerged hbranches h
  generalize wheelBranches parent allocations quantities = branches
    at hplanned ⊢
  induction hplanned with
  | nil => simp
  | cons hplan hrest ih =>
    rw [List.map_cons, List.map_cons, List.cons.injEq, List.forall_mem_cons]
    exact and_congr (branch_offsets hplan).2 ih

/-- The offsets of an accepted plan are exact, and so do not fall, exactly when
no product wraps and no window is skipped before a scheduled one. -/
theorem offsets_exact_iff (call : PlanCall) (plan : ExecutionPlan)
    (h : call.plan = .ok plan) : (call.OffsetsExact plan.children
        ∧ List.Pairwise (· ≤ ·) (offsets plan.children))
      ↔ call.OffsetsFit := by
  have hdirect : ∀ parent algorithm, algorithm.isWheel = false →
      planExecution parent algorithm = .ok plan →
        ((offsets plan.children = exactBranchOffsets (parent, algorithm)
            ∧ List.Pairwise (· ≤ ·) (offsets plan.children))
          ↔ algorithm.GapFree parent.quantity) := by
    intro parent algorithm hwheel hplan
    rw [planExecution_direct hwheel] at hplan
    obtain ⟨-, hexact⟩ := @branch_offsets (parent, algorithm) plan hplan
    rw [hexact, and_iff_left]
    obtain ⟨-, schedule, -, hplans⟩ := planBranchExecution_eq_ok.mp hplan
    rw [hplans.children, Schedule.offsets_children hplans.offsets]
    exact sorted_multiples _ _
  cases call with
  | twap parent durationSeconds numSlices kind =>
    obtain ⟨haccepted, hoffsets⟩ := planTwapExecution_offsets h
    exact iff_of_true ⟨hoffsets, haccepted.sorted⟩ trivial
  | vwap parent intervalSeconds volumeProfile kind =>
    obtain ⟨haccepted, hoffsets⟩ := planVwapExecution_offsets h
    rw [and_iff_left haccepted.sorted]
    simp only [PlanCall.OffsetsExact, PlanCall.OffsetsFit, hoffsets, List.map_inj_left]
    refine forall₂_congr fun window _ => ?_
    rw [Nat.mod_eq_iff_lt (by decide)]
  | general parent algorithm =>
    cases algorithm with
    | algoWheel allocations =>
      obtain ⟨quantities, plans, hplans⟩ :=
        planAlgoWheelExecution_plans (planExecution_wheel h)
      rw [and_iff_left hplans.accepted.sorted]
      exact hplans.merged_offsets_iff
    | _ => exact hdirect parent _ rfl h

/-- The three planners of fixed slices schedule the whole parent. -/
theorem slices_exhaust (parent : ParentOrder) (plan : ExecutionPlan)
    (h : (∃ duration count kind, planTwapExecution parent duration count kind = .ok plan)
      ∨ (∃ interval profile kind, planVwapExecution parent interval profile kind = .ok plan)
      ∨ ∃ horizon urgency kind,
        planArrivalPriceExecution parent horizon urgency kind = .ok plan) :
    plan.unallocatedQuantity = Decimal.zero
      ∧ scheduled plan.children = parent.quantity.scaled := by
  rcases h with ⟨_, _, _, h⟩ | ⟨_, _, _, h⟩ | ⟨_, _, _, h⟩
  · simp only [planTwapExecution, bind_eq_ok, refuseIf_eq_ok, not_or] at h
    obtain ⟨-, -, -, ⟨hcount, -⟩, _, -, _, -, -, -, h⟩ := h
    exact SliceLoop.plan_exhausts (by simp [hcount]) (by simp) h
  · simp only [planVwapExecution, bind_eq_ok, refuseIf_eq_ok, not_or] at h
    obtain ⟨-, -, -, ⟨hprofile, -⟩, _, -, -, -, h⟩ := h
    exact SliceLoop.plan_exhausts (by simpa using hprofile) (by simp) h
  · simp only [planArrivalPriceExecution, bind_eq_ok] at h
    obtain ⟨-, -, _, -, -, -, h⟩ := h
    exact SliceLoop.plan_exhausts (List.cons_ne_nil _ _) rfl h

namespace OffsetsRun

def decimal (units : Int) : Decimal :=
  (Decimal.fromInteger units).toOption.getD Decimal.zero

def parent : ParentOrder where
  parentOrderId := "p"
  accountId := "a"
  instrumentId := "i"
  side := .buy
  quantity := decimal 4
  limitPrice := none

def wrapping : PlanCall :=
  .vwap parent 9223372036854775808 [decimal 1, decimal 0, decimal 1] .market

def skipping : PlanCall :=
  .general parent (.participation 10000 [decimal 0, decimal 4] 60)

theorem slices_exhaust_twap : ∃ plan, planTwapExecution parent 60 3 .market = .ok plan
    ∧ plan.unallocatedQuantity = Decimal.zero
    ∧ scheduled plan.children = parent.quantity.scaled := by
  obtain ⟨plan, h⟩ : ∃ plan, planTwapExecution parent 60 3 .market = .ok plan := by
    decide
  exact ⟨plan, h, slices_exhaust parent plan (.inl ⟨_, _, _, h⟩)⟩

theorem offsets_exact_iff_wrapping : ∃ plan, wrapping.plan = .ok plan
    ∧ ((wrapping.OffsetsExact plan.children
        ∧ List.Pairwise (· ≤ ·) (offsets plan.children))
      ↔ wrapping.OffsetsFit) := by
  obtain ⟨plan, h⟩ : ∃ plan, wrapping.plan = .ok plan := by
    decide
  exact ⟨plan, h, offsets_exact_iff wrapping plan h⟩

/-- Two intervals of `2 ^ 63` wrap to nothing, and the child of the second
window is counted as the first. -/
theorem inexact_offsets_accepted :
    (∃ plan, wrapping.plan = .ok plan ∧ offsets plan.children = [0, 0]
        ∧ ¬wrapping.OffsetsExact plan.children)
      ∧ ∃ plan, skipping.plan = .ok plan ∧ offsets plan.children = [0]
        ∧ ¬skipping.OffsetsExact plan.children := by
  constructor
  · show ∃ plan, wrapping.plan = .ok plan ∧ offsets plan.children = [0, 0]
      ∧ ¬offsets plan.children = (vwapWindows parent.quantity
          [decimal 1, decimal 0, decimal 1]).map fun window =>
        window.2 * UInt64.toNat 9223372036854775808
    decide
  · show ∃ plan, skipping.plan = .ok plan ∧ offsets plan.children = [0]
      ∧ ¬offsets plan.children = exactBranchOffsets
        (parent, .participation 10000 [decimal 0, decimal 4] 60)
    decide

end OffsetsRun

end Follon.Execution
