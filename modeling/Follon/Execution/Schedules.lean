import Follon.Execution.Algorithms

/-!
# Schedules

Every slice an algorithm cuts is positive, so a schedule is planned exactly when
its offsets fit and it allocates no more than the parent has.
-/

namespace Follon.Execution

open Foundation Domain

/-! ## Slices are positive -/

def total (quantities : List Decimal) : Int := (quantities.map Decimal.scaled).sum

@[simp] theorem total_nil : total [] = 0 := rfl

@[simp] theorem total_cons (quantity : Decimal) (rest : List Decimal) :
    total (quantity :: rest) = quantity.scaled + total rest := by
  simp [total]

def Positive (quantities : List Decimal) : Prop :=
  ∀ quantity ∈ quantities, 0 < quantity.scaled

variable {quantities : List Decimal} {quantity : Decimal}
  {algorithm : ExecutionAlgorithm} {schedule : Schedule}
  {parent : ParentOrder} {plan : ExecutionPlan}

theorem Positive.total_nonneg (h : Positive quantities) : 0 ≤ total quantities := by
  induction quantities with
  | nil => exact Int.le_refl 0
  | cons quantity rest ih =>
    have hfirst := h quantity mem_cons_self
    have hrest := ih fun other hother => h other (mem_cons_of_mem _ hother)
    rw [total_cons]
    omega

theorem splitExact_positive {parts : Nat}
    (h : splitExact quantity parts = .ok quantities) : Positive quantities := by
  simp only [splitExact, bind_eq_ok] at h
  obtain ⟨slices, -, h⟩ := h
  obtain rfl := Except.ok.inj h
  intro slice hslice
  exact of_decide_eq_true (mem_filter.mp hslice).2

variable {allocated remaining : Decimal} {weights : List Decimal}
  {index : Nat} {interval : UInt64}

theorem splitWeighted_positive {totalWeight : Decimal}
    (h : splitWeighted quantity totalWeight weights allocated = .ok quantities)
    : Positive quantities := by
  induction weights generalizing allocated quantities with
  | nil =>
    obtain rfl := Except.ok.inj h
    exact fun _ hmem => nomatch hmem
  | cons weight rest ih =>
    simp only [splitWeighted, bind_eq_ok, refuseIf_eq_ok] at h
    obtain ⟨scaled, -, -, hpositive, _, -, windows, hwindows, h⟩ := h
    obtain rfl := Except.ok.inj h
    exact forall_mem_cons.mpr ⟨Int.not_le.mp hpositive, ih hwindows⟩

theorem splitWeightedExact_positive
    (h : splitWeightedExact quantity weights = .ok quantities) : Positive quantities := by
  simp only [splitWeightedExact, bind_eq_ok] at h
  obtain ⟨_, -, -, -, h⟩ := h
  exact splitWeighted_positive h

theorem participationQuantities_positive {rate : Decimal} {volumes : List Decimal}
    (h : participationQuantities rate volumes remaining = .ok quantities) :
    Positive quantities := by
  induction volumes generalizing remaining quantities with
  | nil =>
    obtain rfl := Except.ok.inj h
    exact fun _ hmem => nomatch hmem
  | cons volume rest ih =>
    simp only [participationQuantities] at h
    split at h
    · obtain rfl := Except.ok.inj h
      exact fun _ hmem => nomatch hmem
    · simp only [bind_eq_ok] at h
      obtain ⟨capacity, -, h⟩ := h
      split at h
      · next hpositive =>
        simp only [bind_eq_ok] at h
        obtain ⟨_, -, scheduled, hscheduled, h⟩ := h
        obtain rfl := Except.ok.inj h
        exact forall_mem_cons.mpr ⟨hpositive, ih hscheduled⟩
      · exact ih h

theorem icebergQuantities_positive {displayQuantity : Decimal} {allowed : Nat}
    (hdisplay : 0 < displayQuantity.scaled)
    (h : icebergQuantities displayQuantity allowed remaining = .ok quantities)
    : Positive quantities := by
  induction allowed generalizing remaining quantities with
  | zero =>
    unfold icebergQuantities at h
    split at h
    · contradiction
    · obtain rfl := Except.ok.inj h
      exact fun _ hmem => nomatch hmem
  | succ allowed ih =>
    unfold icebergQuantities at h
    split at h
    · next hremaining =>
      simp only [bind_eq_ok] at h
      obtain ⟨_, -, slices, hslices, h⟩ := h
      obtain rfl := Except.ok.inj h
      refine forall_mem_cons.mpr ⟨?_, ih hslices⟩
      rw [scaled_min]
      exact lt_min hremaining hdisplay
    · obtain rfl := Except.ok.inj h
      exact fun _ hmem => nomatch hmem

def ExecutionAlgorithm.intervalSeconds : ExecutionAlgorithm → UInt64
  | immediate => 0
  | twap _ interval => interval
  | vwap _ interval => interval
  | participation _ _ interval => interval
  | arrivalPrice _ interval _ => interval
  | iceberg _ interval => interval
  | algoWheel _ => 0

theorem schedule_sound (hquantity : 0 < quantity.scaled)
    (h : algorithm.schedule quantity = .ok schedule) :
    schedule.label ≠ "" ∧ Positive schedule.quantities
      ∧ schedule.intervalSeconds = algorithm.intervalSeconds := by
  cases algorithm with
  | immediate =>
    obtain rfl := Except.ok.inj h
    exact ⟨by simp, List.forall_mem_singleton.mpr hquantity, rfl⟩
  | twap sliceCount intervalSeconds =>
    simp only [ExecutionAlgorithm.schedule, bind_eq_ok] at h
    obtain ⟨-, -, quantities, hquantities, h⟩ := h
    obtain rfl := Except.ok.inj h
    exact ⟨by simp, splitExact_positive hquantities, rfl⟩
  | vwap volumes intervalSeconds =>
    simp only [ExecutionAlgorithm.schedule, bind_eq_ok] at h
    obtain ⟨-, -, quantities, hquantities, h⟩ := h
    obtain rfl := Except.ok.inj h
    exact ⟨by simp, splitWeightedExact_positive hquantities, rfl⟩
  | participation bps volumes intervalSeconds =>
    simp only [ExecutionAlgorithm.schedule, bind_eq_ok] at h
    obtain ⟨-, -, _, -, _, -, _, -, quantities, hquantities, h⟩ := h
    obtain rfl := Except.ok.inj h
    exact ⟨by simp, participationQuantities_positive hquantities, rfl⟩
  | arrivalPrice sliceCount intervalSeconds urgencyBps =>
    simp only [ExecutionAlgorithm.schedule, bind_eq_ok] at h
    obtain ⟨-, -, _, -, quantities, hquantities, h⟩ := h
    obtain rfl := Except.ok.inj h
    exact ⟨by simp, splitWeightedExact_positive hquantities, rfl⟩
  | iceberg displayQuantity intervalSeconds =>
    simp only [ExecutionAlgorithm.schedule, bind_eq_ok, refuseIf_eq_ok,
      not_or] at h
    obtain ⟨-, ⟨hdisplay, -⟩, quantities, hquantities, h⟩ := h
    obtain rfl := Except.ok.inj h
    exact ⟨by simp,
      icebergQuantities_positive (Int.not_le.mp hdisplay) hquantities, rfl⟩
  | algoWheel allocations => contradiction

/-! ## The plan of a schedule -/

def Schedule.children (schedule : Schedule) (parent : ParentOrder) :
    List ChildInstruction :=
  schedule.quantities.mapIdx fun index quantity =>
    scheduledChild parent (childOrderKind parent) schedule.intervalSeconds
      quantity index

structure Schedule.Plans (schedule : Schedule) (parent : ParentOrder)
    (plan : ExecutionPlan) : Prop where
  parentOrderId : plan.parentOrderId = parent.parentOrderId
  algorithm : plan.algorithm = schedule.label
  children : plan.children = schedule.children parent
  offsets : ∀ index < schedule.quantities.length,
    index * schedule.intervalSeconds.toNat < 2 ^ 64
  conserved : total schedule.quantities + plan.unallocatedQuantity.scaled
    = parent.quantity.scaled
  unallocated : 0 ≤ plan.unallocatedQuantity.scaled

theorem checkedOffset_eq_ok {offset : UInt64} {message : String}
    : checkedOffset index interval message = .ok offset ↔ index * interval.toNat < 2 ^ 64
        ∧ offset = UInt64.ofNat (index * interval.toNat) := by
  simp only [checkedOffset, bind_eq_ok, refuseIf_eq_ok, Nat.not_le]
  constructor
  · rintro ⟨-, hfits, h⟩
    exact ⟨hfits, (Except.ok.inj h).symm⟩
  · rintro ⟨hfits, rfl⟩
    exact ⟨(), hfits, rfl⟩

theorem scheduleChildren_eq_ok {result : Decimal}
    {children : List ChildInstruction} (hpositive : Positive quantities) :
    scheduleChildren parent interval quantities index allocated = .ok (children, result) ↔
      (∀ later < quantities.length, (later + index) * interval.toNat < 2 ^ 64)
        ∧ children = quantities.mapIdx (fun later quantity =>
            scheduledChild parent (childOrderKind parent) interval quantity
              (later + index))
        ∧ result.scaled = allocated.scaled + total quantities := by
  induction quantities generalizing index allocated children result with
  | nil =>
    simp only [scheduleChildren, Except.ok.injEq, Prod.mk.injEq,
      List.length_nil, Nat.not_lt_zero, false_implies, implies_true,
      List.mapIdx_nil, total_nil, Int.add_zero, true_and]
    exact and_congr eq_comm ⟨fun h => h ▸ rfl, fun h => Decimal.ext h.symm⟩
  | cons quantity rest ih =>
    obtain ⟨hquantity, hrest⟩ := forall_mem_cons.mp hpositive
    have hnonneg := Positive.total_nonneg hrest
    have hlater : ∀ later : Nat, later + (index + 1) = later + 1 + index := by
      omega
    simp only [scheduleChildren, bind_eq_ok, checkedAdd_eq_ok,
      checkedOffset_eq_ok, length_cons, List.mapIdx_cons, total_cons,
      Prod.exists, ih hrest, hlater, Nat.zero_add]
    constructor
    · rintro ⟨next, hnext, offset, ⟨hfits, rfl⟩, later, last,
        ⟨hoffsets, rfl, hlast⟩, h⟩
      obtain ⟨rfl, rfl⟩ := Prod.mk.inj (Except.ok.inj h)
      refine ⟨?_, rfl, by omega⟩
      intro position hposition
      cases position with
      | zero => rwa [Nat.zero_add]
      | succ position => exact hoffsets position (by omega)
    · rintro ⟨hoffsets, rfl, hresult⟩
      have hmin := allocated.min_le
      have hmax := result.le_max
      refine ⟨⟨allocated.scaled + quantity.scaled, by omega, by omega⟩, rfl,
        _, ⟨?_, rfl⟩, _, result, ⟨?_, rfl, ?_⟩, rfl⟩
      · simpa using hoffsets 0 (by omega)
      · intro position hposition
        exact hoffsets (position + 1) (by omega)
      · simp only
        omega

theorem Schedule.children_valid (hparent : parent.Valid)
    (hpositive : Positive schedule.quantities) :
    ∀ child ∈ schedule.children parent, child.Valid := by
  intro child hchild
  simp only [Schedule.children, List.mem_mapIdx] at hchild
  obtain ⟨index, hindex, rfl⟩ := hchild
  exact ⟨isCanonicalId_numbered 4 _ hparent.parentOrderId (by decide),
    hpositive _ (List.getElem_mem hindex), hparent.limitPrice, rfl⟩

theorem Schedule.quantities_children (schedule : Schedule) (parent : ParentOrder) :
    (schedule.children parent).map (·.quantity) = schedule.quantities := by
  apply List.ext_getElem
  · simp [Schedule.children]
  · simp [Schedule.children, scheduledChild]

theorem Schedule.scheduled_children (schedule : Schedule) (parent : ParentOrder) :
    scheduled (schedule.children parent) = total schedule.quantities := by
  rw [total, ← schedule.quantities_children parent, map_map]
  rfl

theorem Schedule.offsets_children (hoffsets : ∀ index < schedule.quantities.length,
      index * schedule.intervalSeconds.toNat < 2 ^ 64) :
    Execution.offsets (schedule.children parent)
      = (List.range schedule.quantities.length).map
          (· * schedule.intervalSeconds.toNat) := by
  apply List.ext_getElem
  · simp [Execution.offsets, Schedule.children]
  · intro index hleft hright
    have hindex : index < schedule.quantities.length := by
      simpa using hright
    simp only [Execution.offsets, Schedule.children, scheduledChild,
      List.getElem_map, List.getElem_mapIdx, List.getElem_range]
    exact UInt64.toNat_ofNat_of_lt (hoffsets index hindex)

theorem sorted_multiples (count interval : Nat) :
    List.Pairwise (· ≤ ·) ((List.range count).map (· * interval)) := by
  rw [pairwise_map]
  exact List.pairwise_lt_range.imp fun h =>
    Nat.mul_le_mul_right _ (Nat.le_of_lt h)

theorem Schedule.Plans.accepted (h : schedule.Plans parent plan)
    (hparent : parent.Valid) (hlabel : schedule.label ≠ "")
    (hpositive : Positive schedule.quantities) : plan.Accepted parent where
  parentOrderId := h.parentOrderId
  algorithm := by
    rw [h.algorithm]
    exact hlabel
  unallocated := h.unallocated
  children := by
    rw [h.children]
    exact schedule.children_valid hparent hpositive
  sorted := by
    rw [h.children, Schedule.offsets_children h.offsets]
    exact sorted_multiples _ _
  conserved := by
    rw [h.children, schedule.scheduled_children]
    exact h.conserved

theorem planDirectExecution_eq_ok (hparent : parent.Valid) :
    planDirectExecution parent algorithm = .ok plan ↔
      ∃ schedule, algorithm.schedule parent.quantity = .ok schedule
        ∧ schedule.Plans parent plan := by
  simp only [planDirectExecution, bind_eq_ok, Prod.exists,
    checkedSub_eq_ok, ExecutionPlan.validateAgainst_eq_ok]
  constructor
  · rintro ⟨schedule, hschedule, children, allocated, hchildren, unallocated,
      hunallocated, -, haccepted, h⟩
    obtain rfl := Except.ok.inj h
    obtain ⟨-, hpositive, -⟩ := schedule_sound hparent.quantity hschedule
    obtain ⟨hoffsets, rfl, hallocated⟩ :=
      (scheduleChildren_eq_ok hpositive).mp hchildren
    rw [scaled_zero] at hallocated
    refine ⟨schedule, hschedule, rfl, rfl, rfl, hoffsets, ?_, haccepted.unallocated⟩
    simp only
    omega
  · rintro ⟨schedule, hschedule, hplans⟩
    obtain ⟨hlabel, hpositive, -⟩ := schedule_sound hparent.quantity hschedule
    have hnonneg := hpositive.total_nonneg
    have hunallocated := hplans.unallocated
    have hconserved := hplans.conserved
    have hmax := parent.quantity.le_max
    have hmin : i128Min ≤ 0 := by decide
    let allocated : Decimal := ⟨total schedule.quantities, by omega, by omega⟩
    refine ⟨schedule, hschedule, schedule.children parent, allocated,
      (scheduleChildren_eq_ok hpositive).mpr ⟨hplans.offsets, rfl, ?_⟩,
      plan.unallocatedQuantity, ?_, (), ?_, ?_⟩
    · simp [allocated]
    · simp only [allocated]
      omega
    · have haccepted := hplans.accepted hparent hlabel hpositive
      rw [← hplans.parentOrderId, ← hplans.algorithm, ← hplans.children]
      exact haccepted
    · rw [← hplans.parentOrderId, ← hplans.algorithm, ← hplans.children]
      rfl

theorem planBranchExecution_eq_ok :
    planBranchExecution parent algorithm = .ok plan ↔ parent.Valid ∧ ∃ schedule,
        algorithm.schedule parent.quantity = .ok schedule
          ∧ schedule.Plans parent plan := by
  simp only [planBranchExecution, bind_eq_ok, ParentOrder.validate_eq_ok]
  constructor
  · rintro ⟨-, hparent, hplan⟩
    exact ⟨hparent, (planDirectExecution_eq_ok hparent).mp hplan⟩
  · rintro ⟨hparent, hplan⟩
    exact ⟨(), hparent, (planDirectExecution_eq_ok hparent).mpr hplan⟩

end Follon.Execution
