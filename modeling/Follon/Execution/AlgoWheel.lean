import Follon.Execution.Schedules

/-!
# The algorithm wheel

The wheel splits the parent over its allocations, plans each branch for its
share and merges the branches by offset.  The merge keeps every branch's
children in their order and only renumbers them.
-/

namespace Follon.Execution

open Foundation Domain

/-! ## The shares -/

variable {quantity : Decimal} {quantities : List Decimal}
  {allocations : List (AlgoWheelAllocation ExecutionAlgorithm)} {index : Nat}
  {plans : List ExecutionPlan} {plan : ExecutionPlan}

theorem splitWeighted_total {totalWeight allocated : Decimal} {weights : List Decimal}
    (h : splitWeighted quantity totalWeight weights allocated = .ok quantities) :
    quantities.length = weights.length ∧ (weights ≠ [] →
        allocated.scaled + total quantities = quantity.scaled) := by
  induction weights generalizing allocated quantities with
  | nil =>
    obtain rfl := Except.ok.inj h
    simp
  | cons weight rest ih =>
    simp only [splitWeighted, bind_eq_ok, checked_eq_ok] at h
    obtain ⟨share, hshare, -, -, next, hnext, windows, hwindows, h⟩ := h
    obtain rfl := Except.ok.inj h
    obtain ⟨hlength, htotal⟩ := ih hwindows
    refine ⟨by simp [hlength], fun _ => ?_⟩
    rw [total_cons]
    cases rest with
    | nil =>
      obtain rfl := Except.ok.inj hwindows
      simp only [windowQuantity, List.isEmpty_nil, if_pos,
        checked_eq_ok] at hshare
      simp
      omega
    | cons other rest =>
      have := htotal (List.cons_ne_nil _ _)
      omega

theorem collect_length {α β : Type} {convert : α → Result β} {items : List α}
    {results : List β} (h : collect convert items = .ok results) :
    results.length = items.length := by
  induction items generalizing results with
  | nil =>
    obtain rfl := Except.ok.inj h
    rfl
  | cons item rest ih =>
    simp only [collect, bind_eq_ok] at h
    obtain ⟨_, -, converted, hconverted, h⟩ := h
    obtain rfl := Except.ok.inj h
    simp [ih hconverted]

theorem subQuantities_total {parent : ParentOrder}
    (h : subQuantities parent allocations = .ok quantities) :
    quantities.length = allocations.length
      ∧ (allocations ≠ [] → total quantities = parent.quantity.scaled) := by
  simp only [subQuantities, splitWeightedExact, bind_eq_ok] at h
  obtain ⟨weights, hweights, totalWeight, -, -, -, h⟩ := h
  have hlength := collect_length hweights
  obtain ⟨hquantities, htotal⟩ := splitWeighted_total h
  refine ⟨by rw [hquantities, hlength], fun hne => ?_⟩
  have hweights : weights ≠ [] := by
    rintro rfl
    exact hne (List.length_eq_zero_iff.mp hlength.symm)
  simpa using htotal hweights

/-! ## The branches -/

def branchesFrom (parent : ParentOrder)
    (shares : List (AlgoWheelAllocation ExecutionAlgorithm × Decimal))
    (index : Nat) : List (ParentOrder × ExecutionAlgorithm) :=
  (shares.zipIdx index).map fun share =>
    (subParent parent share.2 share.1.2, share.1.1.algorithm)

def wheelBranches (parent : ParentOrder)
    (allocations : List (AlgoWheelAllocation ExecutionAlgorithm))
    (quantities : List Decimal) : List (ParentOrder × ExecutionAlgorithm) :=
  branchesFrom parent (allocations.zip quantities) 0

def combinedFrom : (index : Nat) → List ExecutionPlan → List WheelChild
  | _, [] => []
  | index, plan :: rest =>
    branchChildren index plan.children ++ combinedFrom (index + 1) rest

def Branch.Planned (branch : ParentOrder × ExecutionAlgorithm)
    (plan : ExecutionPlan) : Prop :=
  planBranchExecution branch.1 branch.2 = .ok plan

theorem planBranches_planned {parent : ParentOrder}
    {shares : List (AlgoWheelAllocation ExecutionAlgorithm × Decimal)}
    {unallocated result : Decimal} {combined : List WheelChild}
    (h : planBranches parent shares index unallocated = .ok (combined, result)) :
    ∃ plans, List.Forall₂ Branch.Planned (branchesFrom parent shares index) plans
        ∧ combined = combinedFrom index plans
        ∧ result.scaled = unallocated.scaled
          + (plans.map (·.unallocatedQuantity.scaled)).sum := by
  induction shares generalizing index unallocated combined result with
  | nil =>
    obtain ⟨rfl, rfl⟩ := Prod.mk.inj (Except.ok.inj h)
    exact ⟨[], .nil, rfl, by simp⟩
  | cons share rest ih =>
    obtain ⟨alloc, quantity⟩ := share
    simp only [planBranches, bind_eq_ok, Prod.exists,
      checkedAdd_eq_ok] at h
    obtain ⟨plan, hplan, next, hnext, others, last, hothers, h⟩ := h
    obtain ⟨rfl, rfl⟩ := Prod.mk.inj (Except.ok.inj h)
    obtain ⟨plans, hplans, rfl, hlast⟩ := ih hothers
    refine ⟨plan :: plans, .cons hplan hplans, rfl, ?_⟩
    simp only [map_cons, sum_cons]
    omega

/-! ## The merge -/

variable {children : List ChildInstruction} {entry : WheelChild}

theorem wheelIndex_branchChildren (h : entry ∈ branchChildren index children) :
    entry.wheelIndex = index := by
  simp only [branchChildren, List.mem_mapIdx] at h
  obtain ⟨position, hposition, rfl⟩ := h
  rfl

theorem map_child_branchChildren (index : Nat) (children : List ChildInstruction) :
    (branchChildren index children).map (·.child) = children := by
  apply List.ext_getElem <;> simp [branchChildren]

theorem wheelIndex_combinedFrom (h : entry ∈ combinedFrom index plans) :
    index ≤ entry.wheelIndex ∧ entry.wheelIndex < index + plans.length := by
  induction plans generalizing index with
  | nil => simp [combinedFrom] at h
  | cons plan rest ih =>
    rw [length_cons]
    rcases mem_append.mp h with h | h
    · have := wheelIndex_branchChildren h
      omega
    · have := ih h
      omega

theorem filter_branchChildren (index : Nat) (children : List ChildInstruction) :
    (branchChildren index children).filter (·.wheelIndex = index)
      = branchChildren index children := by
  apply List.filter_eq_self.mpr
  intro entry hentry
  exact decide_eq_true (wheelIndex_branchChildren hentry)

theorem filter_combinedFrom {index position : Nat}
    {plans : List ExecutionPlan} {plan : ExecutionPlan}
    (h : plans[position]? = some plan) :
    (combinedFrom index plans).filter (·.wheelIndex = index + position)
      = branchChildren (index + position) plan.children := by
  induction plans generalizing index position with
  | nil => simp at h
  | cons first rest ih =>
    rw [combinedFrom, filter_append]
    cases position with
    | zero =>
      simp only [List.getElem?_cons_zero, Option.some.injEq] at h
      have hlater : (combinedFrom (index + 1) rest).filter
          (·.wheelIndex = index) = [] := by
        apply List.filter_eq_nil_iff.mpr
        intro entry hentry
        have := wheelIndex_combinedFrom hentry
        simp
        omega
      rw [Nat.add_zero, filter_branchChildren, hlater, append_nil, h]
    | succ position =>
      simp only [List.getElem?_cons_succ] at h
      have hfirst : (branchChildren index first.children).filter
          (·.wheelIndex = index + (position + 1)) = [] := by
        apply List.filter_eq_nil_iff.mpr
        intro entry hentry
        have := wheelIndex_branchChildren hentry
        simp
        omega
      have hindex : index + (position + 1) = index + 1 + position := by
        omega
      rw [hfirst, nil_append, hindex]
      exact ih h

/-- The children of a plan with sorted offsets are in the order of the merge. -/
theorem pairwise_branchChildren (index : Nat)
    (h : List.Pairwise (· ≤ ·) (offsets children)) :
    (branchChildren index children).Pairwise WheelChild.Before := by
  rw [List.pairwise_iff_getElem] at h ⊢
  intro left right hleft hright hlt
  simp only [branchChildren, List.length_mapIdx] at hleft hright
  have hoffset := h left right (by simpa [offsets] using hleft)
    (by simpa [offsets] using hright) hlt
  simp only [offsets, List.getElem_map] at hoffset
  simp only [branchChildren, List.getElem_mapIdx, WheelChild.Before]
  rcases Nat.lt_or_eq_of_le hoffset with hless | hsame
  · exact .inl (UInt64.lt_iff_toNat_lt.mpr hless)
  · exact .inr ⟨UInt64.toNat_inj.mp hsame, .inr ⟨trivial, Nat.le_of_lt hlt⟩⟩

theorem filter_insertionSort (hplan : plans[index]? = some plan)
    (hsorted : List.Pairwise (· ≤ ·) (offsets plan.children)) :
    ((combinedFrom 0 plans).insertionSort WheelChild.Before).filter
        (·.wheelIndex = index)
      = branchChildren index plan.children := by
  have hbranch := @filter_combinedFrom 0 index plans plan hplan
  rw [Nat.zero_add] at hbranch
  have hsub : List.Sublist (branchChildren index plan.children)
      ((combinedFrom 0 plans).insertionSort WheelChild.Before) := by
    apply List.sublist_insertionSort (pairwise_branchChildren index hsorted)
    rw [← hbranch]
    exact List.filter_sublist
  have hfiltered := hsub.filter (·.wheelIndex = index)
  rw [filter_branchChildren] at hfiltered
  refine (hfiltered.eq_of_length ?_).symm
  have hperm := (List.perm_insertionSort WheelChild.Before
    (combinedFrom 0 plans)).filter (·.wheelIndex = index)
  rw [hperm.length_eq, hbranch]

/-! ## The plan of a wheel -/

theorem childOrderId_injective (parentOrderId : String) :
    Function.Injective (childOrderId parentOrderId) := by
  intro left right h
  have hchars := congrArg String.toList h
  simp only [childOrderId, toList_append, toList_ofList,
    List.append_cancel_left_eq] at hchars
  have := zeroPadded_injective 4 hchars
  omega

theorem renumbered_ids (parentOrderId : String) (combined : List WheelChild) :
    (renumbered parentOrderId combined).map (·.childOrderId)
      = (List.range combined.length).map (childOrderId parentOrderId) := by
  apply List.ext_getElem <;> simp [renumbered]

theorem offsets_renumbered (parentOrderId : String) (combined : List WheelChild) :
    offsets (renumbered parentOrderId combined)
      = offsets (combined.map (·.child)) := by
  apply List.ext_getElem <;> simp [offsets, renumbered]

theorem isWheel_of_checked {totalWeight result : Nat}
    (h : allocations.foldlM checkAllocation totalWeight = .ok result) :
    ∀ alloc ∈ allocations, alloc.algorithm.isWheel = false := by
  induction allocations generalizing totalWeight with
  | nil => simp
  | cons alloc rest ih =>
    simp only [foldlM_cons, bind_eq_ok, checkAllocation,
      refuseIf_eq_ok, not_eq_true] at h
    obtain ⟨next, ⟨-, hdirect, -⟩, hrest⟩ := h
    exact forall_mem_cons.mpr ⟨hdirect, ih hrest⟩

structure WheelPlans (parent : ParentOrder)
    (allocations : List (AlgoWheelAllocation ExecutionAlgorithm))
    (plan : ExecutionPlan) (quantities : List Decimal)
    (plans : List ExecutionPlan) : Prop where
  valid : parent.Valid
  nonempty : allocations ≠ []
  direct : ∀ alloc ∈ allocations, alloc.algorithm.isWheel = false
  split : subQuantities parent allocations = .ok quantities
  planned : List.Forall₂ Branch.Planned
    (wheelBranches parent allocations quantities) plans
  children : plan.children = renumbered parent.parentOrderId
    ((combinedFrom 0 plans).insertionSort WheelChild.Before)
  unallocated : plan.unallocatedQuantity.scaled
    = (plans.map (·.unallocatedQuantity.scaled)).sum
  accepted : plan.Accepted parent

theorem planAlgoWheelExecution_plans {parent : ParentOrder}
    (h : planAlgoWheelExecution parent allocations = .ok plan) : ∃ quantities plans,
      WheelPlans parent allocations plan quantities plans := by
  simp only [planAlgoWheelExecution, bind_eq_ok, ParentOrder.validate_eq_ok,
    refuseIf_eq_ok, Prod.exists, ExecutionPlan.validateAgainst_eq_ok] at h
  obtain ⟨-, hparent, -, hcount, totalWeight, hweights, -, -, quantities,
    hsplit, combined, unallocated, hbranches, -, haccepted, h⟩ := h
  obtain rfl := Except.ok.inj h
  obtain ⟨plans, hplanned, rfl, hunallocated⟩ := planBranches_planned hbranches
  refine ⟨quantities, plans, hparent, ?_, isWheel_of_checked hweights, hsplit,
    hplanned, rfl, ?_, haccepted⟩
  · rintro rfl
    exact hcount (.inl rfl)
  · simpa using hunallocated

theorem planExecution_wheel {parent : ParentOrder}
    (h : planExecution parent (.algoWheel allocations) = .ok plan) :
    planAlgoWheelExecution parent allocations = .ok plan := by
  simp only [planExecution, bind_eq_ok] at h
  obtain ⟨-, -, h⟩ := h
  exact h

theorem WheelPlans.planned_alone {parent : ParentOrder}
    (h : WheelPlans parent allocations plan quantities plans) :
    List.Forall₂ (fun branch branchPlan =>
        planExecution branch.1 branch.2 = .ok branchPlan)
      (wheelBranches parent allocations quantities) plans := by
  have hdirect : ∀ branch ∈ wheelBranches parent allocations quantities,
      branch.2.isWheel = false := by
    intro branch hbranch
    simp only [wheelBranches, branchesFrom, mem_map] at hbranch
    obtain ⟨share, hshare, rfl⟩ := hbranch
    exact h.direct _
      (List.of_mem_zip (List.fst_mem_of_mem_zipIdx hshare)).1
  obtain ⟨hlength, hplanned⟩ := List.forall₂_iff_zip.mp h.planned
  refine List.forall₂_iff_zip.mpr ⟨hlength, fun {branch branchPlan} hmem => ?_⟩
  rw [planExecution_direct (hdirect branch (List.of_mem_zip hmem).1)]
  exact hplanned hmem

theorem WheelPlans.branch_sorted {parent : ParentOrder}
    (h : WheelPlans parent allocations plan quantities plans) : ∀ branchPlan ∈ plans,
      List.Pairwise (· ≤ ·) (offsets branchPlan.children) := by
  intro branchPlan hmem
  obtain ⟨index, hindex, rfl⟩ := List.getElem_of_mem hmem
  obtain ⟨hlength, hplanned⟩ := List.forall₂_iff_get.mp h.planned
  have hbranch := hplanned index (by rw [hlength]; exact hindex) hindex
  obtain ⟨-, schedule, -, hplans⟩ := planBranchExecution_eq_ok.mp hbranch
  simp only [List.get_eq_getElem] at hplans
  rw [hplans.children, Schedule.offsets_children hplans.offsets]
  exact sorted_multiples _ _

/-! ## One branch with the full weight -/

theorem splitWeightedExact_single {weight : Decimal}
    (h : splitWeightedExact quantity [weight] = .ok quantities) :
    quantities = [quantity] := by
  simp only [splitWeightedExact, splitWeighted, windowQuantity, bind_eq_ok,
    checked_eq_ok, List.isEmpty_nil, if_pos, scaled_zero] at h
  obtain ⟨-, -, -, -, share, hshare, -, -, -, -, windows, hwindows, h⟩ := h
  obtain rfl := Except.ok.inj hwindows
  obtain rfl := Except.ok.inj h
  rw [Int.sub_zero] at hshare
  rw [Decimal.ext hshare]

theorem renumbered_branch {schedule : Schedule} {parent : ParentOrder} :
    renumbered parent.parentOrderId
        (branchChildren 0 (schedule.children (subParent parent 0 quantity)))
      = schedule.children parent := by
  apply List.ext_getElem
  · simp [renumbered, branchChildren, Schedule.children]
  · intro index hleft hright
    simp [renumbered, branchChildren, Schedule.children, scheduledChild,
      childOrderKind, subParent]

theorem WheelPlans.single {parent : ParentOrder}
    {algorithm : ExecutionAlgorithm} {weightBps : Nat}
    (h : WheelPlans parent [⟨algorithm, weightBps⟩] plan quantities plans) :
    ∃ direct, planExecution parent algorithm = .ok direct
      ∧ plan.children = direct.children
      ∧ plan.unallocatedQuantity = direct.unallocatedQuantity := by
  have hquantities : quantities = [parent.quantity] := by
    have hsplit := h.split
    simp only [subQuantities, collect, bind_eq_ok] at hsplit
    obtain ⟨weights, ⟨weight, -, none, hnone, hweights⟩, hsplit⟩ := hsplit
    obtain rfl := Except.ok.inj hnone
    obtain rfl := Except.ok.inj hweights
    exact splitWeightedExact_single hsplit
  subst hquantities
  have hplanned : List.Forall₂ Branch.Planned
      [(subParent parent 0 parent.quantity, algorithm)] plans := h.planned
  obtain ⟨branchPlan, none, hbranch, hnone, rfl⟩ :=
    List.forall₂_cons_left_iff.mp hplanned
  obtain rfl := List.forall₂_nil_left_iff.mp hnone
  obtain ⟨-, schedule, hschedule, hplans⟩ :=
    planBranchExecution_eq_ok.mp hbranch
  have hunallocated : plan.unallocatedQuantity
      = branchPlan.unallocatedQuantity := by
    apply Decimal.ext
    simpa using h.unallocated
  have hsorted := pairwise_branchChildren 0
    (h.branch_sorted branchPlan mem_cons_self)
  have hchildren : plan.children = schedule.children parent := by
    rw [h.children, combinedFrom, combinedFrom, append_nil,
      hsorted.insertionSort_eq, hplans.children, renumbered_branch]
  refine ⟨⟨parent.parentOrderId, schedule.label, schedule.children parent,
    branchPlan.unallocatedQuantity⟩, ?_, hchildren, hunallocated⟩
  have hdirect := h.direct _ mem_cons_self
  rw [planExecution_direct hdirect, planBranchExecution_eq_ok]
  exact ⟨h.valid, schedule, hschedule, rfl, rfl, rfl, hplans.offsets,
    hplans.conserved, hplans.unallocated⟩

/-! ## The merge is faithful -/

/-- `merged` is the plan's children, each with the branch it comes from, before
they are renumbered. -/
structure WheelMerge (parent : ParentOrder)
    (allocations : List (AlgoWheelAllocation ExecutionAlgorithm))
    (plan : ExecutionPlan) (quantities : List Decimal)
    (plans : List ExecutionPlan) (merged : List (Nat × ChildInstruction)) :
    Prop where
  split : subQuantities parent allocations = .ok quantities
  shares : quantities.length = allocations.length
    ∧ total quantities = parent.quantity.scaled
  planned : List.Forall₂ (fun branch branchPlan =>
      planExecution branch.1 branch.2 = .ok branchPlan)
    (wheelBranches parent allocations quantities) plans
  children : plan.children = merged.mapIdx fun index entry =>
    { entry.2 with childOrderId := childOrderId parent.parentOrderId index }
  labelled : ∀ entry ∈ merged, entry.1 < plans.length
  restricted : ∀ index branchPlan, plans[index]? = some branchPlan →
    (merged.filter (·.1 = index)).map Prod.snd = branchPlan.children
  sorted : List.Pairwise (· ≤ ·) (offsets plan.children)
  identities : plan.children.map (·.childOrderId)
    = (List.range plan.children.length).map (childOrderId parent.parentOrderId)
  distinct : (plan.children.map (·.childOrderId)).Nodup
  conserved : scheduled plan.children + plan.unallocatedQuantity.scaled
    = parent.quantity.scaled
  unallocated : plan.unallocatedQuantity.scaled
    = (plans.map (·.unallocatedQuantity.scaled)).sum

theorem WheelPlans.merge {parent : ParentOrder}
    (h : WheelPlans parent allocations plan quantities plans) :
    WheelMerge parent allocations plan quantities plans
      (((combinedFrom 0 plans).insertionSort WheelChild.Before).map
        fun entry => (entry.wheelIndex, entry.child)) where
  split := h.split
  shares :=
    ⟨(subQuantities_total h.split).1, (subQuantities_total h.split).2 h.nonempty⟩
  planned := h.planned_alone
  children := by
    rw [h.children]
    apply List.ext_getElem <;> simp [renumbered]
  labelled := by
    intro entry hentry
    obtain ⟨source, hsource, rfl⟩ := mem_map.mp hentry
    have := wheelIndex_combinedFrom ((List.mem_insertionSort _).mp hsource)
    omega
  restricted := by
    intro index branchPlan hplan
    have hsorted := h.branch_sorted branchPlan (List.mem_of_getElem? hplan)
    have hfilter := filter_insertionSort hplan hsorted
    rw [List.filter_map, map_map]
    exact (congrArg (List.map (·.child)) hfilter).trans
      (map_child_branchChildren index branchPlan.children)
  sorted := h.accepted.sorted
  identities := by
    rw [h.children, renumbered_ids]
    simp [renumbered]
  distinct := by
    rw [h.children, renumbered_ids]
    exact List.nodup_range.map (childOrderId_injective _)
  conserved := h.accepted.conserved
  unallocated := h.unallocated

/-- The wheel merges its branches faithfully, and one branch with the full
weight is planned as it would be alone. -/
theorem wheel_merges (parent : ParentOrder)
    (allocations : List (AlgoWheelAllocation ExecutionAlgorithm)) (plan : ExecutionPlan)
    (h : planExecution parent (.algoWheel allocations) = .ok plan) :
    (∃ quantities plans merged,
        WheelMerge parent allocations plan quantities plans merged)
      ∧ ∀ algorithm weightBps, allocations = [⟨algorithm, weightBps⟩] →
        ∃ direct, planExecution parent algorithm = .ok direct
          ∧ plan.children = direct.children
          ∧ plan.unallocatedQuantity = direct.unallocatedQuantity := by
  obtain ⟨quantities, plans, hplans⟩ :=
    planAlgoWheelExecution_plans (planExecution_wheel h)
  refine ⟨⟨quantities, plans, _, hplans.merge⟩, ?_⟩
  rintro algorithm weightBps rfl
  exact hplans.single

namespace WheelRun

def decimal (units : Int) : Decimal :=
  (Decimal.fromInteger units).toOption.getD Decimal.zero

def parent : ParentOrder where
  parentOrderId := "p"
  accountId := "a"
  instrumentId := "i"
  side := .buy
  quantity := decimal 10
  limitPrice := none

def halves : List (AlgoWheelAllocation ExecutionAlgorithm) :=
  [⟨.twap 2 60, 5000⟩, ⟨.immediate, 5000⟩]

theorem wheel_merges_halves : ∃ plan,
    planExecution parent (.algoWheel halves) = .ok plan ∧ (∃ quantities plans merged,
        WheelMerge parent halves plan quantities plans merged) := by
  obtain ⟨plan, h⟩ : ∃ plan,
      planExecution parent (.algoWheel halves) = .ok plan := by
    decide
  exact ⟨plan, h, (wheel_merges parent halves plan h).1⟩

def thin : List (AlgoWheelAllocation ExecutionAlgorithm) :=
  [⟨.participation 10000 [decimal 1] 60, 10000⟩]

theorem thin_unallocated : ∃ plan, planExecution parent (.algoWheel thin) = .ok plan
      ∧ scheduled plan.children ≠ parent.quantity.scaled := by
  decide

end WheelRun

end Follon.Execution
