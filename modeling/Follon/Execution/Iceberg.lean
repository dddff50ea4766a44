import Follon.Execution.Schedules

/-!
# Icebergs

The dedicated planner checks the offset of a slice as it cuts it; the general
planner cuts all slices first.  On a parent whose kind matches its limit the two
return the same plan or both refuse.
-/

namespace Follon.Execution

open Foundation Domain

/-! ## The dedicated planner -/

/-- The loop of `plan_iceberg_execution`, with the slices it may still cut. -/
def icebergChildren (parent : ParentOrder) (displayQuantity : Decimal)
    (intervalSeconds : UInt64) (kind : ChildOrderKind) :
    (allowed : Nat) → (index : Nat) → (remaining : Decimal) →
      Result (List ChildInstruction)
  | allowed, index, remaining =>
    if Decimal.zero < remaining then
      match allowed with
      | 0 => .error ⟨"iceberg slice count exceeds maximum allowed"⟩
      | allowed + 1 => do
        let slice := remaining.min displayQuantity
        let offset ← checkedOffset index intervalSeconds
          "iceberg schedule offset overflowed"
        let remaining ← remaining.checkedSub slice
        let children ← icebergChildren parent displayQuantity
          intervalSeconds kind allowed (index + 1) remaining
        pure ({ childOrderId := childOrderId parent.parentOrderId index
                scheduledAfterSeconds := offset, venue := none
                quantity := slice, kind := kind, limitPrice := parent.limitPrice
                stopPrice := none } :: children)
    else
      .ok []

def planIcebergExecution (parent : ParentOrder) (displayQuantity : Decimal)
    (intervalSeconds : UInt64) (kind : ChildOrderKind) : Result ExecutionPlan := do
  parent.validate
  refuseIf (displayQuantity ≤ Decimal.zero ∨ intervalSeconds = 0)
    "invalid iceberg configuration"
  let children ← icebergChildren parent displayQuantity intervalSeconds kind
    10000 0 parent.quantity
  let plan : ExecutionPlan :=
    { parentOrderId := parent.parentOrderId, algorithm := "iceberg-v1"
      children := children, unallocatedQuantity := Decimal.zero }
  plan.validateAgainst parent
  pure plan

/-! ## The slices of the two planners -/

variable {displayQuantity remaining : Decimal} {allowed : Nat}
  {interval : UInt64}

theorem icebergQuantities_total {quantities : List Decimal}
    (hremaining : 0 ≤ remaining.scaled)
    (h : icebergQuantities displayQuantity allowed remaining = .ok quantities)
    : total quantities = remaining.scaled := by
  induction allowed generalizing remaining quantities with
  | zero =>
    unfold icebergQuantities at h
    split at h
    · contradiction
    · next hempty =>
      obtain rfl := Except.ok.inj h
      exact Int.le_antisymm hremaining (Int.not_lt.mp hempty)
  | succ allowed ih =>
    unfold icebergQuantities at h
    split at h
    · simp only [bind_eq_ok, checkedSub_eq_ok,
        scaled_min] at h
      obtain ⟨left, hleft, slices, hslices, h⟩ := h
      obtain rfl := Except.ok.inj h
      have hrest := ih (by omega) hslices
      rw [total_cons, scaled_min]
      omega
    · next hempty =>
      obtain rfl := Except.ok.inj h
      exact Int.le_antisymm hremaining (Int.not_lt.mp hempty)

/-- The two loops cut the same slices; the dedicated one also needs every
offset to fit. -/
theorem icebergChildren_eq_ok {parent : ParentOrder} {kind : ChildOrderKind}
    {index : Nat} {children : List ChildInstruction} :
    icebergChildren parent displayQuantity interval kind allowed index
        remaining = .ok children ↔
      ∃ quantities, icebergQuantities displayQuantity allowed remaining = .ok quantities
          ∧ (∀ later < quantities.length, (later + index) * interval.toNat < 2 ^ 64)
          ∧ children = quantities.mapIdx fun later quantity =>
              scheduledChild parent kind interval quantity (later + index) := by
  induction allowed generalizing index remaining children with
  | zero =>
    unfold icebergChildren icebergQuantities
    split
    · simp
    · simp [eq_comm]
  | succ allowed ih =>
    have hlater : ∀ later : Nat, later + (index + 1) = later + 1 + index := by
      omega
    unfold icebergChildren icebergQuantities
    split
    · simp only [bind_eq_ok, checkedOffset_eq_ok, ih, hlater]
      constructor
      · rintro ⟨offset, ⟨hfits, rfl⟩, left, hleft, later,
          ⟨quantities, hquantities, hoffsets, rfl⟩, h⟩
        obtain rfl := Except.ok.inj h
        refine ⟨_, ⟨left, hleft, quantities, hquantities, rfl⟩, ?_, ?_⟩
        · intro position hposition
          cases position with
          | zero => rwa [Nat.zero_add]
          | succ position =>
            exact hoffsets position (Nat.lt_of_succ_lt_succ hposition)
        · simp only [List.mapIdx_cons, Nat.zero_add]
          rfl
      · rintro ⟨_, ⟨left, hleft, quantities, hquantities, h⟩, hoffsets, rfl⟩
        obtain rfl := Except.ok.inj h
        refine ⟨_, ⟨?_, rfl⟩, left, hleft, _, ⟨quantities, hquantities, ?_, rfl⟩, ?_⟩
        · simpa using hoffsets 0 (by simp)
        · intro position hposition
          exact hoffsets (position + 1) (Nat.succ_lt_succ hposition)
        · simp only [List.mapIdx_cons, Nat.zero_add]
          rfl
    · simp [eq_comm]

/-! ## The two planners -/

theorem planIcebergExecution_eq_ok {parent : ParentOrder} {plan : ExecutionPlan} :
    planIcebergExecution parent displayQuantity interval
        (childOrderKind parent) = .ok plan ↔
      parent.Valid ∧ ∃ schedule,
        (ExecutionAlgorithm.iceberg displayQuantity interval).schedule
            parent.quantity = .ok schedule
          ∧ schedule.Plans parent plan := by
  simp only [planIcebergExecution, ExecutionAlgorithm.schedule, bind_eq_ok,
    ParentOrder.validate_eq_ok, refuseIf_eq_ok, icebergChildren_eq_ok,
    ExecutionPlan.validateAgainst_eq_ok, Nat.add_zero]
  constructor
  · rintro ⟨-, hparent, -, hconfiguration, children,
      ⟨quantities, hquantities, hoffsets, rfl⟩, -, haccepted, h⟩
    obtain rfl := Except.ok.inj h
    refine ⟨hparent, ⟨"iceberg-v1", quantities, interval⟩,
      ⟨(), hconfiguration, quantities, hquantities, rfl⟩,
      rfl, rfl, rfl, hoffsets, ?_, Int.le_refl 0⟩
    rw [scaled_zero, Int.add_zero]
    exact icebergQuantities_total (Int.le_of_lt hparent.quantity) hquantities
  · rintro ⟨hparent, schedule, ⟨-, hconfiguration, quantities, hquantities, h⟩, hplans⟩
    obtain rfl := Except.ok.inj h
    have htotal := icebergQuantities_total
      (Int.le_of_lt hparent.quantity) hquantities
    have hdisplay : 0 < displayQuantity.scaled :=
      Int.not_le.mp (not_or.mp hconfiguration).1
    have hunallocated : plan.unallocatedQuantity = Decimal.zero := by
      apply Decimal.ext
      have := hplans.conserved
      rw [scaled_zero]
      simp only at this
      omega
    have haccepted := hplans.accepted hparent (by simp)
      (icebergQuantities_positive hdisplay hquantities)
    refine ⟨(), hparent, (), hconfiguration, plan.children,
      ⟨quantities, hquantities, hplans.offsets, hplans.children⟩, (), ?_, ?_⟩
    · rw [← hunallocated, ← hplans.parentOrderId]
      have hlabel : plan.algorithm = "iceberg-v1" := hplans.algorithm
      rw [← hlabel]
      exact haccepted
    · rw [← hunallocated, ← hplans.parentOrderId]
      have hlabel : plan.algorithm = "iceberg-v1" := hplans.algorithm
      rw [← hlabel]
      rfl

theorem icebergs_agree (parent : ParentOrder) (displayQuantity : Decimal)
    (intervalSeconds : UInt64) (kind : ChildOrderKind)
    (hkind : kind = if parent.limitPrice.isSome then .limit else .market) :
    (planIcebergExecution parent displayQuantity intervalSeconds kind).toOption
      = (planExecution parent
          (.iceberg displayQuantity intervalSeconds)).toOption := by
  obtain rfl : kind = childOrderKind parent := hkind
  apply toOption_congr
  intro plan
  rw [planIcebergExecution_eq_ok, planExecution_direct rfl, planBranchExecution_eq_ok]

namespace IcebergRun

def decimal (units : Int) : Decimal :=
  (Decimal.fromInteger units).toOption.getD Decimal.zero

def parent : ParentOrder where
  parentOrderId := "p"
  accountId := "a"
  instrumentId := "i"
  side := .buy
  quantity := decimal 5
  limitPrice := some (decimal 10)

/-- Three slices of two, two and one. -/
theorem icebergs_agree_five : (planIcebergExecution parent (decimal 2) 30 .limit).toOption
        = (planExecution parent (.iceberg (decimal 2) 30)).toOption
      ∧ ((planExecution parent (.iceberg (decimal 2) 30)).toOption.map
          fun plan => plan.children.map (·.quantity))
        = some [decimal 2, decimal 2, decimal 1] :=
  ⟨icebergs_agree parent (decimal 2) 30 .limit rfl, by decide⟩

end IcebergRun

end Follon.Execution
