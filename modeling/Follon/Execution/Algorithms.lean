import Follon.Execution.Plan
import Mathlib.Data.List.Sort

/-!
# Execution algorithms

An algorithm splits the parent's quantity into slices; one child is scheduled a
slice, `intervalSeconds` after the one before.  The algorithm wheel gives each
of its branches a share of the parent and merges their schedules.
-/

namespace Follon.Execution

open Foundation Domain

structure AlgoWheelAllocation (α : Type) where
  algorithm : α
  weightBps : Nat

inductive ExecutionAlgorithm where
  | immediate
  | twap (sliceCount : Nat) (intervalSeconds : UInt64)
  | vwap (forecastMarketVolumes : List Decimal) (intervalSeconds : UInt64)
  | participation (participationBps : Nat)
      (observedMarketVolumes : List Decimal) (intervalSeconds : UInt64)
  | arrivalPrice (sliceCount : Nat) (intervalSeconds : UInt64)
      (urgencyBps : Nat)
  | iceberg (displayQuantity : Decimal) (intervalSeconds : UInt64)
  | algoWheel (allocations : List (AlgoWheelAllocation ExecutionAlgorithm))

def ExecutionAlgorithm.isWheel : ExecutionAlgorithm → Bool
  | algoWheel _ => true
  | _ => false

/-! ## Splitting a quantity -/

def splitExact (quantity : Decimal) (parts : Nat) : Result (List Decimal) := do
  let base := quantity.scaled.tdiv parts
  let remainder := quantity.scaled.tmod parts
  let slices ← collect (fun index : Nat =>
    Decimal.checked (base + if (index : Int) < remainder then 1 else 0)
      "TWAP slice overflowed") (List.range parts)
  pure (slices.filter (Decimal.zero < ·))

def windowQuantity (quantity totalWeight allocated weight : Decimal)
    (isLast : Bool) : Result Decimal :=
  if isLast then
    Decimal.checked (quantity.scaled - allocated.scaled)
      "VWAP allocation overflowed"
  else do
    let value ← Decimal.checked (quantity.scaled * weight.scaled)
      "VWAP allocation overflowed"
    Decimal.checked (value.scaled.tdiv totalWeight.scaled)
      "VWAP allocation overflowed"

def splitWeighted (quantity totalWeight : Decimal) :
    List Decimal → (allocated : Decimal) → Result (List Decimal)
  | [], _ => .ok []
  | weight :: rest, allocated => do
    let scaled ←
      windowQuantity quantity totalWeight allocated weight rest.isEmpty
    refuseIf (scaled ≤ Decimal.zero)
      "VWAP window would round to zero at configured precision"
    let allocated ← Decimal.checked (allocated.scaled + scaled.scaled)
      "VWAP allocation overflowed"
    let windows ← splitWeighted quantity totalWeight rest allocated
    pure (scaled :: windows)

def splitWeightedExact (quantity : Decimal) (weights : List Decimal) :
    Result (List Decimal) := do
  let totalWeight ← weights.foldlM
    (fun total weight => Decimal.checked (total.scaled + weight.scaled)
      "VWAP weight total overflowed") Decimal.zero
  refuseIf (quantity ≤ Decimal.zero ∨ totalWeight ≤ Decimal.zero)
    "invalid VWAP inputs"
  splitWeighted quantity totalWeight weights Decimal.zero

/-- The loop of the participation branch over the observed windows. -/
def participationQuantities (rate : Decimal) :
    List Decimal → (remaining : Decimal) → Result (List Decimal)
  | [], _ => .ok []
  | volume :: rest, remaining =>
    if remaining = Decimal.zero then
      .ok []
    else do
      let capacity ← volume.checkedMul rate
      let quantity := capacity.min remaining
      if Decimal.zero < quantity then do
        let remaining ← remaining.checkedSub quantity
        let scheduled ← participationQuantities rate rest remaining
        pure (quantity :: scheduled)
      else
        participationQuantities rate rest remaining

/-- `value.ok_or_else(overflow)` of an `i64` operation on counts. -/
def checkedWeight (value : Nat) : Result Nat := do
  refuseIf (2 ^ 63 ≤ value) "arrival-price weight overflowed"
  pure value

def arrivalWeight (sliceCount urgencyBps index : Nat) : Result Decimal := do
  let remainingRank := sliceCount - index
  let urgencyWeight ← checkedWeight (urgencyBps * remainingRank)
  let weight ← checkedWeight (10000 + urgencyWeight)
  Decimal.fromInteger weight

/-- The loop of the iceberg branch, with the slices it may still cut. -/
def icebergQuantities (displayQuantity : Decimal) :
    (allowed : Nat) → (remaining : Decimal) → Result (List Decimal)
  | allowed, remaining =>
    if Decimal.zero < remaining then
      match allowed with
      | 0 => .error ⟨"iceberg slice count exceeds maximum allowed"⟩
      | allowed + 1 => do
        let slice := remaining.min displayQuantity
        let remaining ← remaining.checkedSub slice
        let quantities ← icebergQuantities displayQuantity allowed remaining
        pure (slice :: quantities)
    else
      .ok []

/-! ## Schedules -/

structure Schedule where
  label : String
  quantities : List Decimal
  intervalSeconds : UInt64
  deriving DecidableEq

namespace ExecutionAlgorithm

def schedule (quantity : Decimal) : ExecutionAlgorithm → Result Schedule
  | immediate => .ok ⟨"immediate-v1", [quantity], 0⟩
  | twap sliceCount intervalSeconds => do
    refuseIf (sliceCount = 0 ∨ 10000 < sliceCount ∨ intervalSeconds = 0)
      "invalid TWAP configuration"
    let quantities ← splitExact quantity sliceCount
    pure ⟨"twap-v1", quantities, intervalSeconds⟩
  | vwap forecastMarketVolumes intervalSeconds => do
    refuseIf (forecastMarketVolumes = [] ∨ 10000 < forecastMarketVolumes.length
      ∨ intervalSeconds = 0
      ∨ ∃ volume ∈ forecastMarketVolumes, volume ≤ Decimal.zero)
      "invalid VWAP configuration"
    let quantities ← splitWeightedExact quantity forecastMarketVolumes
    pure ⟨"vwap-v1", quantities, intervalSeconds⟩
  | participation participationBps observedMarketVolumes intervalSeconds => do
    refuseIf (¬(1 ≤ participationBps ∧ participationBps ≤ 10000)
      ∨ observedMarketVolumes = [] ∨ 10000 < observedMarketVolumes.length
      ∨ intervalSeconds = 0
      ∨ ∃ volume ∈ observedMarketVolumes, volume < Decimal.zero)
      "invalid participation configuration"
    let bps ← Decimal.fromInteger participationBps
    let tenThousand ← Decimal.fromInteger 10000
    let rate ← bps.checkedDiv tenThousand
    let quantities ←
      participationQuantities rate observedMarketVolumes quantity
    pure ⟨"participation-v1", quantities, intervalSeconds⟩
  | arrivalPrice sliceCount intervalSeconds urgencyBps => do
    refuseIf (sliceCount = 0 ∨ 10000 < sliceCount ∨ intervalSeconds = 0
      ∨ 10000 < urgencyBps) "invalid arrival-price configuration"
    let weights ← collect (arrivalWeight sliceCount urgencyBps)
      (List.range sliceCount)
    let quantities ← splitWeightedExact quantity weights
    pure ⟨"arrival-price-v1", quantities, intervalSeconds⟩
  | iceberg displayQuantity intervalSeconds => do
    refuseIf (displayQuantity ≤ Decimal.zero ∨ intervalSeconds = 0)
      "invalid iceberg configuration"
    let quantities ← icebergQuantities displayQuantity 10000 quantity
    pure ⟨"iceberg-v1", quantities, intervalSeconds⟩
  | algoWheel _ => .error ⟨"handled above"⟩

end ExecutionAlgorithm

/-! ## Children -/

/-- `format!("{}.child.{:04}", parent.parent_order_id, index + 1)`. -/
def childOrderId (parentOrderId : String) (index : Nat) : String :=
  parentOrderId ++ String.ofList (".child.".toList ++ zeroPadded 4 (index + 1))

def checkedOffset (index : Nat) (intervalSeconds : UInt64) (message : String) :
    Result UInt64 := do
  refuseIf (2 ^ 64 ≤ index * intervalSeconds.toNat) message
  pure (UInt64.ofNat (index * intervalSeconds.toNat))

def childOrderKind (parent : ParentOrder) : ChildOrderKind :=
  if parent.limitPrice.isSome then .limit else .market

def scheduledChild (parent : ParentOrder) (kind : ChildOrderKind)
    (intervalSeconds : UInt64) (quantity : Decimal) (index : Nat) : ChildInstruction where
  childOrderId := childOrderId parent.parentOrderId index
  scheduledAfterSeconds := UInt64.ofNat (index * intervalSeconds.toNat)
  venue := none
  quantity := quantity
  kind := kind
  limitPrice := parent.limitPrice
  stopPrice := none

def scheduleChildren (parent : ParentOrder) (intervalSeconds : UInt64) :
    List Decimal → (index : Nat) → (allocated : Decimal) →
      Result (List ChildInstruction × Decimal)
  | [], _, allocated => .ok ([], allocated)
  | quantity :: rest, index, allocated => do
    let allocated ← allocated.checkedAdd quantity
    let offset ← checkedOffset index intervalSeconds
      "execution schedule overflowed"
    let (children, allocated) ←
      scheduleChildren parent intervalSeconds rest (index + 1) allocated
    pure ({ childOrderId := childOrderId parent.parentOrderId index
            scheduledAfterSeconds := offset, venue := none, quantity := quantity
            kind := childOrderKind parent, limitPrice := parent.limitPrice
            stopPrice := none } :: children, allocated)

/-- `plan_execution` past the wheel: the parent is valid and the algorithm
is not a wheel. -/
def planDirectExecution (parent : ParentOrder)
    (algorithm : ExecutionAlgorithm) : Result ExecutionPlan := do
  let schedule ← algorithm.schedule parent.quantity
  let (children, allocated) ← scheduleChildren parent
    schedule.intervalSeconds schedule.quantities 0 Decimal.zero
  let unallocatedQuantity ← parent.quantity.checkedSub allocated
  let plan : ExecutionPlan :=
    { parentOrderId := parent.parentOrderId, algorithm := schedule.label
      children := children, unallocatedQuantity := unallocatedQuantity }
  plan.validateAgainst parent
  pure plan

/-! ## The wheel -/

def planBranchExecution (parent : ParentOrder)
    (algorithm : ExecutionAlgorithm) : Result ExecutionPlan := do
  parent.validate
  planDirectExecution parent algorithm

def checkAllocation (totalWeight : Nat)
    (alloc : AlgoWheelAllocation ExecutionAlgorithm) : Result Nat := do
  refuseIf (alloc.algorithm.isWheel = true)
    "algorithm wheel cannot contain nested wheel algorithms"
  refuseIf (alloc.weightBps = 0 ∨ 10000 < alloc.weightBps)
    "algorithm wheel allocation weight must be in (0, 10000]"
  refuseIf (2 ^ 32 ≤ totalWeight + alloc.weightBps)
    "algorithm wheel weight overflowed"
  pure (totalWeight + alloc.weightBps)

def subQuantities (parent : ParentOrder)
    (allocations : List (AlgoWheelAllocation ExecutionAlgorithm)) :
    Result (List Decimal) := do
  let weights ← collect
    (fun alloc => Decimal.fromInteger alloc.weightBps) allocations
  splitWeightedExact parent.quantity weights

def subParent (parent : ParentOrder) (wheelIndex : Nat) (quantity : Decimal) :
    ParentOrder :=
  { parent with
    parentOrderId := parent.parentOrderId ++
      String.ofList (".wheel.".toList ++ zeroPadded 2 (wheelIndex + 1))
    quantity := quantity }

structure WheelChild where
  offset : UInt64
  (wheelIndex childIndex : Nat)
  child : ChildInstruction

def WheelChild.Before (a b : WheelChild) : Prop :=
  a.offset < b.offset ∨ a.offset = b.offset ∧ (a.wheelIndex < b.wheelIndex
    ∨ a.wheelIndex = b.wheelIndex ∧ a.childIndex ≤ b.childIndex)

instance : DecidableRel WheelChild.Before :=
  fun a b => inferInstanceAs (Decidable (a.offset < b.offset ∨ _))

def branchChildren (wheelIndex : Nat) (children : List ChildInstruction) :
    List WheelChild :=
  children.mapIdx fun childIndex child =>
    ⟨child.scheduledAfterSeconds, wheelIndex, childIndex, child⟩

/-- The combined children of the allocations left, with the total unallocated
at the end. -/
def planBranches (parent : ParentOrder) :
    List (AlgoWheelAllocation ExecutionAlgorithm × Decimal) →
      (wheelIndex : Nat) → (totalUnallocated : Decimal) →
      Result (List WheelChild × Decimal)
  | [], _, totalUnallocated => .ok ([], totalUnallocated)
  | (alloc, quantity) :: rest, wheelIndex, totalUnallocated => do
    let subPlan ← planBranchExecution (subParent parent wheelIndex quantity)
      alloc.algorithm
    let totalUnallocated ←
      totalUnallocated.checkedAdd subPlan.unallocatedQuantity
    let (combined, totalUnallocated) ←
      planBranches parent rest (wheelIndex + 1) totalUnallocated
    pure (branchChildren wheelIndex subPlan.children ++ combined, totalUnallocated)

def renumbered (parentOrderId : String) (combined : List WheelChild) :
    List ChildInstruction :=
  combined.mapIdx fun index entry =>
    { entry.child with childOrderId := childOrderId parentOrderId index }

def planAlgoWheelExecution (parent : ParentOrder)
    (allocations : List (AlgoWheelAllocation ExecutionAlgorithm)) :
    Result ExecutionPlan := do
  parent.validate
  refuseIf (allocations.isEmpty = true ∨ 100 < allocations.length)
    "algorithm wheel requires between 1 and 100 allocations"
  let totalWeight ← allocations.foldlM checkAllocation 0
  refuseIf (totalWeight ≠ 10000)
    "algorithm wheel weights must sum to exactly 10000 basis points"
  let subQuantities ← subQuantities parent allocations
  let (combined, totalUnallocated) ←
    planBranches parent (allocations.zip subQuantities) 0 Decimal.zero
  let plan : ExecutionPlan :=
    { parentOrderId := parent.parentOrderId, algorithm := "algo-wheel-v1"
      children := renumbered parent.parentOrderId
        (combined.insertionSort WheelChild.Before)
      unallocatedQuantity := totalUnallocated }
  plan.validateAgainst parent
  pure plan

def planExecution (parent : ParentOrder) (algorithm : ExecutionAlgorithm) :
    Result ExecutionPlan := do
  parent.validate
  match algorithm with
  | .algoWheel allocations => planAlgoWheelExecution parent allocations
  | direct => planDirectExecution parent direct

theorem planExecution_direct {parent : ParentOrder}
    {algorithm : ExecutionAlgorithm} (h : algorithm.isWheel = false) :
    planExecution parent algorithm = planBranchExecution parent algorithm := by
  cases algorithm <;> first | rfl | contradiction

end Follon.Execution
