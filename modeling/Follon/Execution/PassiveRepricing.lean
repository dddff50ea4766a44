import Follon.Execution.Routing

/-!
# Passive repricing

A passive order follows its own side of the book by replacing the working child
at a more aggressive price, never across the spread, beyond the hard limit or
further from the initial price than the policy allows.
-/

namespace Follon.Execution

open Foundation Domain

structure PassiveRepricePolicy where
  (initialLimitPrice tickSize : Decimal)
  (maximumChaseBps maximumReplacements : Nat)
  minimumReplaceIntervalSeconds : UInt64
  deriving DecidableEq

structure PassiveMarketObservation where
  observedAfterSeconds : UInt64
  (bestBid bestAsk : Decimal)
  deriving DecidableEq

structure CancelReplaceInstruction where
  cancelChildOrderId : String
  replacement : ChildInstruction
  deriving DecidableEq

structure PassiveRepricePlan where
  initial : ChildInstruction
  replacements : List CancelReplaceInstruction
  deriving DecidableEq

/-! ## The planner -/

def passiveChild (parent : ParentOrder) (index : Nat) (afterSeconds : UInt64)
    (price : Decimal) : ChildInstruction where
  childOrderId := routeId parent "passive" index
  scheduledAfterSeconds := afterSeconds
  venue := none
  quantity := parent.quantity
  kind := .limit
  limitPrice := some price
  stopPrice := none

/-- The loop's variables: the working child's identity and price, the time of
the last replacement, and how many there were. -/
structure LiveChild where
  currentId : String
  currentPrice : Decimal
  lastReplaceAt : UInt64
  replacements : Nat
  deriving DecidableEq

def isOffGrid (price tick : Decimal) : Bool := price.scaled.tmod tick.scaled != 0

def isOutsideLimit (parent : ParentOrder) (price : Decimal) : Bool :=
  match parent.side, parent.limitPrice with
  | .buy, some hardLimit => hardLimit < price
  | .sell, some hardLimit => price < hardLimit
  | _, none => false

def crossesInitially (parent : ParentOrder) (policy : PassiveRepricePolicy)
    (observation : PassiveMarketObservation) : Bool :=
  match parent.side with
  | .buy => observation.bestAsk ≤ policy.initialLimitPrice
  | .sell => policy.initialLimitPrice ≤ observation.bestBid

def validateObservation (parent : ParentOrder) (policy : PassiveRepricePolicy)
    (priorObservation : Option UInt64)
    (observation : PassiveMarketObservation) : Result Unit :=
  refuseIf (observation.bestBid ≤ Decimal.zero ∨ observation.bestAsk ≤ observation.bestBid
    ∨ isOffGrid observation.bestBid policy.tickSize = true
    ∨ isOffGrid observation.bestAsk policy.tickSize = true
    ∨ (priorObservation = none ∧ crossesInitially parent policy observation = true)
    ∨ (∃ prior ∈ priorObservation, observation.observedAfterSeconds ≤ prior))
    "invalid passive market observation"

/-- `last_replace_at.checked_add(minimum_replace_interval_seconds)`. -/
def checkedAddSeconds (a b : UInt64) : Result UInt64 :=
  if a.toNat + b.toNat < 2 ^ 64 then
    .ok (UInt64.ofNat (a.toNat + b.toNat))
  else
    .error ⟨"passive schedule overflowed"⟩

/-- The most aggressive grid price that respects the hard limit.  The addition
of a sell is not checked in the source, and never overflows. -/
def clampToLimit (parent : ParentOrder) (tick candidate : Decimal) : Result Decimal :=
  match parent.limitPrice with
  | none => .ok candidate
  | some hardLimit =>
    let below := hardLimit.scaled - hardLimit.scaled % tick.scaled
    match parent.side with
    | .buy => do
      let highest ← Decimal.checked below "attempt to add with overflow"
      pure (candidate.min highest)
    | .sell => do
      let lowest ← Decimal.checked
        (if below = hardLimit.scaled then below else below + tick.scaled)
        "attempt to add with overflow"
      pure (candidate.max lowest)

def isMoreAggressive (side : Side) (observation : PassiveMarketObservation)
    (currentPrice candidate : Decimal) : Bool :=
  match side with
  | .buy => currentPrice < candidate && candidate < observation.bestAsk
  | .sell => candidate < currentPrice && observation.bestBid < candidate

def ownQuote (side : Side) (observation : PassiveMarketObservation) : Decimal :=
  match side with
  | .buy => observation.bestBid
  | .sell => observation.bestAsk

def repriceAt (parent : ParentOrder) (policy : PassiveRepricePolicy)
    (live : LiveChild) (observation : PassiveMarketObservation) :
    Result (Option Decimal) :=
  if policy.maximumReplacements ≤ live.replacements then
    pure none
  else do
    let due ← checkedAddSeconds live.lastReplaceAt
      policy.minimumReplaceIntervalSeconds
    if observation.observedAfterSeconds < due then
      pure none
    else do
      let candidate ← clampToLimit parent policy.tickSize
        (ownQuote parent.side observation)
      if isMoreAggressive parent.side observation live.currentPrice
          candidate then do
        let deviation ← priceDeviationBps policy.initialLimitPrice candidate
        let maximumChase ← Decimal.fromInteger policy.maximumChaseBps
        pure (if maximumChase < deviation then none else some candidate)
      else
        pure none

def replacementAt (parent : ParentOrder) (live : LiveChild)
    (observation : PassiveMarketObservation) (price : Decimal) :
    CancelReplaceInstruction where
  cancelChildOrderId := live.currentId
  replacement := passiveChild parent (live.replacements + 1)
    observation.observedAfterSeconds price

def LiveChild.replaced (parent : ParentOrder) (live : LiveChild)
    (observation : PassiveMarketObservation) (price : Decimal) : LiveChild where
  currentId := routeId parent "passive" (live.replacements + 1)
  currentPrice := price
  lastReplaceAt := observation.observedAfterSeconds
  replacements := live.replacements + 1

def repriceObservations (parent : ParentOrder) (policy : PassiveRepricePolicy) :
    List PassiveMarketObservation → (priorObservation : Option UInt64) →
      (live : LiveChild) → Result (List CancelReplaceInstruction)
  | [], _, _ => .ok []
  | observation :: rest, priorObservation, live => do
    validateObservation parent policy priorObservation observation
    let prior := some observation.observedAfterSeconds
    match ← repriceAt parent policy live observation with
    | none => repriceObservations parent policy rest prior live
    | some price => do
      let later ← repriceObservations parent policy rest prior
        (live.replaced parent observation price)
      pure (replacementAt parent live observation price :: later)

def initialLive (parent : ParentOrder) (policy : PassiveRepricePolicy) : LiveChild where
  currentId := routeId parent "passive" 0
  currentPrice := policy.initialLimitPrice
  lastReplaceAt := 0
  replacements := 0

def planPassiveRepricing (parent : ParentOrder) (policy : PassiveRepricePolicy)
    (observations : List PassiveMarketObservation) : Result PassiveRepricePlan := do
  parent.validate
  refuseIf (policy.initialLimitPrice ≤ Decimal.zero ∨ policy.tickSize ≤ Decimal.zero
    ∨ 10000 < policy.maximumChaseBps
    ∨ 10000 < policy.maximumReplacements
    ∨ policy.minimumReplaceIntervalSeconds = 0
    ∨ isOffGrid policy.initialLimitPrice policy.tickSize = true
    ∨ observations.isEmpty = true
    ∨ 100000 < observations.length) "invalid passive repricing policy"
  refuseIf (isOutsideLimit parent policy.initialLimitPrice = true)
    "initial passive price violates the parent limit"
  let replacements ← repriceObservations parent policy observations none
    (initialLive parent policy)
  pure
    { initial := passiveChild parent 0 0 policy.initialLimitPrice
      replacements := replacements }

end Follon.Execution
