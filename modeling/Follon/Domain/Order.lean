import Follon.Domain.Identity

/-!
# Orders, combinations and their lifecycle

The strategy requests the OMS accepts, the lifecycle states an order passes
through, and the normalized executions a broker reports.
-/

namespace Follon.Domain

open Foundation

inductive Side where
  | buy
  | sell
  deriving DecidableEq, Repr

def Side.asStr : Side → String
  | buy => "BUY"
  | sell => "SELL"

inductive OrderType where
  | market
  | limit
  deriving DecidableEq, Repr

def OrderType.asStr : OrderType → String
  | market => "MARKET"
  | limit => "LIMIT"

inductive TimeInForce where
  | day
  | goodTilCancelled
  deriving DecidableEq, Repr

def TimeInForce.asStr : TimeInForce → String
  | day => "DAY"
  | goodTilCancelled => "GTC"

/-! ## Prices and positions -/

def priceDeviationBps (referencePrice requestedPrice : Decimal) : Result Decimal := do
  refuseIf (referencePrice ≤ Decimal.zero ∨ requestedPrice ≤ Decimal.zero)
    "price-collar inputs must both be positive"
  let distance ←
    if referencePrice ≤ requestedPrice then
      requestedPrice.checkedSub referencePrice
    else
      referencePrice.checkedSub requestedPrice
  let tenThousand ← Decimal.fromInteger 10000
  let scaled ← distance.checkedMul tenThousand
  scaled.checkedDiv referencePrice

def reducesPosition (current projected : Decimal) : Bool :=
  (Decimal.zero < current ∧ Decimal.zero ≤ projected ∧ projected < current) ∨
    (current < Decimal.zero ∧ projected ≤ Decimal.zero ∧ current < projected)

def magnitude (value : Decimal) : Result Decimal :=
  if value < Decimal.zero then Decimal.zero.checkedSub value else .ok value

theorem scaled_of_magnitude {value d : Decimal}
    (h : magnitude value = .ok d) : d.scaled = |value.scaled| := by
  unfold magnitude at h
  split at h
  · next hnegative =>
      rw [checkedSub_eq_ok, scaled_zero] at h
      rw [h, abs_of_neg hnegative]
      omega
  · next hpositive =>
      rw [← Except.ok.inj h, abs_of_nonneg (Int.not_lt.mp hpositive)]

def reducesPositionWithWorking
    (current projected workingReduction : Decimal) : Result Bool :=
  if reducesPosition current projected then do
    let moved ← projected.checkedSub current
    let taken ← magnitude moved
    let claimed ← taken.checkedAdd workingReduction
    let held ← magnitude current
    pure (claimed ≤ held)
  else
    pure false

/-! ## Intents -/

structure OrderIntent where
  (intentId accountId strategyId instrumentId correlationId : String)
  side : Side
  quantity : Decimal
  orderType : OrderType
  limitPrice : Option Decimal
  timeInForce : TimeInForce
  (rationale createdAt strategyVersion configurationVersion : String)
  environment : String
  deriving DecidableEq, Repr

def OrderIntent.validate (intent : OrderIntent) : Result Unit := do
  validateCanonicalId "intent_id" intent.intentId
  validateCanonicalId "account_id" intent.accountId
  validateCanonicalId "strategy_id" intent.strategyId
  validateCanonicalId "instrument_id" intent.instrumentId
  validateCanonicalId "correlation_id" intent.correlationId
  validateUtcTimestamp "intent created_at" intent.createdAt
  refuseIf (intent.quantity ≤ Decimal.zero ∨ intent.rationale.isEmpty = true ∨
      intent.createdAt.isEmpty = true)
    "intent quantity, rationale, and creation time are required"
  refuseIf (intent.orderType = .limit ∧ intent.limitPrice = none ∨
      intent.orderType = .market ∧ intent.limitPrice ≠ none)
    "intent limit price does not match order type"

theorem OrderIntent.quantity_pos {intent : OrderIntent}
    (h : intent.validate = .ok ()) : 0 < intent.quantity.scaled := by
  simp only [validate, bind_eq_ok, refuseIf_eq_ok, exists_const, not_or,
    le_def, scaled_zero] at h
  obtain ⟨_, -, _, -, _, -, _, -, _, -, _, -, ⟨hpositive, -⟩, -⟩ := h
  omega

inductive ComboPriceLimit where
  | maximumDebit (amount : Decimal)
  | minimumCredit (amount : Decimal)
  deriving DecidableEq, Repr

namespace ComboPriceLimit

def kind : ComboPriceLimit → String
  | maximumDebit _ => "MAXIMUM_DEBIT"
  | minimumCredit _ => "MINIMUM_CREDIT"

def amount : ComboPriceLimit → Decimal
  | maximumDebit amount => amount
  | minimumCredit amount => amount

def checkNetPrice (limit : ComboPriceLimit) (protectedNetPrice : Decimal) : Result Unit :=
  match limit with
  | maximumDebit limit =>
    refuseIf (limit ≤ Decimal.zero ∨ protectedNetPrice < Decimal.zero ∨
        limit < protectedNetPrice)
      "combination exceeds its maximum debit"
  | minimumCredit limit => do
    let credit ← Decimal.zero.checkedSub protectedNetPrice
    refuseIf (limit ≤ Decimal.zero ∨ credit < limit)
      "combination is below its minimum credit"

end ComboPriceLimit

structure ComboIntentLeg where
  instrumentId : String
  side : Side
  ratio : Nat
  limitPrice : Decimal
  deriving DecidableEq, Repr

structure ComboIntent where
  (intentId accountId strategyId correlationId : String)
  legs : List ComboIntentLeg
  comboQuantity : Decimal
  priceLimit : ComboPriceLimit
  timeInForce : TimeInForce
  (rationale createdAt strategyVersion configurationVersion : String)
  environment : String
  deriving DecidableEq, Repr

namespace ComboIntent

def validateLegs (seen : List String) : List ComboIntentLeg → Result Unit
  | [] => pure ()
  | leg :: legs => do
    validateCanonicalId "combo leg instrument_id" leg.instrumentId
    refuseIf (leg.instrumentId ∈ seen)
      "combo intent legs must reference distinct instruments"
    refuseIf (leg.ratio < 1 ∨ 10000 < leg.ratio)
      "combo leg ratio must be between 1 and 10000"
    refuseIf (leg.limitPrice ≤ Decimal.zero)
      "combo leg limit price must be positive"
    validateLegs (seen ++ [leg.instrumentId]) legs

def addLegNet (net : Decimal) (leg : ComboIntentLeg) : Result Decimal := do
  let ratio ← Decimal.fromInteger leg.ratio
  let legNet ← leg.limitPrice.checkedMul ratio
  match leg.side with
  | .buy => net.checkedAdd legNet
  | .sell => net.checkedSub legNet

def protectedNetPrice (intent : ComboIntent) : Result Decimal :=
  intent.legs.foldlM addLegNet Decimal.zero

def validate (intent : ComboIntent) : Result Unit := do
  validateCanonicalId "combo intent_id" intent.intentId
  validateCanonicalId "combo account_id" intent.accountId
  validateCanonicalId "combo strategy_id" intent.strategyId
  validateCanonicalId "combo correlation_id" intent.correlationId
  validateUtcTimestamp "combo intent created_at" intent.createdAt
  refuseIf (intent.comboQuantity ≤ Decimal.zero ∨ intent.rationale.isEmpty = true)
    "combo intent quantity and rationale are required"
  refuseIf (intent.legs.length < 2 ∨ 16 < intent.legs.length)
    "combo intent must contain between 2 and 16 legs"
  validateLegs [] intent.legs
  refuseIf (intent.priceLimit.amount ≤ Decimal.zero)
    "combo price limit must be a positive amount"
  let netPrice ← intent.protectedNetPrice
  intent.priceLimit.checkNetPrice netPrice

def legQuantity (intent : ComboIntent) (leg : ComboIntentLeg) : Result Decimal := do
  let ratio ← Decimal.fromInteger leg.ratio
  intent.comboQuantity.checkedMul ratio

def addLegGross (intent : ComboIntent) (gross : Decimal)
    (leg : ComboIntentLeg) : Result Decimal := do
  let quantity ← intent.legQuantity leg
  let notional ← quantity.checkedMul leg.limitPrice
  gross.checkedAdd notional

def grossNotional (intent : ComboIntent) : Result Decimal :=
  intent.legs.foldlM intent.addLegGross Decimal.zero

def projectedLegDelta (intent : ComboIntent) (leg : ComboIntentLeg) : Result Decimal := do
  let quantity ← intent.legQuantity leg
  match leg.side with
  | .buy => pure quantity
  | .sell => Decimal.zero.checkedSub quantity

end ComboIntent

/-! ## Lifecycle -/

structure RiskDecision where
  (decisionId intentId : String)
  approved : Bool
  reasonCodes : List String
  (policyVersion decidedAt correlationId actor evaluatedLimits : String)
  deriving DecidableEq, Repr

inductive OrderState where
  | created
  | pendingRisk
  | riskRejected
  | approved
  | pendingSubmit
  | submitted
  | acknowledged
  | partiallyFilled
  | filled
  | pendingCancel
  | pendingReplace
  | cancelled
  | rejected
  | expired
  | unknown
  deriving DecidableEq, Repr

def OrderState.asStr : OrderState → String
  | created => "CREATED"
  | pendingRisk => "PENDING_RISK"
  | riskRejected => "RISK_REJECTED"
  | approved => "APPROVED"
  | pendingSubmit => "PENDING_SUBMIT"
  | submitted => "SUBMITTED"
  | acknowledged => "ACKNOWLEDGED"
  | partiallyFilled => "PARTIALLY_FILLED"
  | filled => "FILLED"
  | pendingCancel => "PENDING_CANCEL"
  | pendingReplace => "PENDING_REPLACE"
  | cancelled => "CANCELLED"
  | rejected => "REJECTED"
  | expired => "EXPIRED"
  | unknown => "UNKNOWN"

structure Fill where
  (executionId orderId instrumentId : String)
  side : Side
  (quantity price fee : Decimal)
  executedAt : String
  deriving DecidableEq, Repr

def signedFill (fill : Fill) : Int :=
  match fill.side with
  | .buy => fill.quantity.scaled
  | .sell => -fill.quantity.scaled

def Fill.feeShare (fill : Fill) (closed : Decimal) : Result Decimal :=
  if closed = fill.quantity then
    pure fill.fee
  else do
    let scaled ← fill.fee.checkedMul closed
    scaled.checkedDiv fill.quantity

end Follon.Domain
