import Follon.ControlPlane.Events
import Mathlib.Data.List.Sort

/-!
# Risk and fills of a replay

The risk policy every replayed intent is judged by, and the deterministic
model that prices the fills of a simulated order.
-/

namespace Follon.ControlPlane

open Foundation Domain

/-! ## Increments -/

/-- Whether `value` is a whole multiple of a positive `increment`. -/
def isWholeMultiple (value increment : Decimal) : Bool :=
  Decimal.zero < increment && value.scaled.tmod increment.scaled == 0

/-- Rounds a price onto the tick grid: a buy up, a sell down. -/
def roundToTickAgainstTrader (price : Decimal) (side : Side)
    (tick : Decimal) : Result Decimal := do
  refuseIf (tick ≤ Decimal.zero)
    "a fill price cannot be rounded to a non-positive tick"
  let floor := price.scaled - price.scaled % tick.scaled
  Decimal.checked
    (if side = .buy ∧ floor ≠ price.scaled then floor + tick.scaled else floor)
    "rounded fill price overflow"

/-! ## Risk -/

structure RiskPolicy where
  version : String
  globalKillSwitch : Bool
  (maxQuantity maxNotional maxPriceDeviationBps : Decimal)
  (maxNewsSlippageBps maxNewsSpreadMultiplierBps : Option Decimal)
  deriving DecidableEq

structure NewsShockContext where
  preHeadlineReferencePrice : Decimal
  (currentSpread baselineSpread : Option Decimal)
  deriving DecidableEq

def NewsShockContext.validate (shock : NewsShockContext) : Result Unit :=
  refuseIf (shock.preHeadlineReferencePrice ≤ Decimal.zero ∨
      (∃ spread ∈ shock.currentSpread, spread < Decimal.zero) ∨
      (∃ spread ∈ shock.baselineSpread, spread ≤ Decimal.zero))
    "invalid news shock context"

def reasonWhen (fires : Prop) [Decidable fires] (code : String) : List String :=
  if fires then [code] else []

/-- The verdict on a list of reasons, and the codes it is reported with. -/
def RiskDecision.conclude (decision : RiskDecision) (reasons : List String)
    (evaluatedLimits : String) : RiskDecision :=
  { decision with
    approved := reasons.isEmpty
    reasonCodes := if reasons.isEmpty = true then ["APPROVED"] else reasons
    evaluatedLimits }

def RiskDecision.refusals (decision : RiskDecision) : List String :=
  decision.reasonCodes.filter (· != "APPROVED")

def displayOr (absent : String) (value : Option Decimal) : String :=
  (value.map Decimal.display).getD absent

namespace RiskPolicy

def validate (policy : RiskPolicy) : Result Unit := do
  let tenThousand ← Decimal.fromInteger 10000
  refuseIf (policy.version.isEmpty = true ∨
      policy.maxQuantity ≤ Decimal.zero ∨ policy.maxNotional ≤ Decimal.zero ∨
      policy.maxPriceDeviationBps < Decimal.zero ∨
      tenThousand ≤ policy.maxPriceDeviationBps ∨
      (∃ limit ∈ policy.maxNewsSlippageBps, limit ≤ Decimal.zero ∨ tenThousand ≤ limit) ∨
      (∃ limit ∈ policy.maxNewsSpreadMultiplierBps, limit ≤ Decimal.zero))
    "invalid deterministic risk policy"

def requestedDeviation (intent : OrderIntent) (bar : Bar) : Result Decimal :=
  match intent.limitPrice with
  | some price => priceDeviationBps bar.close price
  | none => pure Decimal.zero

def evaluate (policy : RiskPolicy) (intent : OrderIntent) (bar : Bar)
    (replayTime : String) : Result RiskDecision := do
  intent.validate
  refuseIf (intent.instrumentId ≠ bar.instrumentId)
    "risk mark instrument does not match the intent"
  let estimatedNotional ← intent.quantity.checkedMul bar.close
  let requestedPriceDeviationBps ← requestedDeviation intent bar
  let reasons :=
    reasonWhen (policy.globalKillSwitch = true) "KILL_SWITCH_ACTIVE" ++
    reasonWhen (policy.maxQuantity < intent.quantity) "MAX_QUANTITY_EXCEEDED" ++
    reasonWhen (policy.maxNotional < estimatedNotional)
      "MAX_NOTIONAL_EXCEEDED" ++
    reasonWhen (policy.maxPriceDeviationBps < requestedPriceDeviationBps)
      "PRICE_COLLAR_EXCEEDED" ++
    reasonWhen (bar.close ≤ Decimal.zero) "INVALID_MARK_PRICE"
  let decision : RiskDecision :=
    { decisionId := "risk-" ++ intent.intentId, intentId := intent.intentId
      approved := false, reasonCodes := [], policyVersion := policy.version
      decidedAt := replayTime, correlationId := intent.correlationId
      actor := "risk_engine", evaluatedLimits := "" }
  pure (RiskDecision.conclude decision reasons
    ("max_quantity=" ++ policy.maxQuantity.display ++
      ",max_notional=" ++ policy.maxNotional.display ++
      ",max_price_deviation_bps=" ++ policy.maxPriceDeviationBps.display ++
      ",reference_price=" ++ bar.close.display ++
      ",requested_price=" ++ displayOr "MARKET" intent.limitPrice ++
      ",requested_price_deviation_bps=" ++ requestedPriceDeviationBps.display ++
      ",estimated_notional=" ++ estimatedNotional.display))

def evaluateWithReference (policy : RiskPolicy) (intent : OrderIntent)
    (bar : Bar) (reference : Instrument) (replayTime : String) : Result RiskDecision := do
  let decision ← policy.evaluate intent bar replayTime
  refuseIf (reference.instrumentId ≠ intent.instrumentId)
    "risk reference data instrument does not match the intent"
  refuseIf (reference.tickSize ≤ Decimal.zero ∨ reference.lotSize ≤ Decimal.zero)
    "instrument reference data has a non-positive tick or lot size"
  let reasons := RiskDecision.refusals decision ++
    reasonWhen (∃ price ∈ intent.limitPrice,
      isWholeMultiple price reference.tickSize = false)
      "LIMIT_PRICE_OFF_TICK_GRID" ++
    reasonWhen (isWholeMultiple intent.quantity reference.lotSize = false)
      "ORDER_QUANTITY_OFF_LOT_SIZE"
  pure (RiskDecision.conclude decision reasons (decision.evaluatedLimits ++
      ",instrument_tick_size=" ++ reference.tickSize.display ++
      ",instrument_lot_size=" ++ reference.lotSize.display))

def spreadMultiplierBps (shock : NewsShockContext) : Result (Option Decimal) :=
  match shock.currentSpread, shock.baselineSpread with
  | some current, some baseline => do
    let tenThousand ← Decimal.fromInteger 10000
    let scaled ← current.checkedMul tenThousand
    let multiplier ← scaled.checkedDiv baseline
    pure (some multiplier)
  | _, _ => pure none

def evaluateNews (policy : RiskPolicy) (intent : OrderIntent) (bar : Bar)
    (reference : Instrument) (replayTime : String)
    (shock : NewsShockContext) : Result RiskDecision := do
  shock.validate
  let decision ← policy.evaluateWithReference intent bar reference replayTime
  let requestedPrice := intent.limitPrice.getD bar.close
  let newsSlippageBps ←
    priceDeviationBps shock.preHeadlineReferencePrice requestedPrice
  let newsSpreadMultiplierBps ← spreadMultiplierBps shock
  let reasons := RiskDecision.refusals decision ++
    reasonWhen (∃ limit ∈ policy.maxNewsSlippageBps, limit < newsSlippageBps)
      "NEWS_SLIPPAGE_EXCEEDED" ++
    reasonWhen (∃ limit ∈ policy.maxNewsSpreadMultiplierBps,
      ∃ multiplier ∈ newsSpreadMultiplierBps, limit < multiplier)
      "LIQUIDITY_HOLE_DETECTED"
  pure (RiskDecision.conclude decision (reasons.insertionSort (· ≤ ·)).eraseReps
    (decision.evaluatedLimits ++
      ",news_reference_price=" ++ shock.preHeadlineReferencePrice.display ++
      ",news_requested_price=" ++ requestedPrice.display ++
      ",news_slippage_bps=" ++ newsSlippageBps.display ++
      ",max_news_slippage_bps=" ++ displayOr "UNSET" policy.maxNewsSlippageBps ++
      ",news_spread_multiplier_bps=" ++ displayOr "UNAVAILABLE" newsSpreadMultiplierBps ++
      ",max_news_spread_multiplier_bps=" ++
        displayOr "UNSET" policy.maxNewsSpreadMultiplierBps))

end RiskPolicy

/-! ## Fills -/

structure DeterministicFillModel where
  (spreadBps slippageBps flatFee : Decimal)
  latencyBars : UInt32
  maxFillQuantity : Option Decimal
  deriving DecidableEq

namespace DeterministicFillModel

def validate (model : DeterministicFillModel) : Result Unit := do
  let tenThousand ← Decimal.fromInteger 10000
  let two ← Decimal.fromInteger 2
  let halfSpreadBps ← model.spreadBps.checkedDiv two
  let adverseBps ← model.slippageBps.checkedAdd halfSpreadBps
  refuseIf (model.spreadBps < Decimal.zero ∨ tenThousand ≤ model.spreadBps ∨
      model.slippageBps < Decimal.zero ∨ tenThousand ≤ model.slippageBps ∨
      tenThousand ≤ adverseBps ∨ model.flatFee < Decimal.zero ∨
      1000000 < model.latencyBars.toNat ∨
      (∃ quantity ∈ model.maxFillQuantity, quantity ≤ Decimal.zero))
    ("fill spread and slippage must be in [0, 10000) bps, their combined " ++
      "adverse adjustment must be below 10000 bps, fees cannot be negative, " ++
      "latency cannot exceed 1000000 bars, and an optional fill cap must be " ++
      "positive")

def basePrice (intent : OrderIntent) (bar : Bar) : Result (Option Decimal) :=
  match intent.orderType, intent.limitPrice with
  | .market, _ => pure (some bar.close)
  | .limit, none => .error ⟨"validated limit order has a price"⟩
  | .limit, some limit =>
    match intent.side with
    | .buy =>
      pure (if bar.low ≤ limit then some (bar.close.min limit) else none)
    | .sell =>
      pure (if limit ≤ bar.high then some (bar.close.max limit) else none)

def adversePrice (model : DeterministicFillModel) (side : Side)
    (basePrice : Decimal) : Result Decimal := do
  let basisPoints ← Decimal.fromInteger 10000
  let fullSpreadDivisor ← Decimal.fromInteger 20000
  let spread ← basePrice.checkedMul model.spreadBps
  let spreadAdjustment ← spread.checkedDiv fullSpreadDivisor
  let slippage ← basePrice.checkedMul model.slippageBps
  let slippageAdjustment ← slippage.checkedDiv basisPoints
  let adverseAdjustment ← spreadAdjustment.checkedAdd slippageAdjustment
  match side with
  | .buy => basePrice.checkedAdd adverseAdjustment
  | .sell => basePrice.checkedSub adverseAdjustment

def onGrid (side : Side) (tickSize : Option Decimal) (price : Decimal) : Result Decimal :=
  match tickSize with
  | some tick => roundToTickAgainstTrader price side tick
  | none => pure price

def violatesLimit (intent : OrderIntent) (price : Decimal) : Bool :=
  match intent.limitPrice, intent.side with
  | some limit, .buy => limit < price
  | some limit, .sell => price < limit
  | none, _ => false

def fillQuantity (model : DeterministicFillModel) (order : OmsOrder)
    (bar : Bar) (replayTime : String) (quantity : Decimal)
    (executionId : String) (tickSize : Option Decimal) : Result (Option Fill) := do
  refuseIf (quantity ≤ Decimal.zero ∨ order.intent.quantity < quantity)
    "simulated fill quantity must be positive and cannot exceed order quantity"
  match ← basePrice order.intent bar with
  | none => pure none
  | some base => do
    let adverse ← model.adversePrice order.intent.side base
    let price ← onGrid order.intent.side tickSize adverse
    refuseIf (price ≤ Decimal.zero)
      "deterministic fill model produced a non-positive price"
    pure (if violatesLimit order.intent price = true then none
      else some
        { executionId
          orderId := order.orderId
          instrumentId := order.intent.instrumentId
          side := order.intent.side
          quantity
          price
          fee := model.flatFee
          executedAt := replayTime })

end DeterministicFillModel

end Follon.ControlPlane
