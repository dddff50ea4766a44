import Follon.Domain.Order
import Follon.Foundation.OrderedMap

/-!
# The aggregate portfolio-risk kernel

Candidates of one atomic group are added to the filled positions before any
metric is computed; working orders then widen each signed metric to the worst
value any subset of their fills can give it.
-/

namespace Follon.Risk

open Foundation Domain

/-! ## Checked helpers -/

def negate (value : Decimal) : Result Decimal :=
  Decimal.checked (-value.scaled) "risk decimal negation overflowed"

def absolute (value : Decimal) : Result Decimal :=
  if Decimal.zero ≤ value then .ok value else negate value

def ratioBps (numerator denominator : Decimal) : Result Decimal := do
  refuseIf (numerator < Decimal.zero ∨ denominator ≤ Decimal.zero)
    "risk ratio requires valid inputs"
  let tenThousand ← Decimal.fromInteger 10000
  let scaled ← numerator.checkedMul tenThousand
  scaled.checkedDiv denominator

/-! ## Positions and candidates -/

structure RiskPosition where
  (accountId strategyId instrumentId assetClass sector currency : String)
  (quantity markPrice multiplier delta gamma : Decimal)
  deriving DecidableEq

namespace RiskPosition

def validate (position : RiskPosition) : Result Unit := do
  validateCanonicalId "risk account_id" position.accountId
  validateCanonicalId "risk strategy_id" position.strategyId
  validateCanonicalId "risk instrument_id" position.instrumentId
  validateCanonicalId "risk asset_class" position.assetClass
  validateCanonicalId "risk sector" position.sector
  refuseIf (isCurrencyCode position.currency = false ∨
      position.markPrice ≤ Decimal.zero ∨ position.multiplier ≤ Decimal.zero)
    "invalid marked risk position"

def signedExposure (position : RiskPosition) : Result Decimal := do
  let marked ← position.quantity.checkedMul position.markPrice
  marked.checkedMul position.multiplier

end RiskPosition

structure RestingOrder where
  (orderId accountId instrumentId : String)
  side : Side
  deriving DecidableEq

/-- A candidate is a positive quantity on one side of an otherwise complete
exposure row. -/
structure CandidateOrder where
  intentId : String
  side : Side
  row : RiskPosition
  deriving DecidableEq

namespace CandidateOrder

def validate (order : CandidateOrder) : Result Unit := do
  validateCanonicalId "candidate intent_id" order.intentId
  order.row.validate
  refuseIf (order.row.quantity ≤ Decimal.zero)
    "candidate quantity must be positive"

def signedExposure (order : CandidateOrder) : Result Decimal := do
  let unsigned ← order.row.signedExposure
  match order.side with
  | .buy => pure unsigned
  | .sell => negate unsigned

end CandidateOrder

/-! ## Policy and snapshot -/

structure PortfolioRiskPolicy where
  version : String
  globalKillSwitch : Bool
  (maxGrossExposure maxAbsNetExposure maxLeverageBps : Decimal)
  (maxConcentrationBps maxDailyLoss maxDrawdownBps : Decimal)
  (maxMarginUtilizationBps maxAbsDelta maxAbsGamma : Decimal)
  (maxOpenOrders maxOrderRate : Nat)
  (allowedInstruments restrictedInstruments : OrderedSet String)
  (sectorLimits assetClassLimits currencyLimits : OrderedMap String Decimal)
  strategyLimits : OrderedMap String Decimal
  (maxNewsSlippageBps maxSpreadMultiplierBps : Option Decimal)

namespace PortfolioRiskPolicy

def renderLimits (limits : OrderedMap String Decimal) : String :=
  joinWith "|" (limits.toList.map fun entry =>
    entry.1 ++ "=" ++ entry.2.display)

def renderSet (values : OrderedSet String) : String := joinWith "|" values.toList

def renderOptional : Option Decimal → String
  | some value => value.display
  | none => "none"

def canonicalParts (policy : PortfolioRiskPolicy) : List String :=
  ["version=" ++ policy.version,
    "global_kill_switch=" ++ toString policy.globalKillSwitch,
    "max_gross_exposure=" ++ policy.maxGrossExposure.display,
    "max_abs_net_exposure=" ++ policy.maxAbsNetExposure.display,
    "max_leverage_bps=" ++ policy.maxLeverageBps.display,
    "max_concentration_bps=" ++ policy.maxConcentrationBps.display,
    "max_daily_loss=" ++ policy.maxDailyLoss.display,
    "max_drawdown_bps=" ++ policy.maxDrawdownBps.display,
    "max_margin_utilization_bps=" ++ policy.maxMarginUtilizationBps.display,
    "max_abs_delta=" ++ policy.maxAbsDelta.display,
    "max_abs_gamma=" ++ policy.maxAbsGamma.display,
    "max_open_orders=" ++ toString policy.maxOpenOrders,
    "max_order_rate=" ++ toString policy.maxOrderRate,
    "allowed_instruments=" ++ renderSet policy.allowedInstruments,
    "restricted_instruments=" ++ renderSet policy.restrictedInstruments,
    "sector_limits=" ++ renderLimits policy.sectorLimits,
    "asset_class_limits=" ++ renderLimits policy.assetClassLimits,
    "currency_limits=" ++ renderLimits policy.currencyLimits,
    "strategy_limits=" ++ renderLimits policy.strategyLimits,
    "max_news_slippage_bps=" ++ renderOptional policy.maxNewsSlippageBps,
    "max_spread_multiplier_bps=" ++ renderOptional policy.maxSpreadMultiplierBps]

def validateBucketLimits (limits : OrderedMap String Decimal) : Result Unit :=
  checkAll (fun bucket : String × Decimal =>
    refuseIf (bucket.1.isEmpty = true ∨ bucket.2 ≤ Decimal.zero)
      "invalid aggregate bucket limit") limits.toList

def validate (policy : PortfolioRiskPolicy) : Result Unit := do
  validateCanonicalId "portfolio risk version" policy.version
  let tenThousand ← Decimal.fromInteger 10000
  let hundred ← Decimal.fromInteger 100
  let maxLeverage ← tenThousand.checkedMul hundred
  refuseIf (policy.maxGrossExposure ≤ Decimal.zero ∨
      policy.maxAbsNetExposure ≤ Decimal.zero ∨
      policy.maxLeverageBps ≤ Decimal.zero ∨
      maxLeverage < policy.maxLeverageBps ∨
      policy.maxConcentrationBps ≤ Decimal.zero ∨
      tenThousand < policy.maxConcentrationBps ∨
      policy.maxDailyLoss < Decimal.zero ∨
      policy.maxDrawdownBps < Decimal.zero ∨
      tenThousand < policy.maxDrawdownBps ∨
      policy.maxMarginUtilizationBps < Decimal.zero ∨
      tenThousand < policy.maxMarginUtilizationBps ∨
      policy.maxAbsDelta < Decimal.zero ∨
      policy.maxAbsGamma < Decimal.zero ∨
      policy.maxOpenOrders = 0 ∨ policy.maxOrderRate = 0)
    "invalid portfolio risk limits"
  checkAll (validateCanonicalId "risk instrument permission")
    (policy.allowedInstruments.toList ++ policy.restrictedInstruments.toList)
  refuseIf (policy.allowedInstruments.toList.any
      (policy.restrictedInstruments.contains ·) = true)
    "an instrument cannot be both allowed and restricted"
  checkAll validateBucketLimits [policy.sectorLimits, policy.assetClassLimits,
    policy.currencyLimits, policy.strategyLimits]
  match policy.maxNewsSlippageBps with
  | some slippage =>
    refuseIf (slippage ≤ Decimal.zero ∨ tenThousand < slippage)
      "invalid max_news_slippage_bps limit"
  | none => pure ()
  match policy.maxSpreadMultiplierBps with
  | some spread =>
    refuseIf (spread ≤ Decimal.zero)
      "invalid max_spread_multiplier_bps limit"
  | none => pure ()

end PortfolioRiskPolicy

structure PortfolioRiskSnapshot where
  (equity peakEquity dailyPnl marginUsed : Decimal)
  (positions workingPositions : List RiskPosition)
  restingOrders : List RestingOrder
  recentOrderCount : Nat

/-! ## Metrics -/

structure AggregateRiskMetrics where
  (grossExposure netExposure possibleAbsNetExposure leverageBps : Decimal)
  (concentrationBps possibleConcentrationBps drawdownBps : Decimal)
  (marginUtilizationBps totalDelta possibleAbsDelta totalGamma : Decimal)
  possibleAbsGamma : Decimal
  (sectorGross assetClassGross currencyGross : OrderedMap String Decimal)
  strategyGross : OrderedMap String Decimal

def addBucket (buckets : OrderedMap String Decimal) (key : String)
    (amount : Decimal) : Result (OrderedMap String Decimal) := do
  let current := buckets[key]?.getD Decimal.zero
  let total ← current.checkedAdd amount
  pure (buckets.insert key total)

structure ExposureSums where
  (gross net : Decimal)
  instrumentGross : OrderedMap String Decimal
  (delta gamma : Decimal)
  (sector asset currency strategy : OrderedMap String Decimal)

def addExposure (sums : ExposureSums) (position : RiskPosition) :
    Result ExposureSums := do
  position.validate
  let signed ← position.signedExposure
  let absoluteExposure ← absolute signed
  let gross ← sums.gross.checkedAdd absoluteExposure
  let net ← sums.net.checkedAdd signed
  let instrumentGross ←
    addBucket sums.instrumentGross position.instrumentId absoluteExposure
  let delta ← sums.delta.checkedAdd position.delta
  let gamma ← sums.gamma.checkedAdd position.gamma
  let sector ← addBucket sums.sector position.sector absoluteExposure
  let asset ← addBucket sums.asset position.assetClass absoluteExposure
  let currency ← addBucket sums.currency position.currency absoluteExposure
  let strategy ← addBucket sums.strategy position.strategyId absoluteExposure
  pure { gross, net, instrumentGross, delta, gamma, sector, asset, currency
         strategy }

def maxOf (values : List Decimal) : Decimal :=
  values.foldl Decimal.max (values.headD Decimal.zero)

def aggregateMetrics (positions : List RiskPosition)
    (equity peakEquity marginUsed : Decimal) : Result AggregateRiskMetrics := do
  let sums ← positions.foldlM addExposure
    ⟨Decimal.zero, Decimal.zero, ∅, Decimal.zero, Decimal.zero, ∅, ∅, ∅, ∅⟩
  let largest := maxOf sums.instrumentGross.values
  let drawdown ←
    if equity < peakEquity then do
      let fall ← peakEquity.checkedSub equity
      ratioBps fall peakEquity
    else
      pure Decimal.zero
  let concentrationBps ←
    if sums.gross = Decimal.zero then pure Decimal.zero
    else ratioBps largest sums.gross
  let possibleAbsNetExposure ← absolute sums.net
  let leverageBps ← ratioBps sums.gross equity
  let marginUtilizationBps ← ratioBps marginUsed equity
  let possibleAbsDelta ← absolute sums.delta
  let possibleAbsGamma ← absolute sums.gamma
  pure
    { grossExposure := sums.gross, netExposure := sums.net
      possibleAbsNetExposure
      leverageBps
      concentrationBps
      possibleConcentrationBps := concentrationBps
      drawdownBps := drawdown
      marginUtilizationBps
      totalDelta := sums.delta
      possibleAbsDelta
      totalGamma := sums.gamma
      possibleAbsGamma
      sectorGross := sums.sector
      assetClassGross := sums.asset
      currencyGross := sums.currency
      strategyGross := sums.strategy }

/-! ## Working bounds -/

structure Bounds where
  (low high : Decimal)

def Bounds.widen (bounds : Bounds) (signed : Decimal) : Result Bounds := do
  if Decimal.zero ≤ signed then
    let high ← bounds.high.checkedAdd signed
    pure { bounds with high }
  else
    let low ← bounds.low.checkedAdd signed
    pure { bounds with low }

def Bounds.possibleAbs (bounds : Bounds) : Result Decimal := do
  let low ← absolute bounds.low
  let high ← absolute bounds.high
  pure (low.max high)

structure WorkingBounds where
  (net delta gamma : Bounds)
  instrumentGross : OrderedMap String Decimal

def addBaseGross (gross : OrderedMap String Decimal)
    (position : RiskPosition) : Result (OrderedMap String Decimal) := do
  let signed ← position.signedExposure
  let amount ← absolute signed
  addBucket gross position.instrumentId amount

def widenBounds (bounds : WorkingBounds) (position : RiskPosition) :
    Result WorkingBounds := do
  let signed ← position.signedExposure
  let net ← bounds.net.widen signed
  let delta ← bounds.delta.widen position.delta
  let gamma ← bounds.gamma.widen position.gamma
  let amount ← absolute signed
  let instrumentGross ←
    addBucket bounds.instrumentGross position.instrumentId amount
  pure { net, delta, gamma, instrumentGross }

def widenConcentration (base : AggregateRiskMetrics)
    (baseGross : OrderedMap String Decimal) (possible : Decimal)
    (working : String × Decimal) : Result Decimal := do
  let held := baseGross[working.1]?.getD Decimal.zero
  let instrumentGross ← held.checkedAdd working.2
  let scenarioGross ← base.grossExposure.checkedAdd working.2
  let ratio ← ratioBps instrumentGross scenarioGross
  pure (possible.max ratio)

def applyWorkingBounds (metrics base : AggregateRiskMetrics)
    (basePositions workingPositions : List RiskPosition) :
    Result AggregateRiskMetrics := do
  let baseGross ← basePositions.foldlM addBaseGross ∅
  let bounds ← workingPositions.foldlM widenBounds
    { net := ⟨base.netExposure, base.netExposure⟩
      delta := ⟨base.totalDelta, base.totalDelta⟩
      gamma := ⟨base.totalGamma, base.totalGamma⟩, instrumentGross := ∅ }
  let possibleAbsNetExposure ← bounds.net.possibleAbs
  let possibleAbsDelta ← bounds.delta.possibleAbs
  let possibleAbsGamma ← bounds.gamma.possibleAbs
  let possibleConcentrationBps ←
    bounds.instrumentGross.toList.foldlM (widenConcentration base baseGross)
      base.concentrationBps
  pure { metrics with
    possibleAbsNetExposure, possibleAbsDelta, possibleAbsGamma
    possibleConcentrationBps }

/-! ## Evaluation -/

structure PortfolioRiskDecision where
  approved : Bool
  reasonCodes : List String
  policyVersion : String
  metrics : AggregateRiskMetrics

def reasonIf (condition : Prop) [Decidable condition] (code : String) : List String :=
  if condition then [code] else []

def bucketReasons (code : String)
    (actual limits : OrderedMap String Decimal) : List String :=
  (actual.toList.filter fun bucket =>
    match limits[bucket.1]? with
    | some limit => limit < bucket.2
    | none => false).map fun bucket => code ++ ":" ++ bucket.1

def candidateReasons (policy : PortfolioRiskPolicy)
    (snapshot : PortfolioRiskSnapshot) (order : CandidateOrder) : List String :=
  reasonIf (order.row.instrumentId ∈ policy.restrictedInstruments)
      "RESTRICTED_INSTRUMENT" ++
    reasonIf (policy.allowedInstruments.isEmpty = false ∧
        order.row.instrumentId ∉ policy.allowedInstruments)
      "INSTRUMENT_NOT_PERMITTED" ++
    reasonIf (snapshot.restingOrders.any (fun resting =>
        resting.accountId == order.row.accountId &&
          resting.instrumentId == order.row.instrumentId &&
            resting.side != order.side) = true)
      "SELF_TRADE_RISK"

def addCandidate (policy : PortfolioRiskPolicy) (snapshot : PortfolioRiskSnapshot)
    (acc : List RiskPosition × List String) (order : CandidateOrder) :
    Result (List RiskPosition × List String) := do
  order.validate
  let signedQuantity ←
    match order.side with
    | .buy => pure order.row.quantity
    | .sell => negate order.row.quantity
  let _ ← order.signedExposure
  pure (acc.1 ++ [{ order.row with quantity := signedQuantity }],
    acc.2 ++ candidateReasons policy snapshot order)

def limitReasons (policy : PortfolioRiskPolicy)
    (snapshot : PortfolioRiskSnapshot) (metrics : AggregateRiskMetrics)
    (lossLimit : Decimal) (isCandidate : Bool) : List String :=
  let added := if isCandidate then 1 else 0
  let restingIdentities := (snapshot.restingOrders.map (·.orderId)).eraseDups
  reasonIf (policy.globalKillSwitch = true) "GLOBAL_KILL_SWITCH_ACTIVE" ++
    reasonIf (policy.maxGrossExposure < metrics.grossExposure)
      "MAX_GROSS_EXPOSURE_EXCEEDED" ++
    reasonIf (policy.maxAbsNetExposure < metrics.possibleAbsNetExposure)
      "MAX_NET_EXPOSURE_EXCEEDED" ++
    reasonIf (policy.maxLeverageBps < metrics.leverageBps)
      "MAX_LEVERAGE_EXCEEDED" ++
    reasonIf (policy.maxConcentrationBps < metrics.possibleConcentrationBps)
      "MAX_CONCENTRATION_EXCEEDED" ++
    reasonIf (snapshot.dailyPnl < lossLimit) "MAX_DAILY_LOSS_EXCEEDED" ++
    reasonIf (policy.maxDrawdownBps < metrics.drawdownBps)
      "MAX_DRAWDOWN_EXCEEDED" ++
    reasonIf (policy.maxMarginUtilizationBps < metrics.marginUtilizationBps)
      "MAX_MARGIN_UTILIZATION_EXCEEDED" ++
    reasonIf (policy.maxAbsDelta < metrics.possibleAbsDelta)
      "MAX_DELTA_EXCEEDED" ++
    reasonIf (policy.maxAbsGamma < metrics.possibleAbsGamma)
      "MAX_GAMMA_EXCEEDED" ++
    reasonIf (policy.maxOpenOrders < restingIdentities.length + added)
      "MAX_OPEN_ORDERS_EXCEEDED" ++
    reasonIf (policy.maxOrderRate < min (snapshot.recentOrderCount + added) (2 ^ 32 - 1))
      "MAX_ORDER_RATE_EXCEEDED" ++
    bucketReasons "SECTOR_LIMIT_EXCEEDED" metrics.sectorGross
      policy.sectorLimits ++
    bucketReasons "ASSET_CLASS_LIMIT_EXCEEDED" metrics.assetClassGross
      policy.assetClassLimits ++
    bucketReasons "CURRENCY_LIMIT_EXCEEDED" metrics.currencyGross
      policy.currencyLimits ++
    bucketReasons "STRATEGY_LIMIT_EXCEEDED" metrics.strategyGross
      policy.strategyLimits

def sortedReasons (reasons : List String) : List String :=
  (reasons.insertionSort (· ≤ ·)).eraseReps

def evaluatePortfolioRiskWithCandidates (policy : PortfolioRiskPolicy)
    (snapshot : PortfolioRiskSnapshot) (candidates : List CandidateOrder) :
    Result PortfolioRiskDecision := do
  policy.validate
  refuseIf (snapshot.equity ≤ Decimal.zero ∨ snapshot.peakEquity ≤ Decimal.zero ∨
      snapshot.marginUsed < Decimal.zero ∨
      1000000 < snapshot.positions.length + snapshot.workingPositions.length ∨
      1000000 < snapshot.restingOrders.length)
    "invalid portfolio risk snapshot"
  let (basePositions, candidateCodes) ←
    candidates.foldlM (addCandidate policy snapshot) (snapshot.positions, [])
  let base ← aggregateMetrics basePositions snapshot.equity
    snapshot.peakEquity snapshot.marginUsed
  let filled ← aggregateMetrics (basePositions ++ snapshot.workingPositions)
    snapshot.equity snapshot.peakEquity snapshot.marginUsed
  let metrics ← applyWorkingBounds filled base basePositions
    snapshot.workingPositions
  let lossLimit ← negate policy.maxDailyLoss
  let reasons := sortedReasons (candidateCodes ++
    limitReasons policy snapshot metrics lossLimit (!candidates.isEmpty))
  pure
    { approved := reasons.isEmpty
      reasonCodes := if reasons.isEmpty then ["APPROVED"] else reasons
      policyVersion := policy.version
      metrics }

def evaluatePortfolioRisk (policy : PortfolioRiskPolicy)
    (snapshot : PortfolioRiskSnapshot) (candidate : Option CandidateOrder) :
    Result PortfolioRiskDecision :=
  evaluatePortfolioRiskWithCandidates policy snapshot candidate.toList

end Follon.Risk
