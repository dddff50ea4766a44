import Follon.Paper.BrokerEvents

/-!
# The pre-trade risk gate

An evaluation first observes the market: it caches the marks, raises the peak
equity and rebases the daily baseline.  The decision itself only reads.
-/

namespace Follon.Paper

open Foundation Domain ControlPlane Accounting
open Risk

/-! ## Equity -/

/-- The cached mark of a position, its average cost when never quoted. -/
def markOf (marks : OrderedMap String Decimal) (portfolio : Portfolio) : Decimal :=
  marks[portfolio.instrumentId]?.getD portfolio.averageCost

def addEquity (marks : OrderedMap String Decimal) (equity : Decimal)
    (portfolio : Portfolio) : Result Decimal :=
  if portfolio.quantity = Decimal.zero then
    pure equity
  else do
    let value ← portfolio.quantity.checkedMul (markOf marks portfolio)
    equity.checkedAdd value

def Books.currentEquity (books : Books) (marks : OrderedMap String Decimal) :
    Result Decimal :=
  books.portfolios.values.foldlM (addEquity marks) books.cash

def addRealized (total : Decimal) (portfolio : Portfolio) : Result Decimal :=
  total.checkedAdd portfolio.realizedPnl

def Books.realizedPnl (books : Books) : Result Decimal :=
  books.portfolios.values.foldlM addRealized Decimal.zero

/-! ## Observation -/

namespace RunningValues

def cacheMarks (values : RunningValues) (marks : List PaperMarketData) : RunningValues :=
  { values with
    marks := marks.foldl
      (fun cached mark => cached.insert mark.instrumentId mark.markPrice)
      values.marks }

def raisePeak (values : RunningValues) (equity : Decimal) : RunningValues :=
  { values with peakEquity := values.peakEquity.max equity }

def rebaseDaily (values : RunningValues) (decidedAt : String)
    (equity : Decimal) : RunningValues :=
  if values.dailyBaselineDate = some (utcDate decidedAt) then
    values
  else
    { values with
      dailyBaselineDate := some (utcDate decidedAt)
      dailyBaselineEquity := equity }

end RunningValues

namespace ServiceRecord

def equity (record : ServiceRecord) : Result Decimal :=
  record.toBooks.currentEquity record.marks

def cacheMarks (marks : List PaperMarketData) (record : ServiceRecord) : ServiceRecord :=
  { record with
    toRunningValues := record.toRunningValues.cacheMarks marks }

def noteEquity (decidedAt : String) (equity : Decimal)
    (record : ServiceRecord) : ServiceRecord :=
  { record with
    toRunningValues :=
      (record.toRunningValues.raisePeak equity).rebaseDaily decidedAt equity }

end ServiceRecord

namespace PaperTradingService

variable {B : Type} [PaperBrokerAdapter B]

def observe (marks : List PaperMarketData) (decidedAt : String) : PaperM B Decimal := do
  update (edit (ServiceRecord.cacheMarks marks))
  let s ← Fallible.read
  let equity ← lift s.equity
  update (edit (ServiceRecord.noteEquity decidedAt equity))
  pure equity

end PaperTradingService

/-! ## What working orders commit -/

namespace Books

def workingOrders (books : Books) : List PaperOrder :=
  books.orders.values.filter (·.working)

def workingCombos (books : Books) : List PaperComboOrder :=
  books.comboOrders.values.filter (·.working)

def workingOrderCount (books : Books) : Nat :=
  books.workingOrders.length + books.workingCombos.length

def hasUnknownOrder (books : Books) : Bool :=
  books.orders.values.any (·.oms.state == .unknown) ||
    books.comboOrders.values.any fun order =>
      order.oms.state == .unknown || order.evidenceError.isSome

def addReserved (total : Decimal) (reserved : Result Decimal) : Result Decimal := do
  let cash ← reserved
  total.checkedAdd cash

def totalReservedCash (books : Books) : Result Decimal :=
  (books.orders.values.map PaperOrder.reservedCash ++
    books.comboOrders.values.map PaperComboOrder.reservedCash).foldlM
      addReserved Decimal.zero

def addWorking (instrumentId : String) (side : Side) (total : Decimal)
    (order : PaperOrder) : Result Decimal :=
  if order.working = true ∧ order.oms.intent.instrumentId = instrumentId ∧
      order.oms.intent.side = side then do
    let unfilled ← order.oms.intent.quantity.checkedSub order.filledQuantity
    total.checkedAdd unfilled
  else
    pure total

def addWorkingLeg (instrumentId : String) (side : Side) (unfilled : Decimal)
    (total : Decimal) (leg : ComboIntentLeg) : Result Decimal :=
  if leg.instrumentId = instrumentId ∧ leg.side = side then do
    let ratio ← Decimal.fromInteger leg.ratio
    let quantity ← unfilled.checkedMul ratio
    total.checkedAdd quantity
  else
    pure total

def addWorkingCombo (instrumentId : String) (side : Side) (total : Decimal)
    (order : PaperComboOrder) : Result Decimal :=
  if order.working = false then
    pure total
  else do
    let unfilled ←
      order.oms.intent.comboQuantity.checkedSub order.filledQuantity
    order.oms.intent.legs.foldlM (addWorkingLeg instrumentId side unfilled)
      total

def workingQuantity (books : Books) (instrumentId : String) (side : Side) :
    Result Decimal := do
  let plain ← books.orders.values.foldlM (addWorking instrumentId side)
    Decimal.zero
  books.comboOrders.values.foldlM (addWorkingCombo instrumentId side) plain

def workingPositionDelta (books : Books) (instrumentId : String) : Result Decimal := do
  let buying ← books.workingQuantity instrumentId .buy
  let selling ← books.workingQuantity instrumentId .sell
  buying.checkedSub selling

def workingReduction (books : Books) (instrumentId : String)
    (position : Decimal) : Result Decimal :=
  if Decimal.zero < position then
    books.workingQuantity instrumentId .sell
  else if position < Decimal.zero then
    books.workingQuantity instrumentId .buy
  else
    pure Decimal.zero

def reducesOpenPosition (books : Books) (instrumentId : String)
    (current projected : Decimal) : Result Bool := do
  let working ← books.workingReduction instrumentId current
  reducesPositionWithWorking current projected working

def conflictsWithWorkingOrder (books : Books) (instrumentId : String)
    (side : Side) : Bool :=
  (books.workingOrders.any fun order =>
    order.oms.intent.instrumentId == instrumentId && order.oms.intent.side != side) ||
    books.workingCombos.any fun order =>
      order.oms.intent.legs.any fun leg =>
        leg.instrumentId == instrumentId && leg.side != side

end Books

/-! ## Order rate -/

def asI64 (value : Nat) : Int :=
  if value < 2 ^ 63 then value else (value : Int) - 2 ^ 64

def invalidInstant : PaperError := ⟨"timestamp is not an RFC 3339 instant"⟩

def parseInstant (value : String) : Result Int :=
  match parseUtc value with
  | some instant => .ok instant
  | none => .error invalidInstant

def unixSeconds (instant : Int) : Int := instant / 1000000000 - 62167219200

def withinWindow (windowStart decisionTime : Int) (decidedAt : String) : Result Bool := do
  let parsed ← parseInstant decidedAt
  pure (windowStart < parsed ∧ parsed ≤ decisionTime)

def countRecent (windowStart decisionTime : Int) (count : Nat)
    (decidedAt : Result String) : Result Nat := do
  let stamp ← decidedAt
  let recent ← withinWindow windowStart decisionTime stamp
  pure (if recent then count + 1 else count)

/-- Whether an observation made at `observedAt` is too old for a decision at
`decidedAt`, or later than it. -/
def isStale (maxAgeSeconds : Nat) (observedAt decidedAt : String) : Result Bool := do
  let observed ← parseInstant observedAt
  let decision ← parseInstant decidedAt
  let age := (decision - observed).tdiv 1000000000
  pure (age < 0 ∨ maxAgeSeconds < age)

namespace ServiceRecord

def orderDecidedAt (s : ServiceRecord) (order : PaperOrder) : Result String :=
  match s.riskEvidence[riskDecisionId order.oms.intent.intentId]? with
  | some evidence => .ok evidence.decision.decidedAt
  | none =>
    .error ⟨"paper order is missing its originating risk evidence"⟩

def comboDecidedAt (s : ServiceRecord) (order : PaperComboOrder) : Result String :=
  match s.comboRiskEvidence[comboRiskDecisionId order.oms.intent.intentId]? with
  | some evidence => .ok evidence.decision.decidedAt
  | none =>
    .error
      ⟨"paper combination order is missing its originating risk evidence"⟩

def recentOrderCount (s : ServiceRecord) (decidedAt : String) : Result Nat := do
  let decisionTime ← parseInstant decidedAt
  let windowStart := decisionTime -
    asI64 s.riskPolicy.orderRateWindowSeconds * 1000000000
  (s.orders.values.map s.orderDecidedAt ++
    s.comboOrders.values.map s.comboDecidedAt).foldlM
      (countRecent windowStart decisionTime) 0

def unexplainedIncidentCount (s : ServiceRecord) : Nat :=
  (s.incidents.values.filter (·.unexplained)).length

/-! ## Aggregate risk -/

def exposureRow (s : ServiceRecord) (composition : PortfolioRiskComposition)
    (accountId strategyId instrumentId : String)
    (quantity markPrice : Decimal) : Result RiskPosition := do
  let bucket := composition.instrumentBuckets[instrumentId]?
  let multiplier ← Decimal.fromInteger 1
  pure
    { accountId, strategyId, instrumentId
      assetClass := (bucket.map (·.assetClass)).getD "unclassified"
      sector := (bucket.map (·.sector)).getD "unclassified"
      currency := (bucket.map (·.currency)).getD s.account.currency
      quantity, markPrice, multiplier
      delta := Decimal.zero
      gamma := Decimal.zero }

def attributeRow (s : ServiceRecord)
    (composition : PortfolioRiskComposition) (portfolio : Portfolio)
    (acc : Decimal × List RiskPosition) (entry : String × Decimal) :
    Result (Decimal × List RiskPosition) :=
  if entry.2 = Decimal.zero then
    pure acc
  else do
    let total ← acc.1.checkedAdd entry.2
    let row ← s.exposureRow composition portfolio.accountId entry.1
      portfolio.instrumentId entry.2 (markOf s.marks portfolio)
    pure (total, acc.2 ++ [row])

def positionRows (s : ServiceRecord)
    (composition : PortfolioRiskComposition) (rows : List RiskPosition)
    (portfolio : Portfolio) : Result (List RiskPosition) :=
  if portfolio.quantity = Decimal.zero then
    pure rows
  else do
    let strategies := s.strategyAttribution[portfolio.instrumentId]?.getD ∅
    let (attributed, rows) ← strategies.toList.foldlM
      (s.attributeRow composition portfolio) (Decimal.zero, rows)
    let remainder ← portfolio.quantity.checkedSub attributed
    if remainder = Decimal.zero then
      pure rows
    else do
      let row ← s.exposureRow composition portfolio.accountId "unattributed"
        portfolio.instrumentId remainder (markOf s.marks portfolio)
      pure (rows ++ [row])

def signedFor (side : Side) (quantity : Decimal) : Result Decimal :=
  match side with
  | .buy => pure quantity
  | .sell => Decimal.zero.checkedSub quantity

def workingRow (s : ServiceRecord) (composition : PortfolioRiskComposition)
    (accountId strategyId instrumentId : String) (side : Side)
    (quantity markPrice : Decimal) : Result RiskPosition := do
  let row ← s.exposureRow composition accountId strategyId instrumentId
    quantity markPrice
  let signed ← signedFor side quantity
  pure { row with quantity := signed }

def workingOrderRows (s : ServiceRecord)
    (composition : PortfolioRiskComposition) (rows : List RiskPosition)
    (order : PaperOrder) : Result (List RiskPosition) := do
  let intent := order.oms.intent
  let remaining ← intent.quantity.checkedSub order.filledQuantity
  if Decimal.zero < remaining then do
    let mark := s.marks[intent.instrumentId]?.getD order.market.markPrice
    let row ← s.workingRow composition intent.accountId intent.strategyId
      intent.instrumentId intent.side remaining mark
    pure (rows ++ [row])
  else
    pure rows

def workingLegRow (s : ServiceRecord)
    (composition : PortfolioRiskComposition) (order : PaperComboOrder)
    (unfilled : Decimal) (rows : List RiskPosition) (leg : ComboIntentLeg) :
    Result (List RiskPosition) :=
  match s.marks[leg.instrumentId]?.or
      ((order.market.markFor leg.instrumentId).map (·.markPrice)) with
  | none => .error ⟨"working combo leg has no market mark"⟩
  | some mark => do
    let ratio ← Decimal.fromInteger leg.ratio
    let quantity ← unfilled.checkedMul ratio
    let intent := order.oms.intent
    let row ← s.workingRow composition intent.accountId intent.strategyId
      leg.instrumentId leg.side quantity mark
    pure (rows ++ [row])

def workingComboRows (s : ServiceRecord)
    (composition : PortfolioRiskComposition) (rows : List RiskPosition)
    (order : PaperComboOrder) : Result (List RiskPosition) := do
  let unfilled ←
    order.oms.intent.comboQuantity.checkedSub order.filledQuantity
  if unfilled = Decimal.zero then
    pure rows
  else
    order.oms.intent.legs.foldlM (s.workingLegRow composition order unfilled)
      rows

def restingOrder (order : PaperOrder) : RestingOrder :=
  ⟨order.oms.orderId, order.oms.intent.accountId,
    order.oms.intent.instrumentId, order.oms.intent.side⟩

def restingLegs (order : PaperComboOrder) : List RestingOrder :=
  order.oms.intent.legs.map fun leg =>
    ⟨order.oms.orderId, order.oms.intent.accountId, leg.instrumentId, leg.side⟩

def marginPosition (s : ServiceRecord)
    (composition : PortfolioRiskComposition) (portfolio : Portfolio) :
    Result MarginPosition := do
  let bucket := composition.instrumentBuckets[portfolio.instrumentId]?
  let currency ←
    Currency.new ((bucket.map (·.currency)).getD s.account.currency)
  let multiplier ← Decimal.fromInteger 1
  pure
    { instrumentId := portfolio.instrumentId
      assetClass := (bucket.map (·.assetClass)).getD "unclassified"
      currency
      quantity := portfolio.quantity
      markPrice := markOf s.marks portfolio
      multiplier }

def marginUsed (s : ServiceRecord)
    (composition : PortfolioRiskComposition) (decidedAt : String) : Result Decimal :=
  match composition.marginRates with
  | none => pure Decimal.zero
  | some rates => do
    let positions ← collect (s.marginPosition composition)
      (s.portfolios.values.filter (·.quantity ≠ Decimal.zero))
    let currency ← Currency.new s.account.currency
    let instant ← parseInstant decidedAt
    let cash : OrderedMap Currency Decimal := ∅
    let margin ← valueMarginAccount (cash.insert currency s.cash) positions
      ∅ ⟨currency, i64Max, rates⟩ (unixSeconds instant)
    pure margin.initialMargin

def portfolioRiskState (s : ServiceRecord)
    (composition : PortfolioRiskComposition) (decidedAt : String) :
    Result (Option (PortfolioRiskSnapshot × Decimal)) := do
  let equity ← s.equity
  if equity ≤ Decimal.zero then
    pure none
  else do
    let positions ←
      s.portfolios.values.foldlM (s.positionRows composition) []
    let plain ← s.workingOrders.foldlM (s.workingOrderRows composition) []
    let workingPositions ←
      s.workingCombos.foldlM (s.workingComboRows composition) plain
    let marginUsed ← s.marginUsed composition decidedAt
    let dailyPnl ← equity.checkedSub s.dailyBaselineEquity
    pure (some (
      { equity
        peakEquity := s.peakEquity.max equity
        dailyPnl
        marginUsed
        positions
        workingPositions
        restingOrders := s.workingOrders.map restingOrder ++
          s.workingCombos.flatMap restingLegs
        recentOrderCount := 0 }, marginUsed))

def riskCandidate (s : ServiceRecord) (composition : PortfolioRiskComposition)
    (intentId accountId strategyId instrumentId : String) (side : Side)
    (quantity markPrice : Decimal) : Result CandidateOrder := do
  let row ← s.exposureRow composition accountId strategyId instrumentId
    quantity markPrice
  pure ⟨intentId, side, row⟩

def evaluateCandidates (composition : PortfolioRiskComposition)
    (candidates : Result (List CandidateOrder)) :
    Option (PortfolioRiskSnapshot × Decimal) →
    Result (Option (PortfolioRiskDecision × Decimal))
  | none => pure none
  | some (snapshot, marginUsed) => do
    let candidates ← candidates
    let decision ← evaluatePortfolioRiskWithCandidates composition.policy
      snapshot candidates
    pure (some (decision, marginUsed))

def portfolioRiskDecision (s : ServiceRecord)
    (composition : PortfolioRiskComposition) (intent : OrderIntent)
    (market : PaperMarketData) (decidedAt : String) :
    Result (Option (PortfolioRiskDecision × Decimal)) := do
  let state ← s.portfolioRiskState composition decidedAt
  evaluateCandidates composition
    (collect (fun intent : OrderIntent =>
      s.riskCandidate composition intent.intentId intent.accountId
        intent.strategyId intent.instrumentId intent.side intent.quantity
        market.markPrice) [intent]) state

def legCandidate (s : ServiceRecord)
    (composition : PortfolioRiskComposition) (intent : ComboIntent)
    (market : PaperComboMarketData) (leg : ComboIntentLeg) : Result CandidateOrder :=
  match market.markFor leg.instrumentId with
  | none => .error (PaperComboMarketData.missingMark leg.instrumentId)
  | some mark => do
    let quantity ← intent.legQuantity leg
    s.riskCandidate composition intent.intentId intent.accountId
      intent.strategyId leg.instrumentId leg.side quantity mark.markPrice

def comboPortfolioRiskDecision (s : ServiceRecord)
    (composition : PortfolioRiskComposition) (intent : ComboIntent)
    (market : PaperComboMarketData) (decidedAt : String) :
    Result (Option (PortfolioRiskDecision × Decimal)) := do
  let state ← s.portfolioRiskState composition decidedAt
  evaluateCandidates composition
    (collect (s.legCandidate composition intent market) intent.legs) state

/-! ## Shared parts of a decision -/

/-- `name=value`, comma separated: the evidence of an evaluation. -/
def renderEvidence (entries : List (String × String)) : String :=
  joinWith "," (entries.map fun entry => entry.1 ++ "=" ++ entry.2)

def renderBucketMap (buckets : OrderedMap String Decimal) : String :=
  joinWith "|" (buckets.toList.map fun entry =>
    entry.1 ++ ":" ++ entry.2.display)

def exposureEvidence (s : ServiceRecord)
    (decision : PortfolioRiskDecision) (marginUsed dailyPnl : Decimal) :
    List (String × String) :=
  [("portfolio_exposure_basis", "filled_working_candidate_v2"),
    ("portfolio_risk_policy_version", decision.policyVersion),
    ("portfolio_gross_exposure", decision.metrics.grossExposure.display),
    ("portfolio_net_exposure", decision.metrics.netExposure.display),
    ("portfolio_leverage_bps", decision.metrics.leverageBps.display),
    ("portfolio_concentration_bps", decision.metrics.concentrationBps.display),
    ("portfolio_peak_equity", s.peakEquity.display),
    ("portfolio_drawdown_bps", decision.metrics.drawdownBps.display),
    ("portfolio_daily_baseline_equity", s.dailyBaselineEquity.display),
    ("portfolio_daily_pnl", dailyPnl.display),
    ("portfolio_margin_used", marginUsed.display),
    ("portfolio_margin_utilization_bps", decision.metrics.marginUtilizationBps.display)]

def bucketEvidence (metrics : AggregateRiskMetrics) : List (String × String) :=
  [("portfolio_sector_gross", renderBucketMap metrics.sectorGross),
    ("portfolio_asset_class_gross", renderBucketMap metrics.assetClassGross),
    ("portfolio_currency_gross", renderBucketMap metrics.currencyGross),
    ("portfolio_strategy_gross", renderBucketMap metrics.strategyGross)]

def possibleEvidence (metrics : AggregateRiskMetrics) : List (String × String) :=
  [("portfolio_possible_abs_net_exposure", metrics.possibleAbsNetExposure.display),
    ("portfolio_possible_concentration_bps", metrics.possibleConcentrationBps.display),
    ("portfolio_possible_abs_delta", metrics.possibleAbsDelta.display),
    ("portfolio_possible_abs_gamma", metrics.possibleAbsGamma.display)]

/-- The reasons and the evidence of the aggregate kernel.  Without positive
equity only a trade that reduces its position may pass. -/
def aggregateOutcome (s : ServiceRecord)
    (buckets : AggregateRiskMetrics → List (String × String))
    (observedEquity : Decimal) (reduces : Result Bool) :
    Option (PortfolioRiskDecision × Decimal) →
    Result (List String × List (String × String))
  | some (decision, marginUsed) => do
    let dailyPnl ← observedEquity.checkedSub s.dailyBaselineEquity
    pure
      (decision.reasonCodes.filter fun reason =>
          reason ≠ "APPROVED" ∧ reason ≠ "SELF_TRADE_RISK",
        s.exposureEvidence decision marginUsed dailyPnl ++
          buckets decision.metrics ++ possibleEvidence decision.metrics)
  | none => do
    let reduces ← reduces
    pure (reasonIf (reduces = false) "PORTFOLIO_EQUITY_NOT_POSITIVE", [])

def realizedLoss (realizedPnl : Decimal) : Result Decimal :=
  if realizedPnl < Decimal.zero then
    Decimal.zero.checkedSub realizedPnl
  else
    pure Decimal.zero

def decisionOf (s : ServiceRecord) (decisionId intentId correlationId decidedAt : String)
    (reasons : List String) (evidence : List (String × String)) : RiskDecision where
  decisionId := decisionId
  intentId := intentId
  approved := reasons.isEmpty
  reasonCodes := if reasons.isEmpty then ["APPROVED"] else reasons
  policyVersion := s.riskPolicy.version
  decidedAt := decidedAt
  correlationId := correlationId
  actor := "paper_risk_engine"
  evaluatedLimits := renderEvidence evidence

def limitEvidence (policy : PaperRiskPolicy) : List (String × String) :=
  [("max_order_quantity", policy.maxOrderQuantity.display),
    ("max_order_notional", policy.maxOrderNotional.display),
    ("max_price_deviation_bps", policy.maxPriceDeviationBps.display),
    ("max_open_orders", toString policy.maxOpenOrders),
    ("max_position_quantity", policy.maxPositionQuantity.display),
    ("max_realized_loss", policy.maxRealizedLoss.display),
    ("max_market_data_age_seconds", toString policy.maxMarketDataAgeSeconds),
    ("max_order_rate", toString policy.maxOrderRate),
    ("order_rate_window_seconds", toString policy.orderRateWindowSeconds)]

/-! ## Plain orders -/

def requestedDeviation (market : PaperMarketData) : Option Decimal → Result Decimal
  | some price => priceDeviationBps market.markPrice price
  | none => pure Decimal.zero

def tableEntry (table : OrderedMap String Decimal) (instrumentId : String) : String :=
  match table[instrumentId]? with
  | some value => value.display
  | none => "UNCONFIGURED"

def projectedPosition (s : ServiceRecord) (intent : OrderIntent) : Result Decimal :=
  match intent.side with
  | .buy => (s.heldQuantity intent.instrumentId).checkedAdd intent.quantity
  | .sell => (s.heldQuantity intent.instrumentId).checkedSub intent.quantity

def aggregateRisk (s : ServiceRecord) (intent : OrderIntent)
    (market : PaperMarketData) (decidedAt : String) (observedEquity projected : Decimal) :
    Result (List String × List (String × String)) :=
  match s.riskPolicy.portfolioRisk with
  | none => pure ([], [])
  | some composition => do
    let outcome ←
      s.portfolioRiskDecision composition intent market decidedAt
    s.aggregateOutcome bucketEvidence observedEquity
      (s.reducesOpenPosition intent.instrumentId
        (s.heldQuantity intent.instrumentId) projected) outcome

structure OrderAssessment where
  (estimatedNotional deviation projectedPosition workingDelta : Decimal)
  (committedPosition availableCash : Decimal)
  recentOrderCount : Nat
  breaches : Bool
  loss : Decimal
  aggregateReasons : List String
  aggregateEvidence : List (String × String)

def assessOrder (s : ServiceRecord) (intent : OrderIntent)
    (market : PaperMarketData) (decidedAt : String)
    (observedEquity : Decimal) : Result OrderAssessment := do
  let realizedPnl ← s.toBooks.realizedPnl
  let reservedCash ← s.totalReservedCash
  let availableCash ← s.cash.checkedSub reservedCash
  let estimatedNotional ← intent.quantity.checkedMul market.markPrice
  let deviation ← requestedDeviation market intent.limitPrice
  let projectedPosition ← s.projectedPosition intent
  let workingDelta ← s.workingPositionDelta intent.instrumentId
  let committedPosition ← projectedPosition.checkedAdd workingDelta
  let recentOrderCount ← s.recentOrderCount decidedAt
  let breaches ← s.riskPolicy.breachesPositionLimit committedPosition
  let loss ← realizedLoss realizedPnl
  let aggregate ← s.aggregateRisk intent market decidedAt observedEquity
    projectedPosition
  pure
    { estimatedNotional, deviation, projectedPosition, workingDelta
      committedPosition, availableCash, recentOrderCount, breaches, loss
      aggregateReasons := aggregate.1
      aggregateEvidence := aggregate.2 }

def orderReasons (s : ServiceRecord) (intent : OrderIntent)
    (assessed : OrderAssessment) : List String :=
  let policy := s.riskPolicy
  s.killSwitches.rejectionReasons intent ++
    reasonIf (policy.maxOrderQuantity < intent.quantity)
      "MAX_ORDER_QUANTITY_EXCEEDED" ++
    reasonIf (policy.maxOrderNotional < assessed.estimatedNotional)
      "MAX_ORDER_NOTIONAL_EXCEEDED" ++
    reasonIf (policy.maxPriceDeviationBps < assessed.deviation)
      "PRICE_COLLAR_EXCEEDED" ++
    (policy.tickRejection intent.instrumentId intent.limitPrice).toList ++
    (policy.lotRejection intent.instrumentId intent.quantity).toList ++
    reasonIf (s.conflictsWithWorkingOrder intent.instrumentId intent.side
      = true) "SELF_TRADE_RISK" ++
    reasonIf (policy.maxOrderRate ≤ assessed.recentOrderCount)
      "MAX_ORDER_RATE_EXCEEDED" ++
    reasonIf (s.hasUnknownOrder = true)
      "UNKNOWN_ORDER_REQUIRES_RECONCILIATION" ++
    reasonIf (0 < s.unexplainedIncidentCount)
      "UNEXPLAINED_INCIDENTS_REQUIRE_REVIEW" ++
    reasonIf (policy.maxOpenOrders ≤ s.workingOrderCount)
      "MAX_OPEN_ORDERS_EXCEEDED" ++
    reasonIf (assessed.breaches = true)
      "POSITION_LIMIT_OR_SHORT_SELL_EXCEEDED" ++
    reasonIf (intent.side = .buy ∧ assessed.availableCash < assessed.estimatedNotional)
      "INSUFFICIENT_INTERNAL_CASH" ++
    reasonIf (policy.maxRealizedLoss < assessed.loss)
      "MAX_REALIZED_LOSS_EXCEEDED" ++
    assessed.aggregateReasons

def orderEvidence (s : ServiceRecord) (intent : OrderIntent)
    (market : PaperMarketData) (assessed : OrderAssessment) : List (String × String) :=
  limitEvidence s.riskPolicy ++
    [("recent_order_count", toString assessed.recentOrderCount),
      ("market_instrument_id", market.instrumentId),
      ("market_mark_price", market.markPrice.display),
      ("market_observed_at", market.observedAt),
      ("requested_price", (intent.limitPrice.map Decimal.display).getD "MARKET"),
      ("requested_price_deviation_bps", assessed.deviation.display),
      ("estimated_notional", assessed.estimatedNotional.display),
      ("projected_position", assessed.projectedPosition.display),
      ("working_position_delta", assessed.workingDelta.display),
      ("committed_position", assessed.committedPosition.display),
      ("available_cash", assessed.availableCash.display),
      ("instrument_tick_size",
        tableEntry s.riskPolicy.instrumentTickSizes intent.instrumentId),
      ("instrument_lot_size",
        tableEntry s.riskPolicy.instrumentLotSizes intent.instrumentId)] ++
    assessed.aggregateEvidence

def riskDecision (s : ServiceRecord) (intent : OrderIntent)
    (market : PaperMarketData) (decidedAt : String)
    (observedEquity : Decimal) : Result RiskDecision := do
  let assessed ← s.assessOrder intent market decidedAt observedEquity
  pure (s.decisionOf (riskDecisionId intent.intentId) intent.intentId
    intent.correlationId decidedAt (s.orderReasons intent assessed)
    (s.orderEvidence intent market assessed))

/-! ## Combinations -/

structure LegAssessment where
  reasons : List String
  (largestLegQuantity widestLegDeviationBps : Decimal)
  everyLegReduces : Bool
  legEvidence : List String

def assessLeg (s : ServiceRecord) (intent : ComboIntent)
    (market : PaperComboMarketData) (acc : LegAssessment)
    (leg : ComboIntentLeg) : Result LegAssessment :=
  match market.markFor leg.instrumentId with
  | none => .error (PaperComboMarketData.missingMark leg.instrumentId)
  | some mark => do
    let legQuantity ← intent.legQuantity leg
    let deviation ← priceDeviationBps mark.markPrice leg.limitPrice
    let held := s.heldQuantity leg.instrumentId
    let delta ← intent.projectedLegDelta leg
    let projected ← held.checkedAdd delta
    let workingDelta ← s.workingPositionDelta leg.instrumentId
    let committed ← projected.checkedAdd workingDelta
    let reduces ← s.reducesOpenPosition leg.instrumentId held projected
    let breaches ← s.riskPolicy.breachesPositionLimit committed
    pure
      { reasons := acc.reasons ++
          (s.riskPolicy.lotRejection leg.instrumentId legQuantity).toList ++
          reasonIf (breaches = true)
            "POSITION_LIMIT_OR_SHORT_SELL_EXCEEDED" ++
          reasonIf (s.conflictsWithWorkingOrder leg.instrumentId leg.side
            = true) "SELF_TRADE_RISK"
        largestLegQuantity := acc.largestLegQuantity.max legQuantity
        widestLegDeviationBps := acc.widestLegDeviationBps.max deviation
        everyLegReduces := acc.everyLegReduces && reduces
        legEvidence := acc.legEvidence ++ [joinWith ":" [leg.instrumentId, leg.side.asStr,
            legQuantity.display, leg.limitPrice.display,
            mark.markPrice.display, deviation.display,
            workingDelta.display, committed.display]] }

def netDebit (netPrice comboQuantity : Decimal) : Result Decimal :=
  if Decimal.zero < netPrice then
    netPrice.checkedMul comboQuantity
  else
    pure Decimal.zero

def comboAggregateRisk (s : ServiceRecord) (intent : ComboIntent)
    (market : PaperComboMarketData) (decidedAt : String)
    (observedEquity : Decimal) (everyLegReduces : Bool) :
    Result (List String × List (String × String)) :=
  match s.riskPolicy.portfolioRisk with
  | none => pure ([], [])
  | some composition => do
    let outcome ←
      s.comboPortfolioRiskDecision composition intent market decidedAt
    s.aggregateOutcome (fun _ => []) observedEquity (.ok everyLegReduces)
      outcome

structure ComboAssessment where
  availableCash : Decimal
  recentOrderCount : Nat
  (grossNotional netPrice debit : Decimal)
  legs : LegAssessment
  loss : Decimal
  aggregateReasons : List String
  aggregateEvidence : List (String × String)
  oldestObservedAt : String

def assessCombo (s : ServiceRecord) (intent : ComboIntent)
    (market : PaperComboMarketData) (decidedAt : String)
    (observedEquity : Decimal) : Result ComboAssessment := do
  let reservedCash ← s.totalReservedCash
  let availableCash ← s.cash.checkedSub reservedCash
  let realizedPnl ← s.toBooks.realizedPnl
  let recentOrderCount ← s.recentOrderCount decidedAt
  let grossNotional ← intent.grossNotional
  let netPrice ← intent.protectedNetPrice
  let debit ← netDebit netPrice intent.comboQuantity
  let legs ← intent.legs.foldlM (s.assessLeg intent market)
    { reasons := s.killSwitches.comboRejectionReasons intent ++
        s.riskPolicy.comboTickRejections intent
      largestLegQuantity := Decimal.zero
      widestLegDeviationBps := Decimal.zero
      everyLegReduces := true
      legEvidence := [] }
  let loss ← realizedLoss realizedPnl
  let aggregate ← s.comboAggregateRisk intent market decidedAt observedEquity
    legs.everyLegReduces
  let oldestObservedAt ← market.oldestObservedAt
  pure
    { availableCash, recentOrderCount, grossNotional, netPrice, debit, legs
      loss
      aggregateReasons := aggregate.1
      aggregateEvidence := aggregate.2
      oldestObservedAt }

def comboReasons (s : ServiceRecord) (assessed : ComboAssessment) : List String :=
  let policy := s.riskPolicy
  sortedReasons
    (assessed.legs.reasons ++
      reasonIf (policy.maxOrderQuantity < assessed.legs.largestLegQuantity)
        "MAX_ORDER_QUANTITY_EXCEEDED" ++
      reasonIf (policy.maxOrderNotional < assessed.grossNotional)
        "MAX_ORDER_NOTIONAL_EXCEEDED" ++
      reasonIf (policy.maxPriceDeviationBps < assessed.legs.widestLegDeviationBps)
        "PRICE_COLLAR_EXCEEDED" ++
      reasonIf (policy.maxOrderRate ≤ assessed.recentOrderCount)
        "MAX_ORDER_RATE_EXCEEDED" ++
      reasonIf (s.hasUnknownOrder = true)
        "UNKNOWN_ORDER_REQUIRES_RECONCILIATION" ++
      reasonIf (0 < s.unexplainedIncidentCount)
        "UNEXPLAINED_INCIDENTS_REQUIRE_REVIEW" ++
      reasonIf (policy.maxOpenOrders ≤ s.workingOrderCount)
        "MAX_OPEN_ORDERS_EXCEEDED" ++
      reasonIf (assessed.availableCash < assessed.debit)
        "INSUFFICIENT_INTERNAL_CASH" ++
      reasonIf (policy.maxRealizedLoss < assessed.loss)
        "MAX_REALIZED_LOSS_EXCEEDED" ++
      assessed.aggregateReasons)

def comboEvidence (s : ServiceRecord) (intent : ComboIntent)
    (assessed : ComboAssessment) : List (String × String) :=
  [("combo_legs", toString intent.legs.length),
    ("combo_quantity", intent.comboQuantity.display),
    ("combo_price_limit_kind", intent.priceLimit.kind),
    ("combo_price_limit_amount", intent.priceLimit.amount.display),
    ("combo_protected_net_price", assessed.netPrice.display),
    ("combo_net_debit", assessed.debit.display),
    ("combo_gross_notional", assessed.grossNotional.display),
    ("largest_leg_quantity", assessed.legs.largestLegQuantity.display),
    ("widest_leg_deviation_bps", assessed.legs.widestLegDeviationBps.display)] ++
    limitEvidence s.riskPolicy ++
    [("recent_order_count", toString assessed.recentOrderCount),
      ("available_cash", assessed.availableCash.display),
      ("oldest_observed_at", assessed.oldestObservedAt),
      ("legs", "[" ++ joinWith "|" assessed.legs.legEvidence ++ "]"),
      ("combo_tick_sizes", "[" ++ s.riskPolicy.comboTickEvidence intent ++ "]"),
      ("combo_lot_sizes", "[" ++ s.riskPolicy.comboLotEvidence intent ++ "]")] ++
    assessed.aggregateEvidence

def comboRiskDecision (s : ServiceRecord) (intent : ComboIntent)
    (market : PaperComboMarketData) (decidedAt : String)
    (observedEquity : Decimal) : Result RiskDecision := do
  let assessed ← s.assessCombo intent market decidedAt observedEquity
  pure (s.decisionOf (comboRiskDecisionId intent.intentId) intent.intentId
    intent.correlationId decidedAt (s.comboReasons assessed)
    (s.comboEvidence intent assessed))

def checkComboObservation (s : ServiceRecord) (intent : ComboIntent)
    (market : PaperComboMarketData) (decidedAt : String) : Result Unit := do
  intent.validate
  validateUtcTimestamp "paper combo risk decision time" decidedAt
  refuseIf (BrokerComboExecution.isWhole intent.comboQuantity = false)
    "PAPER combinations require whole combination units"
  market.validateFor intent
  refuseIf (intent.accountId ≠ s.account.accountId)
    "paper combo intent account does not match service"
  let oldest ← market.oldestObservedAt
  let stale ← isStale s.riskPolicy.maxMarketDataAgeSeconds oldest decidedAt
  refuseIf (stale = true)
    "paper combo observation is stale or later than the risk decision"

end ServiceRecord

/-! ## Evaluation -/

namespace PaperTradingService

variable {B : Type} [PaperBrokerAdapter B]

def evaluateRisk (intent : OrderIntent) (market : PaperMarketData)
    (decidedAt : String) : PaperM B RiskDecision := do
  let observedEquity ←
    observe [⟨intent.instrumentId, market.markPrice, market.observedAt⟩]
      decidedAt
  let s ← Fallible.read
  lift (s.riskDecision intent market decidedAt observedEquity)

def evaluateComboRisk (intent : ComboIntent) (market : PaperComboMarketData)
    (decidedAt : String) : PaperM B RiskDecision := do
  let s ← Fallible.read
  lift (s.checkComboObservation intent market decidedAt)
  let observedEquity ← observe market.marks decidedAt
  let s ← Fallible.read
  lift (s.comboRiskDecision intent market decidedAt observedEquity)

end PaperTradingService

end Follon.Paper
