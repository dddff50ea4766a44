import Follon.Paper.Order

/-!
# Durable records

The shape of one journal snapshot and the conversions between it and the
domain types.  Every decimal and every enumeration is written as text and
read back through its own checked parser.
-/

namespace Follon.Paper

open Foundation Domain ControlPlane Accounting

/-! ## Shapes -/

structure PersistentIntent where
  (intentId accountId strategyId instrumentId correlationId side : String)
  (quantity orderType : String)
  limitPrice : Option String
  (timeInForce rationale createdAt strategyVersion : String)
  (configurationVersion environment : String)

structure PersistentMarketData where
  (instrumentId markPrice observedAt : String)

structure PersistentOrder where
  intent : PersistentIntent
  state : String
  brokerOrderId : Option String
  brokerOrderVersions : List String
  replaceReturnState : Option String
  filledQuantity : String
  market : PersistentMarketData

structure PersistentDecision where
  approved : Bool
  reasonCodes : List String
  (policyVersion decidedAt correlationId actor evaluatedLimits : String)

structure PersistentRiskEvidence where
  intent : PersistentIntent
  decision : PersistentDecision
  market : PersistentMarketData
  submittedBy : Option String

structure PersistentComboLeg where
  (instrumentId side : String)
  ratio : Nat
  limitPrice : String

structure PersistentComboIntent where
  (intentId accountId strategyId correlationId : String)
  legs : List PersistentComboLeg
  (comboQuantity priceLimitKind priceLimitAmount timeInForce rationale : String)
  (createdAt strategyVersion configurationVersion environment : String)

structure PersistentComboExecutionLeg where
  (executionId instrumentId side quantity price fee executedAt : String)

structure PersistentComboExecution where
  (executionId clientOrderId brokerOrderId units : String)
  legs : List PersistentComboExecutionLeg

structure PersistentComboExecutionState where
  schemaVersion : Nat
  filledQuantity : String
  executions : List PersistentComboExecution
  evidenceError : Option String

structure PersistentComboOrder where
  intent : PersistentComboIntent
  state : String
  brokerOrderId : Option String
  brokerOrderVersions : List String
  market : List PersistentMarketData
  executionState : Option PersistentComboExecutionState

structure PersistentComboRiskEvidence where
  intent : PersistentComboIntent
  decision : PersistentDecision
  market : List PersistentMarketData
  submittedBy : Option String

structure PersistentPosition where
  (quantity averageCost realizedPnl : String)

structure PersistentIncident where
  (category subject detail : String)
  explanation : Option String

structure PersistentPaperDay where
  (calendarId sessionOpensAt sessionClosesAt : String)
  clean : Bool
  deriving DecidableEq

structure PersistentReconciliationReport where
  (reconciliationId reconciledAt : String)
  issues : List ReconciliationIssue

structure PersistentTaxLot where
  (lotId openedAt remainingQuantity unitCost : String)

structure PersistentLotSide where
  lots : OrderedMap String (List PersistentTaxLot)
  (appliedLotIds appliedCloseIds : List String)

structure PersistentTaxLotBook where
  (long short : PersistentLotSide)
  realizedByCurrency : OrderedMap String String

structure PersistentOperation where
  (subject action operator operatedAt : String)

structure PersistentCorporateAction where
  (actionId actionType instrumentId effectiveAt value appliedBy : String)
  (appliedAt quantityBefore quantityAfter cashDelta : String)

structure PersistentPaperState where
  (configurationFingerprint accountId currency cash : String)
  orders : OrderedMap String PersistentOrder
  riskEvidence : OrderedMap String PersistentRiskEvidence
  positions : OrderedMap String PersistentPosition
  (executionIds activeKillSwitches : List String)
  incidents : OrderedMap String PersistentIncident
  lastReconciledAt : Option String
  lastReconciliationClean : Option Bool
  paperDays : OrderedMap String PersistentPaperDay
  nextReconciliation : Nat
  brokerConnected : Bool
  latestReconciliation : Option PersistentReconciliationReport
  taxLots : PersistentTaxLotBook
  marks : OrderedMap String String
  (peakEquity dailyBaselineDate dailyBaselineEquity : Option String)
  strategyAttribution : OrderedMap String (OrderedMap String String)
  comboOrders : OrderedMap String PersistentComboOrder
  comboRiskEvidence : OrderedMap String PersistentComboRiskEvidence
  (killSwitchOperations orderOperations : List PersistentOperation)
  corporateActions : List PersistentCorporateAction

/-! ## Enumerations as text -/

def parseSide (message value : String) : Result Side :=
  if value = "BUY" then .ok .buy
  else if value = "SELL" then .ok .sell
  else .error ⟨message⟩

def parseOrderType (value : String) : Result Domain.OrderType :=
  if value = "MARKET" then .ok .market
  else if value = "LIMIT" then .ok .limit
  else .error ⟨"persisted intent order type is invalid"⟩

def parseTimeInForce (message value : String) : Result TimeInForce :=
  if value = "DAY" then .ok .day
  else if value = "GTC" then .ok .goodTilCancelled
  else .error ⟨message⟩

def allOrderStates : List OrderState :=
  [.created, .pendingRisk, .riskRejected, .approved, .pendingSubmit,
    .submitted, .acknowledged, .partiallyFilled, .filled, .pendingCancel,
    .pendingReplace, .cancelled, .rejected, .expired, .unknown]

def parseOrderState (value : String) : Result OrderState :=
  match allOrderStates.find? fun state => state.asStr == value with
  | some state => .ok state
  | none => .error ⟨"persisted OMS state is invalid"⟩

theorem parseSide_asStr (message : String) (side : Side) :
    parseSide message side.asStr = .ok side := by
  cases side <;> rfl

theorem parseOrderType_asStr (orderType : Domain.OrderType) :
    parseOrderType orderType.asStr = .ok orderType := by
  cases orderType <;> rfl

theorem parseTimeInForce_asStr (message : String) (tif : TimeInForce) :
    parseTimeInForce message tif.asStr = .ok tif := by
  cases tif <;> rfl

theorem parseOrderState_asStr (state : OrderState) :
    parseOrderState state.asStr = .ok state := by
  cases state <;> rfl

/-! ## Orders -/

namespace PersistentIntent

def ofIntent (intent : OrderIntent) : PersistentIntent where
  intentId := intent.intentId
  accountId := intent.accountId
  strategyId := intent.strategyId
  instrumentId := intent.instrumentId
  correlationId := intent.correlationId
  side := intent.side.asStr
  quantity := intent.quantity.display
  orderType := intent.orderType.asStr
  limitPrice := intent.limitPrice.map Decimal.display
  timeInForce := intent.timeInForce.asStr
  rationale := intent.rationale
  createdAt := intent.createdAt
  strategyVersion := intent.strategyVersion
  configurationVersion := intent.configurationVersion
  environment := intent.environment

def parseOptional (name : String) : Option String → Result (Option Decimal)
  | none => pure none
  | some value => do
    let parsed ← decimal name value
    pure (some parsed)

def toIntent (intent : PersistentIntent) : Result OrderIntent := do
  let side ← parseSide "persisted intent side is invalid" intent.side
  let quantity ← decimal "persisted intent quantity" intent.quantity
  let orderType ← parseOrderType intent.orderType
  let limitPrice ←
    parseOptional "persisted intent limit price" intent.limitPrice
  let timeInForce ← parseTimeInForce
    "persisted intent time in force is invalid" intent.timeInForce
  let result : OrderIntent :=
    { intentId := intent.intentId, accountId := intent.accountId
      strategyId := intent.strategyId, instrumentId := intent.instrumentId
      correlationId := intent.correlationId
      side, quantity, orderType, limitPrice, timeInForce
      rationale := intent.rationale
      createdAt := intent.createdAt
      strategyVersion := intent.strategyVersion
      configurationVersion := intent.configurationVersion
      environment := intent.environment }
  result.validate
  pure result

end PersistentIntent

namespace PersistentMarketData

def ofMarket (market : PaperMarketData) : PersistentMarketData where
  instrumentId := market.instrumentId
  markPrice := market.markPrice.display
  observedAt := market.observedAt

def toMarket (market : PersistentMarketData) : Result PaperMarketData := do
  let markPrice ← decimal "persisted market mark price" market.markPrice
  let result : PaperMarketData := ⟨market.instrumentId, markPrice, market.observedAt⟩
  result.validate
  pure result

end PersistentMarketData

def PersistentOrder.ofOrder (order : PaperOrder) : PersistentOrder where
  intent := .ofIntent order.oms.intent
  state := order.oms.state.asStr
  brokerOrderId := order.brokerOrderId
  brokerOrderVersions := order.brokerOrderVersions
  replaceReturnState := order.replaceReturnState.map OrderState.asStr
  filledQuantity := order.filledQuantity.display
  market := .ofMarket order.market

namespace PersistentDecision

def ofDecision (decision : RiskDecision) : PersistentDecision where
  approved := decision.approved
  reasonCodes := decision.reasonCodes
  policyVersion := decision.policyVersion
  decidedAt := decision.decidedAt
  correlationId := decision.correlationId
  actor := decision.actor
  evaluatedLimits := decision.evaluatedLimits

def toDecision (decision : PersistentDecision)
    (decisionId intentId : String) : RiskDecision where
  decisionId := decisionId
  intentId := intentId
  approved := decision.approved
  reasonCodes := decision.reasonCodes
  policyVersion := decision.policyVersion
  decidedAt := decision.decidedAt
  correlationId := decision.correlationId
  actor := decision.actor
  evaluatedLimits := decision.evaluatedLimits

end PersistentDecision

def riskDecisionId (intentId : String) : String := "paper-risk-" ++ intentId

def comboRiskDecisionId (intentId : String) : String := "paper-combo-risk-" ++ intentId

def validateSubmitter (name : String) : Option String → Result Unit
  | some operator => validateCanonicalId name operator
  | none => pure ()

namespace PersistentRiskEvidence

def ofEvidence (evidence : PaperRiskEvidence) : PersistentRiskEvidence where
  intent := .ofIntent evidence.intent
  decision := .ofDecision evidence.decision
  market := .ofMarket evidence.market
  submittedBy := evidence.submittedBy

def toEvidence (evidence : PersistentRiskEvidence) : Result PaperRiskEvidence := do
  let intent ← evidence.intent.toIntent
  let decision := evidence.decision
  validateCanonicalId "persisted risk correlation_id" decision.correlationId
  validateUtcTimestamp "persisted risk decided_at" decision.decidedAt
  refuseIf (decision.reasonCodes = [] ∨ decision.reasonCodes.any (·.isEmpty) = true ∨
      decision.policyVersion.isEmpty = true ∨
      decision.actor.isEmpty = true ∨
      decision.evaluatedLimits.isEmpty = true)
    "persisted risk evidence is invalid"
  refuseIf (decision.correlationId ≠ intent.correlationId)
    "persisted risk correlation does not match its intent"
  validateSubmitter "persisted paper order submitted_by" evidence.submittedBy
  let market ← evidence.market.toMarket
  pure
    { intent
      decision :=
        decision.toDecision (riskDecisionId intent.intentId) intent.intentId
      market
      submittedBy := evidence.submittedBy }

end PersistentRiskEvidence

/-! ## Combinations -/

namespace PersistentComboIntent

def ofLeg (leg : ComboIntentLeg) : PersistentComboLeg :=
  ⟨leg.instrumentId, leg.side.asStr, leg.ratio, leg.limitPrice.display⟩

def ofIntent (intent : ComboIntent) : PersistentComboIntent where
  intentId := intent.intentId
  accountId := intent.accountId
  strategyId := intent.strategyId
  correlationId := intent.correlationId
  legs := intent.legs.map ofLeg
  comboQuantity := intent.comboQuantity.display
  priceLimitKind := intent.priceLimit.kind
  priceLimitAmount := intent.priceLimit.amount.display
  timeInForce := intent.timeInForce.asStr
  rationale := intent.rationale
  createdAt := intent.createdAt
  strategyVersion := intent.strategyVersion
  configurationVersion := intent.configurationVersion
  environment := intent.environment

def toLeg (leg : PersistentComboLeg) : Result ComboIntentLeg := do
  let side ← parseSide "persisted combo leg side is invalid" leg.side
  let limitPrice ← decimal "persisted combo leg limit price" leg.limitPrice
  pure ⟨leg.instrumentId, side, leg.ratio, limitPrice⟩

def parsePriceLimit (kind : String) (amount : Decimal) : Result ComboPriceLimit :=
  if kind = "MAXIMUM_DEBIT" then .ok (.maximumDebit amount)
  else if kind = "MINIMUM_CREDIT" then .ok (.minimumCredit amount)
  else .error ⟨"persisted combo price limit kind is invalid"⟩

def toIntent (intent : PersistentComboIntent) : Result ComboIntent := do
  let amount ← decimal "persisted combo price limit" intent.priceLimitAmount
  let legs ← collect toLeg intent.legs
  let comboQuantity ← decimal "persisted combo quantity" intent.comboQuantity
  let priceLimit ← parsePriceLimit intent.priceLimitKind amount
  let timeInForce ← parseTimeInForce
    "persisted combo time in force is invalid" intent.timeInForce
  let result : ComboIntent :=
    { intentId := intent.intentId, accountId := intent.accountId
      strategyId := intent.strategyId, correlationId := intent.correlationId
      legs, comboQuantity, priceLimit, timeInForce
      rationale := intent.rationale
      createdAt := intent.createdAt
      strategyVersion := intent.strategyVersion
      configurationVersion := intent.configurationVersion
      environment := intent.environment }
  result.validate
  pure result

end PersistentComboIntent

def comboMarketFromPersisted (marks : List PersistentMarketData) :
    Result PaperComboMarketData := do
  let marks ← collect PersistentMarketData.toMarket marks
  pure ⟨marks⟩

namespace PersistentComboRiskEvidence

def ofEvidence (evidence : PaperComboRiskEvidence) : PersistentComboRiskEvidence where
  intent := .ofIntent evidence.intent
  decision := .ofDecision evidence.decision
  market := evidence.market.marks.map .ofMarket
  submittedBy := evidence.submittedBy

def toEvidence (evidence : PersistentComboRiskEvidence) :
    Result PaperComboRiskEvidence := do
  let intent ← evidence.intent.toIntent
  let market ← comboMarketFromPersisted evidence.market
  validateSubmitter "persisted paper combo submitted_by" evidence.submittedBy
  pure
    { intent
      decision :=
        evidence.decision.toDecision (comboRiskDecisionId intent.intentId)
          intent.intentId
      market
      submittedBy := evidence.submittedBy }

end PersistentComboRiskEvidence

/-! ## Reconciliation -/

namespace PersistentReconciliationReport

def ofReport (report : ReconciliationReport) : PersistentReconciliationReport where
  reconciliationId := report.reconciliationId
  reconciledAt := report.reconciledAt
  issues := report.issues

def validateIssues (incidentIds : List String) : List ReconciliationIssue → Result Unit
  | [] => pure ()
  | issue :: issues => do
    validateCanonicalId "persisted paper incident_id" issue.incidentId
    validateBrokerReason "persisted paper issue category" issue.category
    validateBrokerReason "persisted paper issue subject" issue.subject
    validateBrokerReason "persisted paper issue detail" issue.detail
    refuseIf (issue.incidentId ∈ incidentIds)
      "persisted paper reconciliation repeats an incident ID"
    validateIssues (issue.incidentId :: incidentIds) issues

def toReport (report : PersistentReconciliationReport) : Result ReconciliationReport := do
  validateCanonicalId "persisted paper reconciliation_id"
    report.reconciliationId
  validateUtcTimestamp "persisted paper reconciliation time"
    report.reconciledAt
  validateIssues [] report.issues
  pure ⟨report.reconciliationId, report.reconciledAt, report.issues⟩

end PersistentReconciliationReport

/-! ## Corporate actions -/

namespace PersistentCorporateAction

def actionTypeOf : CorporateAction → String
  | .split .. => "SPLIT"
  | .cashDividend .. => "CASH_DIVIDEND"

def ofReceipt (receipt : PaperCorporateActionReceipt) : PersistentCorporateAction where
  actionId := receipt.action.actionId
  actionType := actionTypeOf receipt.action
  instrumentId := receipt.action.instrumentId
  effectiveAt := receipt.action.effectiveAt
  value := receipt.action.value.display
  appliedBy := receipt.appliedBy
  appliedAt := receipt.appliedAt
  quantityBefore := receipt.quantityBefore.display
  quantityAfter := receipt.quantityAfter.display
  cashDelta := receipt.cashDelta.display

def toAction (persisted : PersistentCorporateAction) (value : Decimal) :
    Result CorporateAction :=
  if persisted.actionType = "SPLIT" then
    .ok (.split persisted.actionId persisted.instrumentId persisted.effectiveAt value)
  else if persisted.actionType = "CASH_DIVIDEND" then
    .ok (.cashDividend persisted.actionId persisted.instrumentId
      persisted.effectiveAt value)
  else
    .error ⟨"persisted corporate action type is invalid"⟩

def isConsistent (action : CorporateAction)
    (quantityBefore quantityAfter cashDelta : Decimal) : Result Bool :=
  match action with
  | .split _ _ _ ratio => do
    let scaled ← quantityBefore.checkedMul ratio
    pure (quantityAfter = scaled ∧ cashDelta = Decimal.zero)
  | .cashDividend _ _ _ amount =>
    if quantityAfter = quantityBefore then do
      let paid ← quantityBefore.checkedMul amount
      pure (cashDelta = paid)
    else
      pure false

def toReceipt (persisted : PersistentCorporateAction) :
    Result PaperCorporateActionReceipt := do
  let value ← decimal "persisted corporate action value" persisted.value
  let action ← persisted.toAction value
  action.validate
  validateCanonicalId "persisted corporate action operator" persisted.appliedBy
  validateUtcTimestamp "persisted corporate action time" persisted.appliedAt
  refuseIf (persisted.appliedAt < action.effectiveAt)
    "persisted corporate action was applied before it took effect"
  let quantityBefore ← decimal "persisted corporate action quantity before"
    persisted.quantityBefore
  let quantityAfter ← decimal "persisted corporate action quantity after"
    persisted.quantityAfter
  let cashDelta ← decimal "persisted corporate action cash" persisted.cashDelta
  let consistent ← isConsistent action quantityBefore quantityAfter cashDelta
  refuseIf (consistent = false)
    "persisted corporate action effect does not follow from its action"
  pure ⟨action, persisted.appliedBy, persisted.appliedAt, quantityBefore,
    quantityAfter, cashDelta⟩

end PersistentCorporateAction

def restoreCorporateActions (receipts : List PaperCorporateActionReceipt) :
    List PersistentCorporateAction → Result (List PaperCorporateActionReceipt)
  | [] => pure receipts
  | record :: records => do
    let receipt ← record.toReceipt
    refuseIf (receipt.action.actionId ∈ receipts.map (·.action.actionId))
      "paper journal applies one corporate action twice"
    restoreCorporateActions (receipts ++ [receipt]) records

end Follon.Paper
