import Follon.Paper.Persistence

/-!
# Submission

An intent passes the admission checks, is answered from stored evidence when
its order exists, and otherwise is decided.  An approved order is journaled as
`PENDING_SUBMIT` before the broker is called, and the reply is recorded after.
-/

namespace Follon.Paper

open Foundation Domain ControlPlane

/-! ## Recording a reply -/

namespace PaperOrder

def currentState : OrderM OrderState := do
  let order ← Fallible.read
  pure order.oms.state

def adoptBrokerId (order : PaperOrder) (brokerOrderId : String) : PaperOrder :=
  { order with
    brokerOrderId := some brokerOrderId
    brokerOrderVersions := order.brokerOrderVersions ++ [brokerOrderId] }

def acceptSubmission (brokerOrderId : String) : OrderM OrderState := do
  move .submitted "PAPER_SUBMISSION_SENT"
  move .acknowledged "IBKR_PAPER_ACKNOWLEDGED"
  update (·.adoptBrokerId brokerOrderId)
  currentState

def rejectSubmission (reason : String) : OrderM OrderState := do
  move .submitted "PAPER_SUBMISSION_SENT"
  move .rejected reason
  currentState

def loseSubmission (reason : String) : OrderM OrderState := do
  move .unknown reason
  currentState

end PaperOrder

namespace PaperComboOrder

def currentState : ComboM OrderState := do
  let order ← Fallible.read
  pure order.oms.state

def adoptBrokerId (order : PaperComboOrder) (brokerOrderId : String) : PaperComboOrder :=
  { order with
    brokerOrderId := some brokerOrderId
    brokerOrderVersions := order.brokerOrderVersions ++ [brokerOrderId] }

def acceptSubmission (brokerOrderId : String) : ComboM OrderState := do
  move .submitted "PAPER_COMBO_SUBMISSION_SENT"
  move .acknowledged "IBKR_PAPER_COMBO_ACKNOWLEDGED"
  update (·.adoptBrokerId brokerOrderId)
  currentState

def rejectSubmission (reason : String) : ComboM OrderState := do
  move .submitted "PAPER_COMBO_SUBMISSION_SENT"
  move .rejected reason
  currentState

def loseSubmission (reason : String) : ComboM OrderState := do
  move .unknown reason
  currentState

end PaperComboOrder

structure SubmissionRecord where
  orderId : String
  (accept reject lose : String → BooksM OrderState)
  transportReason : String

def plainRecord (orderId : String) : SubmissionRecord where
  orderId := orderId
  accept := fun id => Books.onOrder orderId (PaperOrder.acceptSubmission id)
  reject := fun reason =>
    Books.onOrder orderId (PaperOrder.rejectSubmission reason)
  lose := fun reason =>
    Books.onOrder orderId (PaperOrder.loseSubmission reason)
  transportReason := "PAPER_TRANSPORT_OUTCOME_UNKNOWN"

def comboRecord (orderId : String) : SubmissionRecord where
  orderId := orderId
  accept := fun id =>
    Books.onCombo orderId (PaperComboOrder.acceptSubmission id)
  reject := fun reason =>
    Books.onCombo orderId (PaperComboOrder.rejectSubmission reason)
  lose := fun reason =>
    Books.onCombo orderId (PaperComboOrder.loseSubmission reason)
  transportReason := "PAPER_COMBO_TRANSPORT_OUTCOME_UNKNOWN"

/-! ## Retries and records -/

def pendingOrder (intent : OrderIntent) (decision : RiskDecision)
    (market : PaperMarketData) : Result PaperOrder := do
  let oms ← OmsOrder.fromApprovedIntent intent decision
  let (oms, _) ← oms.transition .approved "PAPER_RISK_APPROVED"
  let (oms, _) ← oms.transition .pendingSubmit "PAPER_SUBMISSION_REQUESTED"
  pure
    { oms
      brokerOrderId := none
      brokerOrderVersions := []
      replaceReturnState := none
      filledQuantity := Decimal.zero
      market }

def pendingCombo (intent : ComboIntent) (decision : RiskDecision)
    (market : PaperComboMarketData) : Result (PaperComboOrder × BrokerComboRequest) := do
  let oms ← OmsComboOrder.fromApprovedIntent intent decision
  let (oms, _) ← oms.transition .approved "PAPER_COMBO_RISK_APPROVED"
  let (oms, _) ←
    oms.transition .pendingSubmit "PAPER_COMBO_SUBMISSION_REQUESTED"
  let request ← BrokerComboRequest.fromComboOrder oms
  pure
    ({ oms
       brokerOrderId := none
       brokerOrderVersions := []
       market
       filledQuantity := Decimal.zero
       executions := ∅
       evidenceError := none }, request)

namespace ServiceRecord

def retryOutcome (s : ServiceRecord) (existing : PaperOrder)
    (intent : OrderIntent) (market : PaperMarketData) (decidedAt : String)
    (submittedBy : Option String) : Result PaperSubmitOutcome := do
  refuseIf (existing.oms.intent ≠ intent)
    "paper order idempotency key was reused with different intent data"
  match s.riskEvidence[riskDecisionId intent.intentId]? with
  | none => .error ⟨"existing paper order is missing its risk evidence"⟩
  | some evidence => do
    refuseIf (evidence.market ≠ market ∨ evidence.decision.decidedAt ≠ decidedAt)
      "paper order retry must use the original market observation and decision time"
    refuseIf (evidence.submittedBy ≠ submittedBy)
      "paper order retry must come from the original submitter"
    pure ⟨evidence.decision, some (OmsOrder.orderIdFor intent.intentId),
      some existing.oms.state⟩

def retryComboOutcome (s : ServiceRecord)
    (existing : PaperComboOrder) (intent : ComboIntent)
    (market : PaperComboMarketData) (decidedAt : String)
    (submittedBy : Option String) : Result PaperSubmitOutcome := do
  refuseIf (existing.oms.intent ≠ intent)
    "paper combination idempotency key was reused with different intent data"
  match s.comboRiskEvidence[comboRiskDecisionId intent.intentId]? with
  | none =>
    .error
      ⟨"existing paper combination order is missing its risk evidence"⟩
  | some evidence => do
    refuseIf (evidence.market ≠ market ∨ evidence.decision.decidedAt ≠ decidedAt)
      "paper combination retry must use the original market observation and decision time"
    refuseIf (evidence.submittedBy ≠ submittedBy)
      "paper combination retry must come from the original submitter"
    pure ⟨evidence.decision, some (OmsComboOrder.orderIdFor intent.intentId),
      some existing.oms.state⟩

def setBooks (books : Books) (s : ServiceRecord) : ServiceRecord :=
  { s with toBooks := books }

def recordEvidence (evidence : PaperRiskEvidence) (s : ServiceRecord) : ServiceRecord :=
  { s with riskEvidence :=
      s.riskEvidence.insert evidence.decision.decisionId evidence }

def recordOrder (order : PaperOrder) (evidence : PaperRiskEvidence)
    (s : ServiceRecord) : ServiceRecord :=
  (s.setBooks (s.toBooks.putOrder order.oms.orderId order)).recordEvidence
    evidence

def recordComboEvidence (evidence : PaperComboRiskEvidence)
    (s : ServiceRecord) : ServiceRecord :=
  { s with comboRiskEvidence :=
      s.comboRiskEvidence.insert evidence.decision.decisionId evidence }

def recordCombo (order : PaperComboOrder) (evidence : PaperComboRiskEvidence)
    (s : ServiceRecord) : ServiceRecord :=
  (s.setBooks (s.toBooks.putCombo order.oms.orderId order)).recordComboEvidence evidence

end ServiceRecord

namespace PaperTradingService

variable {B : Type} [PaperBrokerAdapter B] [ContentHash]

def onBooks {α : Type} (x : BooksM α) : PaperM B α :=
  x.zoom (·.toBooks) fun books s => s.edit (ServiceRecord.setBooks books)

def announce (sent : BrokerCommand) (broker : B)
    (s : PaperTradingService B) : PaperTradingService B :=
  { s with broker, effects := s.effects ++ [.commanded sent] }

def command {α : Type} (sent : BrokerCommand) (call : B → α × B) : PaperM B α :=
  fun s => (.ok (call s.broker).1, s.announce sent (call s.broker).2)

def applyReply (record : SubmissionRecord) (decision : RiskDecision) :
    Result BrokerSubmitResult → PaperM B PaperSubmitOutcome
  | .ok (.acknowledged brokerOrderId) => do
    lift (validateCanonicalId "broker order_id" brokerOrderId)
    let state ← onBooks (record.accept brokerOrderId)
    persist
    pure ⟨decision, some record.orderId, some state⟩
  | .ok (.rejected reason) => do
    lift (validateBrokerReason "broker rejection reason" reason)
    let state ← onBooks (record.reject reason)
    persist
    pure ⟨decision, some record.orderId, some state⟩
  | .ok (.unknown reason) => do
    lift
      (validateBrokerReason "broker unknown-outcome reason" reason)
    let state ← onBooks (record.lose reason)
    persist
    pure ⟨decision, some record.orderId, some state⟩
  | .error error => do
    let _ ← onBooks (record.lose record.transportReason)
    update (setSession false)
    persist
    Fallible.fail error

/-! ## Admission -/

def ensureBrokerReadyForSubmission (s : PaperTradingService B) : Result Unit := do
  refuseIf (s.brokerConnected = false)
    "paper broker session is disconnected; reconnect and reconcile before submission"
  refuseIf (PaperBrokerAdapter.requiresCleanReconciliation s.broker = true ∧
      s.lastReconciliationClean ≠ some true)
    "paper broker account requires a clean reconciliation before submission"

def ensureRouteCarries (s : PaperTradingService B)
    (timeInForce : TimeInForce) (combination : Bool) : Result Unit := do
  let capabilities ←
    PaperBrokerAdapter.capabilities s.broker s.account.accountId
  refuseIf (combination = true ∧ capabilities.combinations = false)
    "the configured paper broker route cannot execute combinations; nothing was recorded or transmitted"
  refuseIf (timeInForce = .goodTilCancelled ∧ capabilities.goodTilCancelled = false)
    "the configured paper broker route carries only DAY orders; the GTC intent was refused before anything was recorded or transmitted"

def admitIntent (s : PaperTradingService B) (intent : OrderIntent)
    (market : PaperMarketData) (decidedAt : String)
    (submittedBy : Option String) : Result Unit := do
  s.ensurePersistenceHealthy
  validateSubmitter "paper order submitted_by" submittedBy
  intent.validate
  validateUtcTimestamp "paper risk decision time" decidedAt
  market.validate
  refuseIf (intent.environment ≠ "PAPER")
    "paper OMS refuses an intent outside the PAPER environment"
  refuseIf (intent.accountId ≠ s.account.accountId)
    "paper intent account does not match service"
  s.ensureBrokerReadyForSubmission
  refuseIf (market.instrumentId ≠ intent.instrumentId)
    "paper market observation instrument does not match intent"
  let stale ← isStale s.riskPolicy.maxMarketDataAgeSeconds market.observedAt
    decidedAt
  refuseIf (stale = true)
    "paper market observation is stale or later than the risk decision"

def admitCombo (s : PaperTradingService B) (intent : ComboIntent)
    (market : PaperComboMarketData) (decidedAt : String)
    (submittedBy : Option String) : Result Unit := do
  s.ensurePersistenceHealthy
  validateSubmitter "paper combo submitted_by" submittedBy
  intent.validate
  validateUtcTimestamp "paper combo risk decision time" decidedAt
  market.validateFor intent
  refuseIf (intent.environment ≠ "PAPER")
    "paper OMS refuses a combination outside the PAPER environment"
  refuseIf (intent.accountId ≠ s.account.accountId)
    "paper combo intent account does not match service"
  s.ensureBrokerReadyForSubmission

/-! ## Plain orders -/

def transmitOrder (order : PaperOrder) (decision : RiskDecision) :
    PaperM B PaperSubmitOutcome := do
  let request := BrokerOrderRequest.fromOrder order.oms
  let submission ← command (.submit request)
    (PaperBrokerAdapter.submit · request)
  applyReply (plainRecord request.clientOrderId) decision submission

def recordDecision (intent : OrderIntent) (market : PaperMarketData)
    (submittedBy : Option String) (decision : RiskDecision) :
    PaperM B PaperSubmitOutcome := do
  let evidence : PaperRiskEvidence := ⟨intent, decision, market, submittedBy⟩
  if decision.approved = false then do
    update (edit (ServiceRecord.recordEvidence evidence))
    persist
    pure ⟨decision, none, none⟩
  else do
    let order ← lift (pendingOrder intent decision market)
    update (edit (ServiceRecord.recordOrder order evidence))
    persist
    transmitOrder order decision

def decideIntent (intent : OrderIntent) (market : PaperMarketData)
    (decidedAt : String) : PaperM B RiskDecision := do
  let s ← Fallible.read
  lift (s.ensureRouteCarries intent.timeInForce false)
  evaluateRisk intent market decidedAt

def submitIntentAs (intent : OrderIntent) (market : PaperMarketData)
    (decidedAt : String) (submittedBy : Option String) : PaperM B PaperSubmitOutcome := do
  let s ← Fallible.read
  lift (s.admitIntent intent market decidedAt submittedBy)
  match s.orders[OmsOrder.orderIdFor intent.intentId]? with
  | some existing =>
    lift
      (s.retryOutcome existing intent market decidedAt submittedBy)
  | none => do
    let decision ← decideIntent intent market decidedAt
    recordDecision intent market submittedBy decision

def submitIntent (intent : OrderIntent) (market : PaperMarketData)
    (decidedAt : String) : PaperM B PaperSubmitOutcome :=
  submitIntentAs intent market decidedAt none

/-! ## Combinations -/

def transmitCombo (request : BrokerComboRequest) (decision : RiskDecision) :
    PaperM B PaperSubmitOutcome := do
  let submission ← command (.submitCombo request)
    (PaperBrokerAdapter.submitCombo · request)
  applyReply (comboRecord request.clientOrderId) decision submission

def recordComboDecision (intent : ComboIntent)
    (market : PaperComboMarketData) (submittedBy : Option String)
    (decision : RiskDecision) : PaperM B PaperSubmitOutcome := do
  let evidence : PaperComboRiskEvidence := ⟨intent, decision, market, submittedBy⟩
  if decision.approved = false then do
    update (edit (ServiceRecord.recordComboEvidence evidence))
    persist
    pure ⟨decision, none, none⟩
  else do
    let (order, request) ←
      lift (pendingCombo intent decision market)
    update (edit (ServiceRecord.recordCombo order evidence))
    persist
    transmitCombo request decision

def decideCombo (intent : ComboIntent) (market : PaperComboMarketData)
    (decidedAt : String) : PaperM B RiskDecision := do
  let s ← Fallible.read
  lift (s.ensureRouteCarries intent.timeInForce true)
  evaluateComboRisk intent market decidedAt

def submitComboIntentAs (intent : ComboIntent) (market : PaperComboMarketData)
    (decidedAt : String) (submittedBy : Option String) : PaperM B PaperSubmitOutcome := do
  let s ← Fallible.read
  lift (s.admitCombo intent market decidedAt submittedBy)
  match s.comboOrders[OmsComboOrder.orderIdFor intent.intentId]? with
  | some existing =>
    lift
      (s.retryComboOutcome existing intent market decidedAt submittedBy)
  | none => do
    let decision ← decideCombo intent market decidedAt
    recordComboDecision intent market submittedBy decision

def submitComboIntent (intent : ComboIntent) (market : PaperComboMarketData)
    (decidedAt : String) : PaperM B PaperSubmitOutcome :=
  submitComboIntentAs intent market decidedAt none

end PaperTradingService

end Follon.Paper
