import Follon.Paper.PolicyFingerprint
import Follon.Paper.RiskGate

/-!
# Persistence and recovery

A snapshot holds the whole durable state as text.  Recovery validates every
record against the others before it installs any of them, and recomputes the
peak equity from what it recovered.
-/

namespace Follon.Paper

open Foundation Domain ControlPlane Accounting

/-! ## Combination executions -/

namespace PersistentComboExecution

def ofLeg (leg : BrokerComboExecutionLeg) : PersistentComboExecutionLeg where
  executionId := leg.executionId
  instrumentId := leg.instrumentId
  side := leg.side.asStr
  quantity := leg.quantity.display
  price := leg.price.display
  fee := leg.fee.display
  executedAt := leg.executedAt

def ofExecution (execution : BrokerComboExecution) : PersistentComboExecution where
  executionId := execution.executionId
  clientOrderId := execution.clientOrderId
  brokerOrderId := execution.brokerOrderId
  units := execution.units.display
  legs := execution.legs.map ofLeg

def toLeg (leg : PersistentComboExecutionLeg) : Result BrokerComboExecutionLeg := do
  let side ← parseSide "invalid persisted combo side" leg.side
  let quantity ← decimal "leg quantity" leg.quantity
  let price ← decimal "leg price" leg.price
  let fee ← decimal "leg fee" leg.fee
  pure ⟨leg.executionId, leg.instrumentId, side, quantity, price, fee, leg.executedAt⟩

def toExecution (execution : PersistentComboExecution) : Result BrokerComboExecution := do
  let units ← decimal "combo units" execution.units
  let legs ← collect toLeg execution.legs
  pure ⟨execution.executionId, execution.clientOrderId,
    execution.brokerOrderId, units, legs⟩

end PersistentComboExecution

def BrokerComboExecution.receiptIds (execution : BrokerComboExecution) : List String :=
  execution.executionId :: execution.legs.map (·.executionId)

namespace PaperComboOrder

def executionState (order : PaperComboOrder) : Option PersistentComboExecutionState :=
  if order.executions.isEmpty = true ∧ order.evidenceError = none then
    none
  else
    some
      { schemaVersion := 1, filledQuantity := order.filledQuantity.display
        executions := order.executions.values.map .ofExecution
        evidenceError := order.evidenceError }

/-- What the loop over the persisted executions accumulates. -/
structure ExecutionRecovery where
  total : Decimal
  ids : List String
  executions : OrderedMap String BrokerComboExecution

def recoverExecution (order : PaperComboOrder) (acc : ExecutionRecovery)
    (persisted : PersistentComboExecution) : Result ExecutionRecovery := do
  let execution ← persisted.toExecution
  execution.validate order.oms.intent
  refuseIf (execution.clientOrderId ≠ order.oms.orderId ∨
      execution.brokerOrderId ∉ order.brokerOrderVersions ∨
      ¬(execution.receiptIds ++ acc.ids).Nodup)
    "inconsistent persisted combination execution identity"
  let total ← acc.total.checkedAdd execution.units
  pure ⟨total, execution.receiptIds ++ acc.ids,
    acc.executions.insert execution.executionId execution⟩

def lifecycleDisagrees (order : PaperComboOrder) : Bool :=
  order.filledQuantity < Decimal.zero ||
    order.oms.intent.comboQuantity < order.filledQuantity ||
    (order.oms.state == .filled &&
      order.filledQuantity != order.oms.intent.comboQuantity) ||
    (order.oms.state == .partiallyFilled && (order.filledQuantity == Decimal.zero ||
        order.filledQuantity == order.oms.intent.comboQuantity)) ||
    (PaperOrder.isUnfilledTerminal order.oms.state &&
      order.filledQuantity == order.oms.intent.comboQuantity)

def checkEvidenceError : Option String → Result Unit
  | some error => validateBrokerReason "combo evidence error" error
  | none => pure ()

def withExecutions (order : PaperComboOrder) :
    Option PersistentComboExecutionState → Result PaperComboOrder
  | none => pure order
  | some state => do
    refuseIf (state.schemaVersion ≠ 1)
      "unsupported combination execution journal version"
    let filledQuantity ← decimal "combo filled units" state.filledQuantity
    checkEvidenceError state.evidenceError
    let acc ← state.executions.foldlM order.recoverExecution
      ⟨Decimal.zero, [], order.executions⟩
    refuseIf (acc.total ≠ filledQuantity)
      "persisted combination units do not match receipts"
    pure { order with
      filledQuantity
      executions := acc.executions
      evidenceError := state.evidenceError }

def restoreExecutions (order : PaperComboOrder)
    (state : Option PersistentComboExecutionState) : Result PaperComboOrder := do
  let order ← order.withExecutions state
  refuseIf (order.lifecycleDisagrees = true)
    "persisted combination lifecycle disagrees with filled units"
  pure order

end PaperComboOrder

def PersistentComboOrder.ofOrder (order : PaperComboOrder) : PersistentComboOrder where
  intent := .ofIntent order.oms.intent
  state := order.oms.state.asStr
  brokerOrderId := order.brokerOrderId
  brokerOrderVersions := order.brokerOrderVersions
  market := order.market.marks.map .ofMarket
  executionState := order.executionState

/-! ## Accounting books -/

def PersistentPosition.ofPortfolio (portfolio : Portfolio) : PersistentPosition where
  quantity := portfolio.quantity.display
  averageCost := portfolio.averageCost.display
  realizedPnl := portfolio.realizedPnl.display

def PersistentTaxLot.ofLot (lot : TaxLot) : PersistentTaxLot where
  lotId := lot.lotId
  openedAt := lot.openedAt
  remainingQuantity := lot.remainingQuantity.display
  unitCost := lot.unitPrice.display

def PersistentLotSide.ofSide (side : LotSide) : PersistentLotSide where
  lots := side.lots.map fun _ lots => lots.map .ofLot
  appliedLotIds := side.appliedLotIds.toList
  appliedCloseIds := side.appliedCloseIds.toList

def realizedTexts (realized : OrderedMap Currency Decimal) : OrderedMap String String :=
  realized.toList.foldl
    (fun texts entry => texts.insert entry.1.code entry.2.display) ∅

def PersistentTaxLotBook.ofBook (book : TaxLotBook) : PersistentTaxLotBook where
  long := .ofSide book.long
  short := .ofSide book.short
  realizedByCurrency := realizedTexts book.realizedByCurrency

/-! ## Operators and reconciliation -/

namespace PersistentOperation

def ofKillSwitch (operation : KillSwitchOperation) : PersistentOperation where
  subject := operation.scope
  action := operation.action.asStr
  operator := operation.operator
  operatedAt := operation.operatedAt

def ofOrder (operation : OrderOperation) : PersistentOperation where
  subject := operation.orderId
  action := operation.action.asStr
  operator := operation.operator
  operatedAt := operation.operatedAt

end PersistentOperation

def PersistentIncident.ofIncident (incident : ReconciliationIncident) :
    PersistentIncident where
  category := incident.issue.category
  subject := incident.issue.subject
  detail := incident.issue.detail
  explanation := incident.explanation

/-! ## Snapshots -/

def ServiceRecord.snapshot [ContentHash] (s : ServiceRecord)
    (brokerConnected : Bool) : PersistentPaperState where
  configurationFingerprint := s.configurationFingerprint
  accountId := s.account.accountId
  currency := s.account.currency
  cash := s.cash.display
  orders := s.orders.map fun _ order => .ofOrder order
  riskEvidence := s.riskEvidence.map fun _ evidence => .ofEvidence evidence
  positions := s.portfolios.map fun _ portfolio => .ofPortfolio portfolio
  executionIds := s.executionIds.toList
  activeKillSwitches := s.killSwitches.activeKeys
  incidents := s.incidents.map fun _ incident => .ofIncident incident
  lastReconciledAt := s.lastReconciledAt
  lastReconciliationClean := s.lastReconciliationClean
  paperDays := s.paperDays
  nextReconciliation := s.nextReconciliation
  brokerConnected := brokerConnected
  latestReconciliation := s.latestReconciliation.map .ofReport
  taxLots := .ofBook s.taxLots
  marks := s.marks.map fun _ mark => mark.display
  peakEquity := some s.peakEquity.display
  dailyBaselineDate := s.dailyBaselineDate
  dailyBaselineEquity :=
    s.dailyBaselineDate.map fun _ => s.dailyBaselineEquity.display
  strategyAttribution := s.strategyAttribution.map fun _ strategies =>
    strategies.map fun _ quantity => quantity.display
  comboOrders := s.comboOrders.map fun _ order => .ofOrder order
  comboRiskEvidence :=
    s.comboRiskEvidence.map fun _ evidence => .ofEvidence evidence
  killSwitchOperations := s.killSwitchOperations.map .ofKillSwitch
  orderOperations := s.orderOperations.map .ofOrder
  corporateActions := s.corporateActions.map .ofReceipt

namespace PaperTradingService

variable {B : Type} [PaperBrokerAdapter B] [ContentHash]

def persistentState (s : PaperTradingService B) : PersistentPaperState :=
  s.snapshot s.brokerConnected

def recordAppend (journal : FilePaperJournal) (state : PersistentPaperState)
    (s : PaperTradingService B) : PaperTradingService B :=
  { s with
    journal := some (journal.append state).2
    effects := if journal.outcome = .written ∨ journal.outcome = .kept then
        s.effects ++ [.journaled state]
      else
        s.effects }

def failClosed (s : PaperTradingService B) : PaperTradingService B :=
  { s with persistenceHealthy := false }

def persist : PaperM B Unit := do
  let s ← Fallible.read
  match s.journal with
  | none => pure ()
  | some journal => do
    update (recordAppend journal s.persistentState)
    match (journal.append s.persistentState).1 with
    | .ok () => pure ()
    | .error error => do
      update failClosed
      Fallible.fail error

end PaperTradingService

/-! ## Recovery of records -/

namespace Configuration

def knownVersions (brokerOrderId : Option String) (versions : List String) :
    List String :=
  if versions.isEmpty then brokerOrderId.toList else versions

/-- The texts in which the two kinds of order records differ. -/
structure VersionTexts where
  (active version duplicated absent : String)

def plainVersionTexts : VersionTexts where
  active := "persisted broker_order_id"
  version := "persisted broker_order_version"
  duplicated := "persisted broker order versions are duplicated"
  absent := "persisted active broker ID is absent from versions"

def comboVersionTexts : VersionTexts where
  active := "persisted combo broker_order_id"
  version := "persisted combo broker_order_version"
  duplicated := "persisted combination broker order versions are duplicated"
  absent := "persisted active combination broker ID is absent from versions"

def checkDistinct (texts : VersionTexts) (seen : List String) : List String → Result Unit
  | [] => pure ()
  | version :: versions => do
    validateCanonicalId texts.version version
    refuseIf (version ∈ seen) texts.duplicated
    checkDistinct texts (version :: seen) versions

def checkVersions (texts : VersionTexts) (brokerOrderId : Option String)
    (versions : List String) : Result Unit := do
  checkAll (validateCanonicalId texts.active) brokerOrderId.toList
  checkDistinct texts [] versions
  checkAll (fun active => refuseIf (active ∉ versions) texts.absent)
    brokerOrderId.toList

def parseReturnState : Option String → Result (Option OrderState)
  | none => pure none
  | some value => do
    let state ← parseOrderState value
    pure (some state)

def restoreOrder (config : Configuration) (orderId : String)
    (persisted : PersistentOrder) : Result PaperOrder := do
  let intent ← persisted.intent.toIntent
  refuseIf (intent.accountId ≠ config.account.accountId ∨ intent.environment ≠ "PAPER")
    "persisted paper order has an incompatible account or environment"
  let versions := knownVersions persisted.brokerOrderId persisted.brokerOrderVersions
  checkVersions plainVersionTexts persisted.brokerOrderId versions
  let filledQuantity ←
    decimal "persisted filled quantity" persisted.filledQuantity
  refuseIf (filledQuantity < Decimal.zero ∨ intent.quantity < filledQuantity)
    "persisted filled quantity is invalid"
  let market ← persisted.market.toMarket
  refuseIf (market.instrumentId ≠ intent.instrumentId)
    "persisted paper market observation does not match intent instrument"
  let state ← parseOrderState persisted.state
  let oms ← OmsOrder.recover orderId intent state
  let replaceReturnState ← parseReturnState persisted.replaceReturnState
  refuseIf (oms.state = .pendingReplace ∧ replaceReturnState = none)
    "persisted pending replacement has no return state"
  pure
    { oms
      brokerOrderId := persisted.brokerOrderId
      brokerOrderVersions := versions
      replaceReturnState, filledQuantity, market }

def restoreEvidence (config : Configuration) (decisionId : String)
    (persisted : PersistentRiskEvidence) : Result PaperRiskEvidence := do
  validateCanonicalId "persisted risk decision_id" decisionId
  let evidence ← persisted.toEvidence
  refuseIf (decisionId ≠ evidence.decision.decisionId)
    "persisted risk decision identity does not match its key"
  refuseIf (evidence.decision.policyVersion ≠ config.riskPolicy.version ∨
      evidence.decision.actor ≠ "paper_risk_engine")
    "persisted risk evidence is incompatible with supplied policy"
  pure evidence

def matchEvidence (riskEvidence : OrderedMap String PaperRiskEvidence)
    (order : PaperOrder) : Result Unit :=
  match riskEvidence[riskDecisionId order.oms.intent.intentId]? with
  | none => .error ⟨"persisted paper order is missing risk evidence"⟩
  | some evidence =>
    refuseIf (evidence.decision.approved = false ∨ evidence.intent ≠ order.oms.intent ∨
        evidence.market ≠ order.market)
      "persisted paper order does not match approved risk evidence"

def restoreCombo (config : Configuration) (orderId : String)
    (persisted : PersistentComboOrder) : Result PaperComboOrder := do
  let intent ← persisted.intent.toIntent
  refuseIf (intent.accountId ≠ config.account.accountId ∨ intent.environment ≠ "PAPER")
    "persisted paper combination has an incompatible account or environment"
  let versions := knownVersions persisted.brokerOrderId persisted.brokerOrderVersions
  checkVersions comboVersionTexts persisted.brokerOrderId versions
  let market ← comboMarketFromPersisted persisted.market
  market.validateFor intent
  let state ← parseOrderState persisted.state
  let oms ← OmsComboOrder.recover orderId intent state
  PaperComboOrder.restoreExecutions
    { oms
      brokerOrderId := persisted.brokerOrderId
      brokerOrderVersions := versions
      market
      filledQuantity := Decimal.zero
      executions := ∅
      evidenceError := none } persisted.executionState

def restoreComboEvidence (config : Configuration) (decisionId : String)
    (persisted : PersistentComboRiskEvidence) : Result PaperComboRiskEvidence := do
  validateCanonicalId "persisted combo risk decision_id" decisionId
  let evidence ← persisted.toEvidence
  refuseIf (decisionId ≠ evidence.decision.decisionId)
    "persisted combination risk decision identity does not match its key"
  refuseIf (evidence.decision.policyVersion ≠ config.riskPolicy.version ∨
      evidence.decision.actor ≠ "paper_risk_engine")
    "persisted combination risk evidence is incompatible with supplied policy"
  pure evidence

def matchComboEvidence (comboRiskEvidence : OrderedMap String PaperComboRiskEvidence)
    (order : PaperComboOrder) : Result Unit :=
  match comboRiskEvidence[comboRiskDecisionId order.oms.intent.intentId]? with
  | none => .error ⟨"persisted paper combination is missing risk evidence"⟩
  | some evidence =>
    refuseIf (evidence.decision.approved = false ∨ evidence.intent ≠ order.oms.intent ∨
        evidence.market ≠ order.market)
      "persisted paper combination does not match approved risk evidence"

def restorePosition (config : Configuration) (instrumentId : String)
    (persisted : PersistentPosition) : Result Portfolio := do
  let quantity ← decimal "persisted position quantity" persisted.quantity
  let averageCost ← decimal "persisted average cost" persisted.averageCost
  let realizedPnl ← decimal "persisted realized pnl" persisted.realizedPnl
  if config.riskPolicy.shortExposure.isSome then
    Portfolio.recoverSigned config.account.accountId instrumentId quantity
      averageCost realizedPnl
  else
    Portfolio.recover config.account.accountId instrumentId quantity
      averageCost realizedPnl

def restoreLot (quantityText priceText : String) (currency : Currency)
    (instrumentId : String) (persisted : PersistentTaxLot) : Result TaxLot := do
  let remainingQuantity ← decimal quantityText persisted.remainingQuantity
  let unitPrice ← decimal priceText persisted.unitCost
  pure
    { lotId := persisted.lotId
      instrumentId, currency
      openedAt := persisted.openedAt
      remainingQuantity, unitPrice }

def restoreLots (quantityText priceText : String) (currency : Currency)
    (instrumentId : String) (persisted : List PersistentTaxLot) : Result (List TaxLot) :=
  collect (restoreLot quantityText priceText currency instrumentId) persisted

def restoreRealized (realized : OrderedMap Currency Decimal) :
    List (String × String) → Result (OrderedMap Currency Decimal)
  | [] => pure realized
  | (code, amount) :: entries => do
    let currency ← Currency.new code
    let parsed ← decimal "persisted realized tax pnl" amount
    restoreRealized (realized.insert currency parsed) entries

def asSet (values : List String) : OrderedSet String :=
  values.foldl (fun set value => set.insert value) ∅

def restoreTaxLots (config : Configuration)
    (persisted : PersistentTaxLotBook) : Result TaxLotBook := do
  let currency ← Currency.new config.account.currency
  let lots ← OrderedMap.traverse
    (restoreLots "persisted tax lot remaining quantity"
      "persisted tax lot unit cost" currency) persisted.long.lots
  let realizedByCurrency ←
    restoreRealized ∅ persisted.realizedByCurrency.toList
  let shortLots ← OrderedMap.traverse
    (restoreLots "short lot quantity" "short lot proceeds" currency)
    persisted.short.lots
  TaxLotBook.recover
    { long := ⟨lots, asSet persisted.long.appliedLotIds,
        asSet persisted.long.appliedCloseIds⟩
      short := ⟨shortLots, asSet persisted.short.appliedLotIds,
        asSet persisted.short.appliedCloseIds⟩
      realizedByCurrency }

def restoreExecutionIds (executionIds : OrderedSet String) :
    List String → Result (OrderedSet String)
  | [] => pure executionIds
  | executionId :: rest => do
    validateCanonicalId "persisted execution_id" executionId
    refuseIf (executionId ∈ executionIds)
      "paper journal contains duplicate execution identity"
    restoreExecutionIds (executionIds.insert executionId) rest

def checkReceipts (executionIds : OrderedSet String) (seen : List String) :
    List String → Result Unit
  | [] => pure ()
  | id :: ids => do
    refuseIf (id ∉ executionIds ∨ id ∈ seen)
      "persisted combination execution is missing or duplicated in account receipts"
    checkReceipts executionIds (id :: seen) ids

def allReceiptIds (comboOrders : OrderedMap String PaperComboOrder) : List String :=
  comboOrders.values.flatMap fun order =>
    order.executions.values.flatMap (·.receiptIds)

/-! ## Recovery of running values -/

def restoreMark (instrumentId mark : String) : Result Decimal := do
  validateCanonicalId "persisted mark instrument_id" instrumentId
  let mark ← decimal "persisted mark price" mark
  refuseIf (mark ≤ Decimal.zero) "persisted mark price is invalid"
  pure mark

def restoreStrategyQuantity (strategyId quantity : String) : Result Decimal := do
  validateCanonicalId "persisted attribution strategy_id" strategyId
  decimal "persisted attribution quantity" quantity

def restoreStrategies (instrumentId : String) (strategies : OrderedMap String String) :
    Result (OrderedMap String Decimal) := do
  validateCanonicalId "persisted attribution instrument_id" instrumentId
  OrderedMap.traverse restoreStrategyQuantity strategies

def restorePeak (peakEquity : Option String) : Result (Option Decimal) := do
  let peak ←
    PersistentIntent.parseOptional "persisted peak equity" peakEquity
  refuseIf (BrokerOrderRequest.isNonPositive peak = true)
    "persisted peak equity is invalid"
  pure peak

def checkBaseline : Option String → Option Decimal → Result Unit
  | some date, some _ => validateExchangeDate date
  | none, none => pure ()
  | _, _ =>
    .error
      ⟨"persisted daily-loss baseline date and equity must be present together"⟩

/-! ## Recovery of operator records -/

def restoreSwitches (registry : KillSwitchRegistry) :
    List String → Result KillSwitchRegistry
  | [] => pure registry
  | key :: keys => do
    let scope ← KillSwitchScope.fromKey key
    let (_, registry) ← registry.activate scope
    restoreSwitches registry keys

def parseKillSwitchAction (value : String) : Result KillSwitchAction :=
  if value = "ACTIVATE" then .ok .activate
  else if value = "RELEASE" then .ok .release
  else .error ⟨"persisted kill-switch action is invalid"⟩

def restoreKillSwitchOperation (persisted : PersistentOperation) :
    Result KillSwitchOperation := do
  let scope ← KillSwitchScope.fromKey persisted.subject
  let action ← parseKillSwitchAction persisted.action
  validateCanonicalId "persisted kill-switch operator" persisted.operator
  validateUtcTimestamp "persisted kill-switch operation time"
    persisted.operatedAt
  pure ⟨scope.asKey, action, persisted.operator, persisted.operatedAt⟩

def parseOrderOperationAction (value : String) : Result OrderOperationAction :=
  if value = "CANCEL_REQUESTED" then .ok .cancelRequested
  else .error ⟨"persisted order operation action is invalid"⟩

def restoreOrderOperation (orders : OrderedMap String PaperOrder)
    (comboOrders : OrderedMap String PaperComboOrder)
    (persisted : PersistentOperation) : Result OrderOperation := do
  let action ← parseOrderOperationAction persisted.action
  refuseIf (persisted.subject ∉ orders ∧ persisted.subject ∉ comboOrders)
    "persisted order operation names an unknown order"
  validateCanonicalId "persisted order operator" persisted.operator
  validateUtcTimestamp "persisted order operation time" persisted.operatedAt
  pure ⟨persisted.subject, action, persisted.operator, persisted.operatedAt⟩

/-! ## Recovery of reconciliation -/

def restoreIncident (incidentId : String) (persisted : PersistentIncident) :
    Result ReconciliationIncident := do
  validateCanonicalId "persisted incident_id" incidentId
  refuseIf (persisted.category.isEmpty = true ∨
      persisted.subject.isEmpty = true ∨ persisted.detail.isEmpty = true)
    "persisted reconciliation incident is invalid"
  pure
    { issue :=
        ⟨incidentId, persisted.category, persisted.subject, persisted.detail⟩
      explanation := persisted.explanation }

def checkPaperDay (config : Configuration)
    (entry : String × PersistentPaperDay) : Result Unit := do
  validateExchangeDate entry.1
  validateCanonicalId "persisted paper calendar_id" entry.2.calendarId
  refuseIf (entry.2.calendarId ≠ config.riskPolicy.tradingCalendarId)
    "persisted paper-day calendar does not match supplied policy"
  TradingSession.validate
    ⟨entry.1, entry.2.sessionOpensAt, entry.2.sessionClosesAt⟩

def checkReconciledAt : Option String → Option Bool → Result Unit
  | some reconciledAt, clean => do
    validateUtcTimestamp "persisted last reconciliation time" reconciledAt
    refuseIf (clean = none)
      "persisted last reconciliation has no cleanliness result"
  | none, clean =>
    refuseIf (clean ≠ none)
      "persisted reconciliation cleanliness has no timestamp"

def restoreReport : Option PersistentReconciliationReport →
    Result (Option ReconciliationReport)
  | none => pure none
  | some persisted => do
    let report ← persisted.toReport
    pure (some report)

def inconsistentEvidence : PaperError :=
  ⟨"persisted paper reconciliation evidence is inconsistent"⟩

def checkLatest : Option ReconciliationReport → Option String → Option Bool → Result Unit
  | some report, some reconciledAt, some clean =>
    refuseIf (report.reconciledAt ≠ reconciledAt ∨ report.isClean ≠ clean)
      inconsistentEvidence.message
  | none, none, none => pure ()
  | none, some _, some _ => pure ()
  | _, _, _ => .error inconsistentEvidence

def reconciliationIdFor (number : Nat) : String := "reconciliation-" ++ eightDigits number

def checkReportIdentity (nextReconciliation : Nat) :
    Option ReconciliationReport → Result Unit
  | some report =>
    refuseIf (report.reconciliationId ≠ reconciliationIdFor (nextReconciliation - 1))
      "persisted latest paper reconciliation identity is invalid"
  | none => pure ()

/-! ## Recovery of a snapshot -/

structure Recovered where
  books : Books
  marks : OrderedMap String Decimal
  (peakEquity dailyBaselineEquity : Option Decimal)
  evidence : EvidenceRecord
  operators : OperatorRecord
  incidents : OrderedMap String ReconciliationIncident
  latestReconciliation : Option ReconciliationReport

def recover (config : Configuration) (killSwitchVersion : String)
    (cash : Decimal) (state : PersistentPaperState) : Result Recovered := do
  let orders ← OrderedMap.traverse config.restoreOrder state.orders
  let riskEvidence ←
    OrderedMap.traverse config.restoreEvidence state.riskEvidence
  checkAll (matchEvidence riskEvidence) orders.values
  let comboOrders ←
    OrderedMap.traverse config.restoreCombo state.comboOrders
  let comboRiskEvidence ←
    OrderedMap.traverse config.restoreComboEvidence state.comboRiskEvidence
  checkAll (matchComboEvidence comboRiskEvidence) comboOrders.values
  let portfolios ← OrderedMap.traverse config.restorePosition state.positions
  let taxLots ← config.restoreTaxLots state.taxLots
  let executionIds ← restoreExecutionIds ∅ state.executionIds
  checkReceipts executionIds [] (allReceiptIds comboOrders)
  let marks ← OrderedMap.traverse restoreMark state.marks
  let strategyAttribution ←
    OrderedMap.traverse restoreStrategies state.strategyAttribution
  let peakEquity ← restorePeak state.peakEquity
  let dailyBaselineEquity ← PersistentIntent.parseOptional
    "persisted daily-loss baseline equity" state.dailyBaselineEquity
  checkBaseline state.dailyBaselineDate dailyBaselineEquity
  let registry ← KillSwitchRegistry.new killSwitchVersion
  let killSwitches ← restoreSwitches registry state.activeKillSwitches
  let killSwitchOperations ←
    collect restoreKillSwitchOperation state.killSwitchOperations
  let incidents ← OrderedMap.traverse restoreIncident state.incidents
  checkAll config.checkPaperDay state.paperDays.toList
  checkReconciledAt state.lastReconciledAt state.lastReconciliationClean
  refuseIf (state.nextReconciliation = 0)
    "persisted reconciliation sequence is invalid"
  let latestReconciliation ← restoreReport state.latestReconciliation
  checkLatest latestReconciliation state.lastReconciledAt
    state.lastReconciliationClean
  checkReportIdentity state.nextReconciliation latestReconciliation
  let orderOperations ←
    collect (restoreOrderOperation orders comboOrders) state.orderOperations
  let corporateActions ← restoreCorporateActions [] state.corporateActions
  pure
    { books := ⟨orders, comboOrders, portfolios, taxLots, strategyAttribution,
        executionIds, cash⟩
      marks, peakEquity, dailyBaselineEquity
      evidence := ⟨riskEvidence, comboRiskEvidence⟩
      operators := ⟨killSwitches, killSwitchOperations, orderOperations, corporateActions⟩
      incidents, latestReconciliation }

end Configuration

namespace ServiceRecord

def install (recovered : Configuration.Recovered)
    (state : PersistentPaperState) (s : ServiceRecord) : ServiceRecord :=
  { s with
    toBooks := recovered.books, toEvidenceRecord := recovered.evidence
    toOperatorRecord := recovered.operators
    toReconciliationRecord :=
      ⟨recovered.incidents, state.lastReconciledAt, state.lastReconciliationClean,
        recovered.latestReconciliation, state.paperDays, state.nextReconciliation⟩
    marks := recovered.marks }

def installValues (recovered : Configuration.Recovered)
    (state : PersistentPaperState) (equity : Decimal) (s : ServiceRecord) :
    ServiceRecord :=
  { s with
    peakEquity := (recovered.peakEquity.getD equity).max equity
    dailyBaselineDate := state.dailyBaselineDate
    dailyBaselineEquity := recovered.dailyBaselineEquity.getD Decimal.zero }

def setCash (cash : Decimal) (s : ServiceRecord) : ServiceRecord := { s with cash }

end ServiceRecord

namespace PaperTradingService

variable {B : Type} [PaperBrokerAdapter B] [ContentHash]

def setSession (connected : Bool) (s : PaperTradingService B) : PaperTradingService B :=
  { s with brokerConnected := connected }

def restore (state : PersistentPaperState) : PaperM B Unit := do
  let s ← Fallible.read
  lift (refuseIf (state.accountId ≠ s.account.accountId ∨
      state.currency ≠ s.account.currency)
    "paper journal account or currency does not match supplied configuration")
  lift (refuseIf (state.configurationFingerprint ≠ s.configurationFingerprint)
    "paper journal configuration fingerprint does not match supplied configuration")
  let cash ← lift (decimal "journal cash" state.cash)
  update (edit (ServiceRecord.setCash cash))
  let recovered ← lift
    (s.toConfiguration.recover s.killSwitches.version cash state)
  update (edit (ServiceRecord.install recovered state))
  update (setSession state.brokerConnected)
  let s ← Fallible.read
  let equity ← lift s.equity
  update (edit (ServiceRecord.installValues recovered state equity))

def recoverFrom (state : PersistentPaperState) : PaperM B Unit := do
  restore state
  update (setSession false)

def journaled (records : List PersistentPaperState) : List Effect :=
  records.map .journaled

def attachJournal (journal : FilePaperJournal) : PaperM B Unit := do
  update fun s =>
    { s with journal := some journal, effects := journaled journal.records }
  match journal.latest with
  | some _ => pure ()
  | none => persist

def openFrom (journal : FilePaperJournal) : PaperM B Unit := do
  match journal.latest with
  | some state => do
    recoverFrom state
    attachJournal journal
  | none => attachJournal journal

def openJournal (broker : B) (accountId : String)
    (journal : FilePaperJournal) : Result Unit := do
  refuseIf (journal.torn = true) "invalid paper journal line"
  refuseIf (PaperBrokerAdapter.permitsEmptyJournal broker accountId = false ∧
      journal.records = [])
    "legacy PAPER adapter routing may only reopen an existing journal"

def openDurable (account : PaperAccount) (riskPolicy : PaperRiskPolicy)
    (killSwitches : KillSwitchRegistry) (broker : B)
    (journal : FilePaperJournal) : Result (PaperTradingService B) := do
  let service ← new account riskPolicy killSwitches broker
  openJournal broker account.accountId journal
  match (openFrom journal).run service with
  | (.ok (), opened) => .ok opened
  | (.error e, _) => .error e

end PaperTradingService

end Follon.Paper
