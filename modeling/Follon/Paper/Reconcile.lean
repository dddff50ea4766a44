import Follon.Paper.Commands

/-!
# Synchronization and reconciliation

Polling drains the broker's evidence, so each event applies completely or is
rolled back alone and the rest of the batch still applies.  Reconciliation
then compares the books with an independent broker snapshot.
-/

namespace Follon.Paper

open Foundation Domain ControlPlane Accounting

/-! ## Rollback -/

namespace PaperComboOrder

def noteAnomaly (error : String) : ComboM Unit := do
  update fun order : PaperComboOrder =>
    { order with evidenceError := some error }
  let order ← Fallible.read
  if order.oms.state ≠ .unknown ∧ order.oms.state ≠ .filled then
    move .unknown "COMBINATION_EXECUTION_ANOMALY"
  else
    pure ()

end PaperComboOrder

def Books.applyOrRollback (config : Configuration) (event : BrokerEvent) :
    BooksM (Result Unit) :=
  fun books =>
    match (Books.applyBrokerEvent config event).run books with
    | (.ok (), applied) => (.ok (.ok ()), applied)
    | (.error error, _) => (.ok (.error error), books)

/-! ## Differences -/

structure RawIssue where
  (category subject detail : String)
  deriving DecidableEq

/-- What reconciliation compares of an order of either kind. -/
structure OrderView where
  orderId : String
  working : Bool
  brokerOrderId : Option String
  versions : List String
  filledQuantity : Decimal
  state : OrderState
  deriving DecidableEq

def plainView (entry : String × PaperOrder) : OrderView :=
  ⟨entry.1, entry.2.working, entry.2.brokerOrderId,
    entry.2.brokerOrderVersions, entry.2.filledQuantity, entry.2.oms.state⟩

def comboView (entry : String × PaperComboOrder) : OrderView :=
  ⟨entry.1, entry.2.working, entry.2.brokerOrderId,
    entry.2.brokerOrderVersions, entry.2.filledQuantity, entry.2.oms.state⟩

def issueIf (condition : Prop) [Decidable condition]
    (category subject detail : String) : List RawIssue :=
  if condition then [⟨category, subject, detail⟩] else []

/-- `{:?}` of an optional identity without characters to escape. -/
def debugId : Option String → String
  | some id => "Some(\"" ++ id ++ "\")"
  | none => "None"

def addFilled (total : Decimal) (order : BrokerOrderSnapshot) : Result Decimal :=
  total.checkedAdd order.filledQuantity

def stateIssues (view : OrderView) : Option BrokerOrderSnapshot → List RawIssue
  | some broker =>
    issueIf (view.state ≠ broker.state) "ORDER_STATE_MISMATCH" view.orderId
      ("internal=" ++ view.state.asStr ++ ",broker=" ++ broker.state.asStr)
  | none => []

def currentRow (view : OrderView) (brokers : List BrokerOrderSnapshot) :
    Option BrokerOrderSnapshot :=
  view.brokerOrderId.bind fun current =>
    brokers.find? fun candidate => candidate.brokerOrderId == current

def orderIssues (orders : List BrokerOrderSnapshot) (view : OrderView) :
    Result (List RawIssue) :=
  match orders.filter (·.clientOrderId == view.orderId) with
  | [] =>
    pure (issueIf (view.working = true) "MISSING_BROKER_ORDER" view.orderId
      "internal working order is absent from broker snapshot")
  | brokers => do
    let brokerFilled ← brokers.foldlM addFilled Decimal.zero
    pure
      (issueIf (currentRow view brokers = none) "BROKER_ORDER_ID_MISMATCH" view.orderId
          ("internal_current=" ++ debugId view.brokerOrderId ++ ",broker_versions=" ++
            joinWith "," (brokers.map (·.brokerOrderId))) ++
        issueIf (brokers.any (fun candidate =>
            decide (candidate.brokerOrderId ∉ view.versions)) = true)
          "BROKER_ORDER_VERSION_MISMATCH" view.orderId
          "broker snapshot includes an unrecognized broker order version" ++
        issueIf (view.filledQuantity ≠ brokerFilled)
          "FILLED_QUANTITY_MISMATCH" view.orderId
          ("internal=" ++ view.filledQuantity.display ++ ",broker=" ++
            brokerFilled.display) ++
        stateIssues view (currentRow view brokers))

def anomalyIssues (entry : String × PaperComboOrder) : List RawIssue :=
  match entry.2.evidenceError with
  | some error => [⟨"COMBINATION_EXECUTION_ANOMALY", entry.1, error⟩]
  | none => []

def brokerPositions (snapshot : BrokerAccountSnapshot) : OrderedMap String Decimal :=
  snapshot.positions.foldl
    (fun positions position =>
      positions.insert position.instrumentId position.quantity) ∅

/-- An unexplained incident of the same difference keeps its identity. -/
def existingIncident (incidents : OrderedMap String ReconciliationIncident)
    (raw : RawIssue) : Option String :=
  (incidents.values.find? fun incident =>
    incident.issue.category == raw.category && incident.issue.subject == raw.subject &&
        incident.unexplained).map (·.issue.incidentId)

def incidentIdFor (number index : Nat) : String :=
  "incident-" ++ eightDigits number ++ "-" ++ String.ofList (zeroPadded 3 (index + 1))

/-- Gives each difference its incident and opens the new ones. -/
def openIncidents (number : Nat) :
    Nat → OrderedMap String ReconciliationIncident → List RawIssue →
    List ReconciliationIssue × OrderedMap String ReconciliationIncident
  | _, incidents, [] => ([], incidents)
  | index, incidents, raw :: raws =>
    let incidentId := (existingIncident incidents raw).getD (incidentIdFor number index)
    let issue : ReconciliationIssue := ⟨incidentId, raw.category, raw.subject, raw.detail⟩
    let opened :=
      if incidentId ∈ incidents then incidents
      else incidents.insert incidentId ⟨issue, none⟩
    let (issues, final) := openIncidents number (index + 1) opened raws
    (issue :: issues, final)

structure TradingCalendar where
  calendarId : String
  sessionForExchangeDate : String → Option TradingSession

def paperDayOf (paperSession : PaperTradingSession) : PersistentPaperDay :=
  ⟨paperSession.calendarId, paperSession.session.opensAt,
    paperSession.session.closesAt, true⟩

namespace ServiceRecord

def orderViews (s : ServiceRecord) : List OrderView :=
  s.orders.toList.map plainView ++ s.comboOrders.toList.map comboView

def unexpectedIssues (s : ServiceRecord) (broker : BrokerOrderSnapshot) : List RawIssue :=
  issueIf (broker.clientOrderId ∉ s.orders ∧ broker.clientOrderId ∉ s.comboOrders)
    "UNEXPECTED_BROKER_ORDER" broker.clientOrderId
    "broker snapshot contains no matching internal order"

def comparedInstruments (s : ServiceRecord)
    (positions : OrderedMap String Decimal) : List String :=
  (Configuration.asSet (s.portfolios.keys ++ positions.keys)).toList

def positionIssues (s : ServiceRecord)
    (positions : OrderedMap String Decimal) (instrumentId : String) : List RawIssue :=
  let internal := s.heldQuantity instrumentId
  let broker := positions[instrumentId]?.getD Decimal.zero
  issueIf (internal ≠ broker) "POSITION_QUANTITY_MISMATCH" instrumentId
    ("internal=" ++ internal.display ++ ",broker=" ++ broker.display)

def cashIssues (s : ServiceRecord) (cash : Decimal) : List RawIssue :=
  issueIf (s.cash ≠ cash) "CASH_MISMATCH" s.account.accountId
    ("internal=" ++ s.cash.display ++ ",broker=" ++ cash.display)

/-- Every difference between the books and the broker's snapshot. -/
def rawIssues (s : ServiceRecord) (snapshot : BrokerAccountSnapshot) :
    Result (List RawIssue) := do
  let orders ← collect (orderIssues snapshot.orders) s.orderViews
  let positions := brokerPositions snapshot
  pure
    (orders.flatten ++ snapshot.orders.flatMap s.unexpectedIssues ++
      s.comboOrders.toList.flatMap anomalyIssues ++
      (s.comparedInstruments positions).flatMap (s.positionIssues positions) ++
      s.cashIssues snapshot.cash)

def countReconciliation (s : ServiceRecord) : ServiceRecord :=
  { s with nextReconciliation := s.nextReconciliation + 1 }

def recordReport (report : ReconciliationReport)
    (incidents : OrderedMap String ReconciliationIncident)
    (s : ServiceRecord) : ServiceRecord :=
  { s with
    incidents
    lastReconciledAt := some report.reconciledAt
    lastReconciliationClean := some report.isClean
    latestReconciliation := some report }

def explained (incidentId explanation : String) (s : ServiceRecord) : ServiceRecord :=
  { s with incidents := OrderedMap.adjust s.incidents incidentId fun incident =>
      { incident with explanation := some explanation } }

def noteDay (exchangeDate : String) (day : PersistentPaperDay)
    (s : ServiceRecord) : ServiceRecord :=
  { s with paperDays := s.paperDays.insert exchangeDate day }

end ServiceRecord

namespace PaperTradingService

variable {B : Type} [PaperBrokerAdapter B] [ContentHash]

/-! ## Synchronization -/

def recordAnomaly (orderId : String) (error : PaperError) : PaperM B Unit := do
  let s ← Fallible.read
  if orderId ∈ s.comboOrders then do
    onBooks (Books.onCombo orderId (PaperComboOrder.noteAnomaly error.message))
    persist
  else
    pure ()

def applyPolled (event : BrokerEvent) : PaperM B (List String) := do
  let s ← Fallible.read
  let applied ← onBooks (Books.applyOrRollback s.toConfiguration event)
  match applied with
  | .ok () => do
    persist
    pure []
  | .error error => do
    recordAnomaly event.clientOrderId error
    pure [error.message]

def applyBatch : List BrokerEvent → PaperM B (List String)
  | [] => pure []
  | event :: events => do
    let failed ← applyPolled event
    let rest ← applyBatch events
    pure (failed ++ rest)

def query {α : Type} (ask : B → Result α × B) : PaperM B (Result α) :=
  fun s => (.ok (ask s.broker).1, { s with broker := (ask s.broker).2 })

def loseSession {α : Type} (error : PaperError) : PaperM B α := do
  update (setSession false)
  persist
  Fallible.fail error

def failedBatch (failed : List String) (count : Nat) : PaperError :=
  ⟨"paper broker synchronize failed to apply " ++ toString failed.length ++
    " of " ++ toString count ++ " broker events (each rolled back cleanly): " ++
    joinWith "; " failed⟩

def synchronize : PaperM B Nat := do
  let s ← Fallible.read
  lift s.ensurePersistenceHealthy
  lift (refuseIf (s.brokerConnected = false) "paper broker session is disconnected")
  let polled ← query (PaperBrokerAdapter.poll · s.account.accountId)
  match polled with
  | .error error => loseSession error
  | .ok events => do
    let failed ← applyBatch events
    if failed.isEmpty = false then
      Fallible.fail (failedBatch failed events.length)
    else
      pure events.length

/-! ## Reconciliation -/

def recordComparison (reconciledAt : String)
    (snapshot : BrokerAccountSnapshot) : PaperM B ReconciliationReport := do
  let s ← Fallible.read
  let number := s.nextReconciliation
  update (edit ServiceRecord.countReconciliation)
  let raws ← lift (s.rawIssues snapshot)
  let (issues, incidents) := openIncidents number 0 s.incidents raws
  let report : ReconciliationReport :=
    ⟨Configuration.reconciliationIdFor number, reconciledAt, issues⟩
  update (edit (ServiceRecord.recordReport report incidents))
  persist
  pure report

def reconcile (reconciledAt : String) : PaperM B ReconciliationReport := do
  let s ← Fallible.read
  lift s.ensurePersistenceHealthy
  lift
    (validateUtcTimestamp "paper reconciliation time" reconciledAt)
  lift (refuseIf (s.brokerConnected = false)
    "paper broker session is disconnected; reconnect before reconciliation")
  let observed ← query (PaperBrokerAdapter.snapshot · s.account.accountId)
  match observed with
  | .error error => loseSession error
  | .ok snapshot => do
    lift (validateBrokerSnapshot snapshot)
    recordComparison reconciledAt snapshot

def reconnectAndReconcile (reconciledAt : String) : PaperM B ReconciliationReport := do
  let s ← Fallible.read
  lift s.ensurePersistenceHealthy
  let reply ← query (PaperBrokerAdapter.reconnect · s.account.accountId)
  match reply with
  | .error error => loseSession error
  | .ok () => do
    update (setSession true)
    let _ ← synchronize
    reconcile reconciledAt

/-! ## Incidents and paper sessions -/

def explainIncident (incidentId explanation : String) : PaperM B Unit := do
  let s ← Fallible.read
  lift s.ensurePersistenceHealthy
  lift (validateCanonicalId "incident_id" incidentId)
  lift (refuseIf (isBrokerReason explanation = false)
    "incident explanation must contain 1 to 1024 characters")
  lift (refuseIf (incidentId ∉ s.incidents) "unknown reconciliation incident")
  update (edit (ServiceRecord.explained incidentId explanation))
  persist

def admitPaperSession (s : PaperTradingService B)
    (paperSession : PaperTradingSession) (report : ReconciliationReport)
    (calendar : TradingCalendar) : Result Unit := do
  s.ensurePersistenceHealthy
  paperSession.validate
  refuseIf (calendar.calendarId ≠ s.riskPolicy.tradingCalendarId ∨
      calendar.calendarId ≠ paperSession.calendarId ∨
      calendar.sessionForExchangeDate paperSession.session.exchangeDate
        ≠ some paperSession.session)
    "paper-day gate requires the exact session from the configured calendar"
  refuseIf (paperSession.calendarId ≠ s.riskPolicy.tradingCalendarId)
    "paper-session calendar does not match the configured paper calendar"
  refuseIf (s.nextReconciliation = 0)
    "paper-session gate has no completed reconciliation"
  refuseIf (s.lastReconciledAt ≠ some report.reconciledAt ∨
      s.lastReconciliationClean ≠ some report.isClean ∨
      s.latestReconciliation ≠ some report ∨
      report.reconciliationId
        ≠ Configuration.reconciliationIdFor (s.nextReconciliation - 1) ∨
      report.isClean = false)
    "paper-session gate requires the latest actual reconciliation report"
  refuseIf (report.reconciledAt < paperSession.session.closesAt)
    "paper-session reconciliation must occur at or after the session close"
  refuseIf (s.unexplainedIncidentCount ≠ 0)
    "paper-session gate refuses unresolved reconciliation incidents"

def recordPaperSession (paperSession : PaperTradingSession)
    (report : ReconciliationReport) (calendar : TradingCalendar) : PaperM B Unit := do
  let s ← Fallible.read
  lift (s.admitPaperSession paperSession report calendar)
  let exchangeDate := paperSession.session.exchangeDate
  match s.paperDays[exchangeDate]? with
  | some existing =>
    lift (refuseIf (existing ≠ paperDayOf paperSession)
      "paper-session gate record cannot be overwritten with conflicting evidence")
  | none => do
    update (edit (ServiceRecord.noteDay exchangeDate (paperDayOf paperSession)))
    persist

end PaperTradingService

end Follon.Paper
