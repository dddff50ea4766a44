import Follon.Paper.Operations

/-!
# What an operation writes

Every write an operation makes to the record, with what the operation checked
before it.  `Edit` lists the writes an operation journals, together with the
broker command they prepare, and `Observed` the ones it does not journal.
-/

namespace Follon.Paper

open Foundation Domain ControlPlane Accounting

/-! ## Order moves -/

namespace PaperOrder

def inState (order : PaperOrder) (state : OrderState) : PaperOrder :=
  { order with oms := { order.oms with state } }

def replacing (order : PaperOrder) : PaperOrder :=
  { order.inState .pendingReplace with
    replaceReturnState := some order.oms.state }

structure Fresh (order : PaperOrder) : Prop where
  brokerOrderId : order.brokerOrderId = none
  versions : order.brokerOrderVersions = []
  returnState : order.replaceReturnState = none
  filled : order.filledQuantity = Decimal.zero

end PaperOrder

namespace PaperComboOrder

def inState (order : PaperComboOrder) (state : OrderState) : PaperComboOrder :=
  { order with oms := { order.oms with state } }

structure Fresh (order : PaperComboOrder) : Prop where
  brokerOrderId : order.brokerOrderId = none
  versions : order.brokerOrderVersions = []
  filled : order.filledQuantity = Decimal.zero
  executions : order.executions = ∅
  evidenceError : order.evidenceError = none

end PaperComboOrder

def isPendingState : OrderState → Bool
  | .pendingSubmit | .pendingCancel | .pendingReplace => true
  | _ => false

inductive OrderMove (order : PaperOrder) : PaperOrder → Prop
  | accepted {brokerOrderId : String}
      (hstate : order.oms.state = .pendingSubmit) (hfresh : order.Fresh)
      (hid : isCanonicalId brokerOrderId = true) :
      OrderMove order
        ((order.inState .acknowledged).adoptBrokerId brokerOrderId)
  | rejected (hstate : order.oms.state = .pendingSubmit)
      (hfresh : order.Fresh) : OrderMove order (order.inState .rejected)
  | lost (hstate : isPendingState order.oms.state = true) :
      OrderMove order (order.inState .unknown)

inductive ComboMove (order : PaperComboOrder) : PaperComboOrder → Prop
  | accepted {brokerOrderId : String}
      (hstate : order.oms.state = .pendingSubmit) (hfresh : order.Fresh)
      (hid : isCanonicalId brokerOrderId = true) :
      ComboMove order
        ((order.inState .acknowledged).adoptBrokerId brokerOrderId)
  | rejected (hstate : order.oms.state = .pendingSubmit)
      (hfresh : order.Fresh) : ComboMove order (order.inState .rejected)
  | lost (hstate : isPendingState order.oms.state = true) :
      ComboMove order (order.inState .unknown)

/-! ## Checked inputs -/

structure AdmittedIntent (config : Configuration) (intent : OrderIntent)
    (market : PaperMarketData) (decidedAt : String)
    (submittedBy : Option String) : Prop where
  submitter : validateSubmitter "paper order submitted_by" submittedBy = .ok ()
  validIntent : intent.validate = .ok ()
  validDecidedAt : isUtcTimestamp decidedAt = true
  validMarket : market.validate = .ok ()
  environment : intent.environment = "PAPER"
  account : intent.accountId = config.account.accountId
  instrument : market.instrumentId = intent.instrumentId

structure AdmittedCombo (config : Configuration) (intent : ComboIntent)
    (market : PaperComboMarketData) (decidedAt : String)
    (submittedBy : Option String) : Prop where
  submitter : validateSubmitter "paper combo submitted_by" submittedBy = .ok ()
  validIntent : intent.validate = .ok ()
  validDecidedAt : isUtcTimestamp decidedAt = true
  validMarket : market.validateFor intent = .ok ()
  environment : intent.environment = "PAPER"
  account : intent.accountId = config.account.accountId
  whole : BrokerComboExecution.isWhole intent.comboQuantity = true

structure AttributedTo (orderId : String) (operation : OrderOperation) :
    Prop where
  order : operation.orderId = orderId
  operator : isCanonicalId operation.operator = true
  operatedAt : isUtcTimestamp operation.operatedAt = true

structure AdmittedAction (s : ServiceRecord)
    (request : PaperCorporateAction) : Prop where
  action : request.action.validate = .ok ()
  appliedBy : isCanonicalId request.appliedBy = true
  appliedAt : isUtcTimestamp request.appliedAt = true
  effective : ¬request.appliedAt < request.action.effectiveAt
  unapplied : (s.corporateActions.find? fun receipt =>
    receipt.action.actionId == request.action.actionId) = none

namespace ServiceRecord

def Decides (s : ServiceRecord) (intent : OrderIntent)
    (market : PaperMarketData) (decidedAt : String) (decision : RiskDecision) : Prop :=
  ∃ equity, s.riskDecision intent market decidedAt equity = .ok decision

def DecidesCombo (s : ServiceRecord) (intent : ComboIntent)
    (market : PaperComboMarketData) (decidedAt : String)
    (decision : RiskDecision) : Prop :=
  ∃ equity, s.comboRiskDecision intent market decidedAt equity = .ok decision

def compared (s : ServiceRecord) (reconciledAt : String)
    (raws : List RawIssue) : ServiceRecord :=
  let opened := openIncidents s.nextReconciliation 0 s.incidents raws
  s.countReconciliation.recordReport
    ⟨Configuration.reconciliationIdFor s.nextReconciliation, reconciledAt,
      opened.1⟩ opened.2

def putOrder (orderId : String) (order : PaperOrder) (s : ServiceRecord) :
    ServiceRecord :=
  s.setBooks (s.toBooks.putOrder orderId order)

def putCombo (orderId : String) (order : PaperComboOrder)
    (s : ServiceRecord) : ServiceRecord :=
  s.setBooks (s.toBooks.putCombo orderId order)

end ServiceRecord

/-! ## Journaled writes -/

/-- What an operation may write: the events it delivers, the decisions it
records and the corporate actions it applies, each judged at the record it
finds. -/
structure Allowance where
  event : ServiceRecord → BrokerEvent → Prop
  decision : ServiceRecord → OrderIntent → Prop
  comboDecision : ServiceRecord → ComboIntent → Prop
  action : ServiceRecord → PaperCorporateAction → Prop

def Allowance.all : Allowance :=
  ⟨fun _ _ => True, fun _ _ => True, fun _ _ => True, fun _ _ => True⟩

inductive Edit (may : Allowance) (s : ServiceRecord) :
    Option BrokerCommand → ServiceRecord → Prop
  | refused {intent : OrderIntent} {market : PaperMarketData}
      {decidedAt : String} {submittedBy : Option String}
      {decision : RiskDecision}
      (admitted : AdmittedIntent s.toConfiguration intent market decidedAt submittedBy)
      (decides : s.Decides intent market decidedAt decision)
      (hnew : s.orders[OmsOrder.orderIdFor intent.intentId]? = none)
      (hrefused : decision.approved = false) (hmay : may.decision s intent) :
      Edit may s none (s.recordEvidence ⟨intent, decision, market, submittedBy⟩)
  | created {intent : OrderIntent} {market : PaperMarketData}
      {decidedAt : String} {submittedBy : Option String}
      {decision : RiskDecision} {order : PaperOrder}
      (admitted : AdmittedIntent s.toConfiguration intent market decidedAt submittedBy)
      (decides : s.Decides intent market decidedAt decision)
      (hnew : s.orders[OmsOrder.orderIdFor intent.intentId]? = none)
      (horder : pendingOrder intent decision market = .ok order)
      (hmay : may.decision s intent) :
      Edit may s (some (.submit (BrokerOrderRequest.fromOrder order.oms)))
        (s.recordOrder order ⟨intent, decision, market, submittedBy⟩)
  | comboRefused {intent : ComboIntent} {market : PaperComboMarketData}
      {decidedAt : String} {submittedBy : Option String}
      {decision : RiskDecision}
      (admitted : AdmittedCombo s.toConfiguration intent market decidedAt submittedBy)
      (decides : s.DecidesCombo intent market decidedAt decision)
      (hnew : s.comboOrders[OmsComboOrder.orderIdFor intent.intentId]? = none)
      (hrefused : decision.approved = false)
      (hmay : may.comboDecision s intent) :
      Edit may s none
        (s.recordComboEvidence ⟨intent, decision, market, submittedBy⟩)
  | comboCreated {intent : ComboIntent} {market : PaperComboMarketData}
      {decidedAt : String} {submittedBy : Option String}
      {decision : RiskDecision} {order : PaperComboOrder}
      {request : BrokerComboRequest}
      (admitted : AdmittedCombo s.toConfiguration intent market decidedAt submittedBy)
      (decides : s.DecidesCombo intent market decidedAt decision)
      (hnew : s.comboOrders[OmsComboOrder.orderIdFor intent.intentId]? = none)
      (horder : pendingCombo intent decision market = .ok (order, request))
      (hmay : may.comboDecision s intent) :
      Edit may s (some (.submitCombo request))
        (s.recordCombo order ⟨intent, decision, market, submittedBy⟩)
  | moved {orderId : String} {order order' : PaperOrder}
      (hfind : s.orders[orderId]? = some order)
      (hmove : OrderMove order order') :
      Edit may s none (s.putOrder orderId order')
  | comboMoved {orderId : String} {order order' : PaperComboOrder}
      (hfind : s.comboOrders[orderId]? = some order)
      (hmove : ComboMove order order') :
      Edit may s none (s.putCombo orderId order')
  | cancelling {orderId : String} {order : PaperOrder}
      {operation : Option OrderOperation}
      (hplain : orderId ∉ s.comboOrders)
      (hfind : s.orders[orderId]? = some order)
      (hstate : isWorkingState order.oms.state = true)
      (hoperation : ∀ op ∈ operation, AttributedTo orderId op) :
      Edit may s (some (.cancel (s.cancelRequestFor orderId)))
        ((s.putOrder orderId (order.inState .pendingCancel)).noteOperation operation)
  | comboCancelling {orderId : String} {order : PaperComboOrder}
      {operation : Option OrderOperation}
      (hfind : s.comboOrders[orderId]? = some order)
      (hstate : isWorkingState order.oms.state = true)
      (hclean : order.evidenceError = none)
      (hoperation : ∀ op ∈ operation, AttributedTo orderId op) :
      Edit may s (some (.cancel (s.cancelRequestFor orderId)))
        ((s.putCombo orderId (order.inState .pendingCancel)).noteOperation operation)
  | applied {event : BrokerEvent} {books : Books}
      (happly : (Books.applyBrokerEvent s.toConfiguration event).run s.toBooks
        = (.ok (), books))
      (hmay : may.event s event) :
      Edit may s none (s.setBooks books)
  | flagged {orderId : String} {order order' : PaperComboOrder}
      {error : PaperError}
      (hfind : s.comboOrders[orderId]? = some order)
      (hnote : (PaperComboOrder.noteAnomaly error.message).run order = (.ok (), order')) :
      Edit may s none (s.putCombo orderId order')
  | switched {scope : KillSwitchScope} {action : KillSwitchAction}
      {changed : Bool} {registry : KillSwitchRegistry}
      (houtcome : switchOutcome s.killSwitches scope action = .ok (changed, registry)) :
      Edit may s none (s.setSwitches registry)
  | operated {scope : KillSwitchScope} {action : KillSwitchAction}
      {registry : KillSwitchRegistry} {operator operatedAt : String}
      (hscope : scope.validate = .ok ())
      (hoperator : isCanonicalId operator = true)
      (hoperatedAt : isUtcTimestamp operatedAt = true)
      (houtcome : switchOutcome s.killSwitches scope action = .ok (true, registry)) :
      Edit may s none ((s.setSwitches registry).noteSwitch true
        ⟨scope.asKey, action, operator, operatedAt⟩)
  | acted {request : PaperCorporateAction} {after : ServiceRecord}
      {receipt : PaperCorporateActionReceipt}
      (admitted : AdmittedAction s request)
      (heffect : s.takeEffect request
        (s.heldQuantity request.action.instrumentId) = .ok (after, receipt))
      (hmay : may.action s request) :
      Edit may s none (after.noteReceipt receipt)
  | reported {reconciledAt : String} {snapshot : BrokerAccountSnapshot}
      {raws : List RawIssue}
      (hreconciledAt : isUtcTimestamp reconciledAt = true)
      (hsnapshot : validateBrokerSnapshot snapshot = .ok ())
      (hraws : s.rawIssues snapshot = .ok raws) :
      Edit may s none (s.compared reconciledAt raws)
  | explained {incidentId explanation : String}
      (hexplanation : isBrokerReason explanation = true)
      (hincident : incidentId ∈ s.incidents) :
      Edit may s none (s.explained incidentId explanation)
  | dayNoted {paperSession : PaperTradingSession}
      (hsession : paperSession.validate = .ok ())
      (hcalendar : paperSession.calendarId = s.riskPolicy.tradingCalendarId)
      (hnew : s.paperDays[paperSession.session.exchangeDate]? = none) :
      Edit may s none (s.noteDay paperSession.session.exchangeDate
        (paperDayOf paperSession))

/-! ## Writes that are not journaled -/

inductive Observed (s : ServiceRecord) : ServiceRecord → Prop
  | cached {marks : List PaperMarketData}
      (hmarks : ∀ mark ∈ marks, mark.validate = .ok ()) :
      Observed s (s.cacheMarks marks)
  | noted {decidedAt : String} {equity : Decimal}
      (hdecidedAt : isUtcTimestamp decidedAt = true)
      (hequity : s.equity = .ok equity) :
      Observed s (s.noteEquity decidedAt equity)
  | counted : Observed s s.countReconciliation
  /-- The order of failed evidence has no way to `UNKNOWN`. -/
  | marked {orderId : String} {order : PaperComboOrder} {error : PaperError}
      (hfind : s.comboOrders[orderId]? = some order)
      (hstate : isValidTransition order.oms.state .unknown = false)
      (hopen : order.oms.state ≠ .unknown ∧ order.oms.state ≠ .filled) :
      Observed s (s.putCombo orderId
        { order with evidenceError := some error.message })

inductive Replacing (s : ServiceRecord) :
    BrokerReplaceRequest → ServiceRecord → Prop
  | begun {orderId : String} {order : PaperOrder} {price : Decimal}
      {request : BrokerReplaceRequest}
      (hfind : s.orders[orderId]? = some order)
      (hrequest : replaceRequestFor order price = .ok request) :
      Replacing s request (s.putOrder orderId order.replacing)

/-! ## Moving an order -/

variable {state : OrderState}

theorem isValidTransition_pendingCancel (h : isWorkingState state = true) :
    isValidTransition state .pendingCancel = true := by
  cases state <;> simp_all [isWorkingState] <;> rfl

theorem isValidTransition_pendingReplace (h : isWorkingState state = true) :
    isValidTransition state .pendingReplace = true := by
  cases state <;> simp_all [isWorkingState] <;> rfl

theorem isValidTransition_of_pending (h : isPendingState state = true) :
    isValidTransition state .unknown = true := by
  cases state <;> simp_all [isPendingState] <;> rfl

namespace PaperOrder

@[simp] theorem inState_inState (order : PaperOrder) (state state' : OrderState) :
    (order.inState state).inState state' = order.inState state' :=
  rfl

@[simp] theorem inState_state (order : PaperOrder) (state : OrderState) :
    (order.inState state).oms.state = state :=
  rfl

theorem move_ok {order : PaperOrder} {next : OrderState}
    (h : isValidTransition order.oms.state next = true) (reason : String) :
    (move next reason).run order = (.ok (), order.inState next) := by
  have htransition := OmsOrder.transition_eq_ok.mpr
    (⟨h, rfl, rfl⟩ : _ ∧ _ ∧ (_ : OrderStateChange) =
      ⟨_, _, next, reason⟩)
  simp [move, htransition, inState]

variable {order : PaperOrder}

theorem acceptSubmission_run (h : order.oms.state = .pendingSubmit)
    (brokerOrderId : String) : (acceptSubmission brokerOrderId).run order
      = (.ok .acknowledged,
        (order.inState .acknowledged).adoptBrokerId brokerOrderId) := by
  have hsubmitted : isValidTransition order.oms.state .submitted = true := by
    rw [h]
    rfl
  rw [acceptSubmission, run_bind_ok (move_ok hsubmitted _), run_bind_ok (move_ok rfl _)]
  rfl

theorem rejectSubmission_run (h : order.oms.state = .pendingSubmit)
    (reason : String) : (rejectSubmission reason).run order
      = (.ok .rejected, order.inState .rejected) := by
  have hsubmitted : isValidTransition order.oms.state .submitted = true := by
    rw [h]
    rfl
  rw [rejectSubmission, run_bind_ok (move_ok hsubmitted _), run_bind_ok (move_ok rfl _)]
  rfl

theorem move_unknown_run {order : PaperOrder}
    (h : isPendingState order.oms.state = true) (reason : String) :
    (move .unknown reason).run order = (.ok (), order.inState .unknown) :=
  move_ok (isValidTransition_of_pending h) reason

theorem loseSubmission_run (h : isPendingState order.oms.state = true)
    (reason : String) : (loseSubmission reason).run order
      = (.ok .unknown, order.inState .unknown) := by
  rw [loseSubmission, run_bind_ok (move_unknown_run h _)]
  rfl

theorem beginReplacement_run (h : isWorkingState order.oms.state = true) :
    beginReplacement.run order = (.ok (), order.replacing) := by
  rw [beginReplacement, run_update_bind, move_ok]
  · rfl
  · exact isValidTransition_pendingReplace h

theorem of_pendingOrder {intent : OrderIntent} {decision : RiskDecision}
    {market : PaperMarketData} (h : pendingOrder intent decision market = .ok order) :
    order.oms = ⟨OmsOrder.orderIdFor intent.intentId, intent, .pendingSubmit⟩ ∧
      order.Fresh ∧ order.market = market ∧ decision.approved = true := by
  simp only [pendingOrder, OmsOrder.fromApprovedIntent, bind_eq_ok, Prod.exists,
    refuseIf_eq_ok, OmsOrder.transition_eq_ok, pure_eq_ok] at h
  obtain ⟨oms, ⟨-, happroved, rfl⟩, _, -, ⟨-, rfl, -⟩, _, -, ⟨-, rfl, -⟩, rfl⟩ := h
  refine ⟨rfl, ⟨rfl, rfl, rfl, rfl⟩, rfl, ?_⟩
  simpa using fun hfalse => happroved (.inl hfalse)

end PaperOrder

namespace PaperComboOrder

@[simp] theorem inState_inState (order : PaperComboOrder) (state state' : OrderState) :
    (order.inState state).inState state' = order.inState state' :=
  rfl

@[simp] theorem inState_state (order : PaperComboOrder) (state : OrderState) :
    (order.inState state).oms.state = state :=
  rfl

theorem move_ok {order : PaperComboOrder} {next : OrderState}
    (h : isValidTransition order.oms.state next = true) (reason : String) :
    (move next reason).run order = (.ok (), order.inState next) := by
  have htransition := OmsComboOrder.transition_eq_ok.mpr
    (⟨h, rfl, rfl⟩ : _ ∧ _ ∧ (_ : OrderStateChange) =
      ⟨_, _, next, reason⟩)
  simp [move, htransition, inState]

theorem move_error {order : PaperComboOrder} {next : OrderState}
    (h : isValidTransition order.oms.state next = false) (reason : String) :
    ∃ e, (move next reason).run order = (.error e, order) := by
  cases htransition : order.oms.transition next reason with
  | ok moved =>
    have hvalid := (OmsComboOrder.transition_eq_ok.mp htransition).1
    rw [h] at hvalid
    contradiction
  | error e => exact ⟨e, by simp [move, htransition]⟩

variable {order : PaperComboOrder}

theorem acceptSubmission_run (h : order.oms.state = .pendingSubmit)
    (brokerOrderId : String) : (acceptSubmission brokerOrderId).run order
      = (.ok .acknowledged,
        (order.inState .acknowledged).adoptBrokerId brokerOrderId) := by
  have hsubmitted : isValidTransition order.oms.state .submitted = true := by
    rw [h]
    rfl
  rw [acceptSubmission, run_bind_ok (move_ok hsubmitted _), run_bind_ok (move_ok rfl _)]
  rfl

theorem rejectSubmission_run (h : order.oms.state = .pendingSubmit)
    (reason : String) : (rejectSubmission reason).run order
      = (.ok .rejected, order.inState .rejected) := by
  have hsubmitted : isValidTransition order.oms.state .submitted = true := by
    rw [h]
    rfl
  rw [rejectSubmission, run_bind_ok (move_ok hsubmitted _), run_bind_ok (move_ok rfl _)]
  rfl

theorem move_unknown_run {order : PaperComboOrder}
    (h : isPendingState order.oms.state = true) (reason : String) :
    (move .unknown reason).run order = (.ok (), order.inState .unknown) :=
  move_ok (isValidTransition_of_pending h) reason

theorem loseSubmission_run (h : isPendingState order.oms.state = true)
    (reason : String) : (loseSubmission reason).run order
      = (.ok .unknown, order.inState .unknown) := by
  rw [loseSubmission, run_bind_ok (move_unknown_run h _)]
  rfl

theorem of_pendingCombo {intent : ComboIntent} {decision : RiskDecision}
    {market : PaperComboMarketData} {request : BrokerComboRequest}
    (h : pendingCombo intent decision market = .ok (order, request)) : order.oms
        = ⟨OmsComboOrder.orderIdFor intent.intentId, intent, .pendingSubmit⟩ ∧
      order.Fresh ∧ order.market = market ∧ decision.approved = true ∧
        request.clientOrderId = order.oms.orderId := by
  simp only [pendingCombo, OmsComboOrder.fromApprovedIntent,
    BrokerComboRequest.fromComboOrder, bind_eq_ok, Prod.exists,
    refuseIf_eq_ok, OmsComboOrder.transition_eq_ok, pure_eq_ok, Prod.mk.injEq] at h
  obtain ⟨oms, ⟨-, happroved, rfl⟩, _, -, ⟨-, rfl, -⟩, _, -, ⟨-, rfl, -⟩,
    _, ⟨_, -, rfl⟩, rfl, rfl⟩ := h
  refine ⟨rfl, ⟨rfl, rfl, rfl, rfl, rfl⟩, rfl, ?_, rfl⟩
  simpa using fun hfalse => happroved (.inl hfalse)

/-- A final order keeps its state; an order without a way to `UNKNOWN` fails
after its error was noted. -/
theorem noteAnomaly_cases (order : PaperComboOrder) (error : String) :
    ((order.oms.state = .unknown ∨ order.oms.state = .filled) ∧
        (noteAnomaly error).run order
          = (.ok (), { order with evidenceError := some error })) ∨
      (isValidTransition order.oms.state .unknown = true ∧ (noteAnomaly error).run order
          = (.ok (), { order.inState .unknown with
              evidenceError := some error })) ∨
      (order.oms.state ≠ .unknown ∧ order.oms.state ≠ .filled ∧
        isValidTransition order.oms.state .unknown = false ∧
          ∃ e, (noteAnomaly error).run order
            = (.error e, { order with evidenceError := some error })) := by
  let noted : PaperComboOrder := { order with evidenceError := some error }
  by_cases hopen : order.oms.state ≠ .unknown ∧ order.oms.state ≠ .filled
  · have hrun : (noteAnomaly error).run order
        = (move .unknown "COMBINATION_EXECUTION_ANOMALY").run noted := by
      simp only [noteAnomaly, run_update_bind, run_read_bind]
      rw [if_pos hopen]
    cases hvalid : isValidTransition order.oms.state .unknown with
    | true =>
      exact .inr (.inl ⟨rfl, hrun.trans (@move_ok noted .unknown hvalid _)⟩)
    | false =>
      obtain ⟨e, herror⟩ := @move_error noted .unknown hvalid
        "COMBINATION_EXECUTION_ANOMALY"
      exact .inr (.inr ⟨hopen.1, hopen.2, rfl, e, hrun.trans herror⟩)
  · refine .inl ⟨?_, ?_⟩
    · rw [not_and_or, Decidable.not_not, Decidable.not_not] at hopen
      exact hopen
    · simp only [noteAnomaly, run_update_bind, run_read_bind]
      rw [if_neg hopen]
      rfl

end PaperComboOrder

/-! ## Working on one order of the books -/

namespace Books

theorem onOrder_run {α : Type} {books : Books} {orderId : String}
    {order : PaperOrder} (hfind : books.orders[orderId]? = some order)
    (x : OrderM α) : (onOrder orderId x).run books
      = ((x.run order).1, books.putOrder orderId (x.final order)) := by
  simp only [onOrder, Fallible.run, hfind]

variable {books : Books} {orderId : String}

theorem onCombo_run {α : Type} {order : PaperComboOrder}
    (hfind : books.comboOrders[orderId]? = some order) (x : ComboM α) :
    (onCombo orderId x).run books
      = ((x.run order).1, books.putCombo orderId (x.final order)) := by
  simp only [onCombo, Fallible.run, hfind]

theorem findOrder_eq_ok {order : PaperOrder} : books.findOrder orderId = .ok order ↔
      books.orders[orderId]? = some order := by
  unfold findOrder
  split <;> simp_all

theorem findCombo_eq_ok {order : PaperComboOrder} : books.findCombo orderId = .ok order ↔
      books.comboOrders[orderId]? = some order := by
  unfold findCombo
  split <;> simp_all

end Books

end Follon.Paper
