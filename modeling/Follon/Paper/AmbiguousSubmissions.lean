import Follon.Foundation.MapTotals
import Follon.Paper.RecordRuns

/-!
# Ambiguous submissions

What a submission leaves behind when it fails after the broker was called.  A
reply that cannot be read ends the call before the order is moved.
-/

namespace Follon.Paper

open Foundation Domain ControlPlane Risk

/-! ## Calls and replies -/

def IsReadableReply : Result BrokerSubmitResult → Prop
  | .ok (.acknowledged brokerOrderId) => isCanonicalId brokerOrderId = true
  | .ok (.rejected reason) => isBrokerReason reason = true
  | .ok (.unknown reason) => isBrokerReason reason = true
  | .error _ => True

def replyTo {B : Type} [PaperBrokerAdapter B] (broker : B) :
    BrokerCommand → Option (Result BrokerSubmitResult)
  | .submit request => some (PaperBrokerAdapter.submit broker request).1
  | .submitCombo request =>
    some (PaperBrokerAdapter.submitCombo broker request).1
  | .cancel _ => none
  | .replace _ => none

inductive SubmitCall where
  | plain (intent : OrderIntent) (market : PaperMarketData)
      (decidedAt : String) (submittedBy : Option String)
  | combo (intent : ComboIntent) (market : PaperComboMarketData)
      (decidedAt : String) (submittedBy : Option String)

namespace SubmitCall

def perform {B : Type} [PaperBrokerAdapter B] [ContentHash] :
    SubmitCall → PaperM B PaperSubmitOutcome
  | .plain intent market decidedAt submittedBy =>
    PaperTradingService.submitIntentAs intent market decidedAt submittedBy
  | .combo intent market decidedAt submittedBy =>
    PaperTradingService.submitComboIntentAs intent market decidedAt
      submittedBy

def orderState : SubmitCall → Books → Option OrderState
  | .plain intent _ _ _, books =>
    books.orders[OmsOrder.orderIdFor intent.intentId]?.map (·.oms.state)
  | .combo intent _ _ _, books =>
    books.comboOrders[OmsComboOrder.orderIdFor intent.intentId]?.map
      (·.oms.state)

theorem hasUnknownOrder {call : SubmitCall} {books : Books}
    (h : call.orderState books = some .unknown) : books.hasUnknownOrder = true := by
  simp only [Books.hasUnknownOrder, or_eq_true, List.any_eq_true]
  cases call with
  | plain intent market decidedAt submittedBy =>
    left
    obtain ⟨order, hfind, hstate⟩ := map_eq_some_iff.mp h
    exact ⟨order, OrderedMap.mem_values.mpr ⟨_, hfind⟩, by simp [hstate]⟩
  | combo intent market decidedAt submittedBy =>
    right
    obtain ⟨order, hfind, hstate⟩ := map_eq_some_iff.mp h
    exact ⟨order, OrderedMap.mem_values.mpr ⟨_, hfind⟩, by simp [hstate]⟩

end SubmitCall

namespace PaperTradingService

variable {B : Type}

def AcceptsWrites (s : PaperTradingService B) : Prop :=
  ∀ journal, s.journal = some journal → journal.acceptsWrites

structure ApprovesNothing (s : PaperTradingService B) : Prop where
  plain : ∀ intent market decidedAt decision t,
    (evaluateRisk intent market decidedAt).run s = (.ok decision, t) →
      decision.approved = false
  combo : ∀ intent market decidedAt decision t,
    (evaluateComboRisk intent market decidedAt).run s = (.ok decision, t) →
      decision.approved = false

/-- The order of a call is unknown, and nothing is approved while it is. -/
structure HoldsBack (call : SubmitCall) (s : PaperTradingService B) : Prop where
  unknown : call.orderState s.toBooks = some .unknown
  blocks : ∀ t : PaperTradingService B,
    call.orderState t.toBooks = some .unknown → t.ApprovesNothing

/-! ## The gate -/

variable {s t u : PaperTradingService B}

variable {decidedAt : String}

variable {marks : List PaperMarketData} {result : Result Decimal}
  {record : ServiceRecord}

theorem observe_same (h : (observe marks decidedAt).run s = (result, t))
    : t = s.edit fun record =>
      { record with toRunningValues := t.toRunningValues } := by
  cases hequity : (s.edit (ServiceRecord.cacheMarks marks)).equity with
  | error e =>
    simp only [observe, run_update_bind, run_read_bind,
      hequity, run_lift_bind_error, Prod.mk.injEq] at h
    rw [← h.2]
    rfl
  | ok equity =>
    simp only [observe, run_update_bind, run_read_bind,
      hequity, run_lift_bind_ok, run_pure,
      Prod.mk.injEq] at h
    rw [← h.2]
    rfl

theorem eraseRepsBy_loop_ne_nil {α : Type} (r : α → α → Bool)
    (rest : List α) (a : α) (acc : List α) : List.eraseRepsBy.loop r a rest acc ≠ [] := by
  induction rest generalizing a acc with
  | nil => simp [List.eraseRepsBy.loop]
  | cons next rest ih =>
    rw [List.eraseRepsBy.loop]
    split
    · exact ih a acc
    · exact ih next (a :: acc)

theorem sortedReasons_ne_nil {reasons : List String} (reason : String)
    (h : reason ∈ reasons) : sortedReasons reasons ≠ [] := by
  have hin := (perm_insertionSort (· ≤ ·) reasons).mem_iff.mpr h
  unfold sortedReasons List.eraseReps
  cases hsorted : reasons.insertionSort (· ≤ ·) with
  | nil =>
    rw [hsorted] at hin
    cases hin
  | cons first rest => exact eraseRepsBy_loop_ne_nil _ rest first []

theorem decisionOf_approved (record : ServiceRecord)
    (decisionId intentId correlationId decidedAt : String)
    (reasons : List String) (evidence : List (String × String)) :
    (record.decisionOf decisionId intentId correlationId decidedAt reasons
      evidence).approved = reasons.isEmpty :=
  rfl

theorem orderReasons_of_unknown (h : record.hasUnknownOrder = true)
    (intent : OrderIntent) (assessed : ServiceRecord.OrderAssessment) :
    record.orderReasons intent assessed ≠ [] := by
  apply List.ne_nil_of_mem (a := "UNKNOWN_ORDER_REQUIRES_RECONCILIATION")
  simp only [ServiceRecord.orderReasons, mem_append]
  exact .inl (.inl (.inl (.inl (.inl (.inl (.inr (by
    simp [reasonIf, h])))))))

theorem comboReasons_of_unknown (h : record.hasUnknownOrder = true)
    (assessed : ServiceRecord.ComboAssessment) : record.comboReasons assessed ≠ [] := by
  apply sortedReasons_ne_nil "UNKNOWN_ORDER_REQUIRES_RECONCILIATION"
  simp only [mem_append]
  exact .inl (.inl (.inl (.inl (.inl (.inr (by simp [reasonIf, h]))))))

theorem approvesNothing_of_unknown (h : s.hasUnknownOrder = true) :
    s.ApprovesNothing where
  plain := by
    intro intent market decidedAt decision t hrun
    obtain ⟨equity, u, hobserve, hrun⟩ := run_bind_eq_ok.mp hrun
    have hunknown : u.hasUnknownOrder = true := by
      rw [observe_same hobserve]
      exact h
    have hdecision := (Prod.mk.inj hrun).1
    obtain ⟨assessed, -, hjudged⟩ := bind_eq_ok.mp hdecision
    rw [← Except.ok.inj hjudged, decisionOf_approved]
    exact List.isEmpty_eq_false_iff.mpr
      (orderReasons_of_unknown hunknown intent assessed)
  combo := by
    intro intent market decidedAt decision t hrun
    rw [evaluateComboRisk, run_read_bind,
      run_lift_bind_eq_ok] at hrun
    obtain ⟨_, -, hrun⟩ := hrun
    obtain ⟨equity, u, hobserve, hrun⟩ := run_bind_eq_ok.mp hrun
    have hunknown : u.hasUnknownOrder = true := by
      rw [observe_same hobserve]
      exact h
    have hdecision := (Prod.mk.inj hrun).1
    obtain ⟨assessed, -, hjudged⟩ := bind_eq_ok.mp hdecision
    rw [← Except.ok.inj hjudged, decisionOf_approved]
    exact List.isEmpty_eq_false_iff.mpr
      (comboReasons_of_unknown hunknown assessed)

/-! ## Journaling -/

/-- From `s` to `t` nothing left the service but snapshots, and the journal
still takes what is written. -/
structure OnlyJournals (s t : PaperTradingService B) : Prop where
  broker : t.broker = s.broker
  writes : s.AcceptsWrites → t.AcceptsWrites
  effects : ∃ states : List PersistentPaperState,
    t.effects = s.effects ++ states.map .journaled

namespace OnlyJournals

theorem of_same (hbroker : t.broker = s.broker) (hjournal : t.journal = s.journal)
    (heffects : t.effects = s.effects) : OnlyJournals s t := by
  refine ⟨hbroker, ?_, [], by simp [heffects]⟩
  intro h journal hfound
  exact h journal (hjournal ▸ hfound)

theorem trans (hsu : OnlyJournals s u) (hut : OnlyJournals u t) : OnlyJournals s t := by
  obtain ⟨states, hstates⟩ := hsu.effects
  obtain ⟨states', hstates'⟩ := hut.effects
  refine ⟨hut.broker.trans hsu.broker, fun h => hut.writes (hsu.writes h),
    states ++ states', ?_⟩
  rw [hstates', hstates, map_append, append_assoc]

theorem of_edit {f : ServiceRecord → ServiceRecord}
    (h : OnlyJournals (s.edit f) t) : OnlyJournals s t :=
  ⟨h.broker, h.writes, h.effects⟩

theorem of_session {connected : Bool}
    (h : OnlyJournals (setSession connected s) t) : OnlyJournals s t :=
  ⟨h.broker, h.writes, h.effects⟩

end OnlyJournals

theorem observe_journals (h : (observe marks decidedAt).run s = (result, t))
    : OnlyJournals s t := by
  rw [observe_same h]
  exact .of_same rfl rfl rfl

theorem evaluateRisk_journals {intent : OrderIntent} {market : PaperMarketData}
    {result : Result RiskDecision}
    (hrun : (evaluateRisk intent market decidedAt).run s = (result, t)) :
    OnlyJournals s t := by
  rw [evaluateRisk] at hrun
  rcases hobserve : (observe [⟨intent.instrumentId, market.markPrice,
    market.observedAt⟩] decidedAt).run s with ⟨observed, u⟩
  have hjournals := observe_journals hobserve
  cases observed with
  | error e =>
    rw [run_bind_error hobserve] at hrun
    obtain ⟨-, rfl⟩ := Prod.mk.inj hrun
    exact hjournals
  | ok equity =>
    rw [run_bind_ok hobserve] at hrun
    obtain ⟨-, rfl⟩ := Prod.mk.inj hrun
    exact hjournals

theorem evaluateComboRisk_journals {intent : ComboIntent}
    {market : PaperComboMarketData} {result : Result RiskDecision}
    (hrun : (evaluateComboRisk intent market decidedAt).run s = (result, t)) :
    OnlyJournals s t := by
  rw [evaluateComboRisk, run_read_bind] at hrun
  cases hcheck : s.checkComboObservation intent market decidedAt with
  | error e =>
    rw [hcheck, run_lift_bind_error] at hrun
    obtain ⟨-, rfl⟩ := Prod.mk.inj hrun
    exact .of_same rfl rfl rfl
  | ok v =>
    rw [hcheck, run_lift_bind_ok] at hrun
    rcases hobserve : (observe market.marks decidedAt).run s with
      ⟨observed, u⟩
    have hjournals := observe_journals hobserve
    cases observed with
    | error e =>
      rw [run_bind_error hobserve] at hrun
      obtain ⟨-, rfl⟩ := Prod.mk.inj hrun
      exact hjournals
    | ok equity =>
      rw [run_bind_ok hobserve] at hrun
      obtain ⟨-, rfl⟩ := Prod.mk.inj hrun
      exact hjournals

theorem outcome_of_acceptsWrites {journal : FilePaperJournal}
    (h : journal.acceptsWrites) : journal.outcome = .written := by
  unfold FilePaperJournal.outcome
  cases houtcomes : journal.outcomes with
  | nil => rfl
  | cons outcome rest => exact h outcome (by simp [houtcomes])

variable [ContentHash]

theorem persist_of_writes (h : s.AcceptsWrites) : ∃ t, persist.run s = (.ok (), t) ∧
      t.toServiceRecord = s.toServiceRecord ∧ OnlyJournals s t := by
  rcases persist_cases s with
    ⟨-, hrun⟩ | ⟨journal, hjournal, ⟨hwritten, hrun⟩ | ⟨hfailed, -⟩⟩
  · exact ⟨s, hrun, rfl, .of_same rfl rfl rfl⟩
  · refine ⟨_, hrun, rfl, rfl, ?_, [s.persistentState], ?_⟩
    · intro _ journal' hfound outcome houtcome
      obtain rfl := Option.some.inj hfound
      refine h journal hjournal outcome (List.mem_of_mem_tail ?_)
      simpa [FilePaperJournal.append, hwritten] using houtcome
    · simp [recordAppend, hwritten]
  · exact absurd (outcome_of_acceptsWrites (h journal hjournal)) hfailed

/-! ## Answers -/

structure Pending (record : SubmissionRecord)
    (look : Books → Option OrderState) (books : Books) : Prop where
  accept : ∀ id, ∃ after, (record.accept id).run books = (.ok .acknowledged, after)
  reject : ∀ reason, ∃ after, (record.reject reason).run books = (.ok .rejected, after)
  lose : ∀ reason, ∃ after, (record.lose reason).run books = (.ok .unknown, after) ∧
      look after = some .unknown
  pending : look books = some .pendingSubmit

omit [ContentHash] in
theorem pending_plain {books : Books} {order : PaperOrder}
    {intent : OrderIntent} {market : PaperMarketData} {decidedAt : String}
    {submittedBy : Option String}
    (hfind : books.orders[OmsOrder.orderIdFor intent.intentId]? = some order)
    (hstate : order.oms.state = .pendingSubmit) :
    Pending (plainRecord (OmsOrder.orderIdFor intent.intentId))
      (SubmitCall.plain intent market decidedAt submittedBy).orderState
      books := by
  have hpending : isPendingState order.oms.state = true := by
    rw [hstate]
    rfl
  refine ⟨fun id => ?_, fun reason => ?_, fun reason => ?_, ?_⟩
  · simp [plainRecord, Books.onOrder_run hfind, PaperOrder.acceptSubmission_run hstate]
  · simp [plainRecord, Books.onOrder_run hfind, PaperOrder.rejectSubmission_run hstate]
  · simp [plainRecord, Books.onOrder_run hfind, Fallible.final,
      PaperOrder.loseSubmission_run hpending, SubmitCall.orderState, Books.putOrder]
  · simp [SubmitCall.orderState, hfind, hstate]

omit [ContentHash] in
theorem pending_combo {books : Books} {order : PaperComboOrder}
    {intent : ComboIntent} {market : PaperComboMarketData} {decidedAt : String}
    {submittedBy : Option String}
    (hfind : books.comboOrders[OmsComboOrder.orderIdFor intent.intentId]?
      = some order) (hstate : order.oms.state = .pendingSubmit) :
    Pending (comboRecord (OmsComboOrder.orderIdFor intent.intentId))
      (SubmitCall.combo intent market decidedAt submittedBy).orderState
      books := by
  have hpending : isPendingState order.oms.state = true := by
    rw [hstate]
    rfl
  refine ⟨fun id => ?_, fun reason => ?_, fun reason => ?_, ?_⟩
  · simp [comboRecord, Books.onCombo_run hfind,
      PaperComboOrder.acceptSubmission_run hstate]
  · simp [comboRecord, Books.onCombo_run hfind,
      PaperComboOrder.rejectSubmission_run hstate]
  · simp [comboRecord, Books.onCombo_run hfind, Fallible.final,
      PaperComboOrder.loseSubmission_run hpending, SubmitCall.orderState, Books.putCombo]
  · simp [SubmitCall.orderState, hfind, hstate]

structure Answered (look : Books → Option OrderState)
    (reply : Result BrokerSubmitResult) (u : PaperTradingService B)
    (result : Result PaperSubmitOutcome) (t : PaperTradingService B) :
    Prop where
  journals : OnlyJournals u t
  readable : IsReadableReply reply → (∃ e, result = .error e) →
    look t.toBooks = some .unknown
  unreadable : ¬IsReadableReply reply →
    (∃ e, result = .error e) ∧ look t.toBooks = some .pendingSubmit

section

variable {look : Books → Option OrderState} {record : SubmissionRecord}
  {decision : RiskDecision} {reply : Result BrokerSubmitResult}
  {result : Result PaperSubmitOutcome}

omit [ContentHash] in
theorem Answered.recorded {outcome : PaperSubmitOutcome}
    (hreadable : IsReadableReply reply) (hjournals : OnlyJournals u t) :
    Answered look reply u (.ok outcome) t where
  journals := hjournals
  readable := by
    rintro - ⟨e, h⟩
    cases h
  unreadable := fun h => absurd hreadable h

omit [ContentHash] in
theorem Answered.unread {e : PaperError} (hreadable : ¬IsReadableReply reply)
    (hpending : look u.toBooks = some .pendingSubmit) :
    Answered look reply u (.error e) u where
  journals := .of_same rfl rfl rfl
  readable := fun h => absurd h hreadable
  unreadable := fun _ => ⟨⟨e, rfl⟩, hpending⟩

theorem record_run {α : Type} {x : BooksM OrderState} {state : OrderState}
    {books : Books} {f : OrderState → α} (hwrites : u.AcceptsWrites)
    (hx : x.run u.toBooks = (.ok state, books)) : ∃ t, (do
      let state ← onBooks x
      persist
      pure (f state) : PaperM B α).run u = (.ok (f state), t) ∧
        OnlyJournals u t := by
  have hbooks : (onBooks x).run u
      = (.ok state, u.edit (ServiceRecord.setBooks books)) := by
    rw [onBooks_run, hx, final_eq hx]
  obtain ⟨t, hsaved, -, hjournals⟩ :=
    @persist_of_writes B (u.edit (ServiceRecord.setBooks books)) _ hwrites
  refine ⟨t, ?_, hjournals.of_edit⟩
  rw [run_bind_ok hbooks, run_bind_ok hsaved]
  rfl

variable {x : BooksM OrderState} {books : Books}

theorem lose_run {α : Type} {error : PaperError} (hwrites : u.AcceptsWrites)
    (hx : x.run u.toBooks = (.ok .unknown, books)) : ∃ t, (do
      let _ ← onBooks x
      update (setSession false)
      persist
      Fallible.fail error : PaperM B α).run u = (.error error, t) ∧
        t.toBooks = books ∧ OnlyJournals u t := by
  have hbooks : (onBooks x).run u
      = (.ok .unknown, u.edit (ServiceRecord.setBooks books)) := by
    rw [onBooks_run, hx, final_eq hx]
  obtain ⟨t, hsaved, hrecord, hjournals⟩ := @persist_of_writes B
    (setSession false (u.edit (ServiceRecord.setBooks books))) _ hwrites
  refine ⟨t, ?_, ?_, hjournals.of_session.of_edit⟩
  · rw [run_bind_ok hbooks, run_update_bind, run_bind_ok hsaved]
    rfl
  · rw [hrecord]
    rfl

theorem check_answered {check : Result Unit} {state : OrderState}
    (hcheck : check = .ok () ↔ IsReadableReply reply)
    (hpending : look u.toBooks = some .pendingSubmit)
    (hwrites : u.AcceptsWrites) (hx : x.run u.toBooks = (.ok state, books))
    {f : OrderState → PaperSubmitOutcome} (hrun : (do
      lift check
      let state ← onBooks x
      persist
      pure (f state) : PaperM B PaperSubmitOutcome).run u = (result, t)) :
    Answered look reply u result t := by
  cases check with
  | error e =>
    rw [run_lift_bind_error] at hrun
    obtain ⟨rfl, rfl⟩ := Prod.mk.inj hrun
    refine .unread ?_ hpending
    intro hreadable
    cases hcheck.mpr hreadable
  | ok v =>
    obtain ⟨t', hrecord, hjournals⟩ := @record_run B u _ _ _ _ _ f hwrites hx
    rw [run_lift_bind_ok, hrecord] at hrun
    obtain ⟨rfl, rfl⟩ := Prod.mk.inj hrun
    exact .recorded (hcheck.mp rfl) hjournals

theorem applyReply_answered (hpending : Pending record look u.toBooks)
    (hwrites : u.AcceptsWrites)
    (hrun : (applyReply record decision reply).run u = (result, t)) :
    Answered look reply u result t := by
  cases reply with
  | ok answer =>
    cases answer with
    | acknowledged id =>
      obtain ⟨after, hafter⟩ := hpending.accept id
      exact check_answered validateCanonicalId_eq_ok hpending.pending
        hwrites hafter hrun
    | rejected reason =>
      obtain ⟨after, hafter⟩ := hpending.reject reason
      exact check_answered validateBrokerReason_eq_ok hpending.pending
        hwrites hafter hrun
    | unknown reason =>
      obtain ⟨after, hafter, -⟩ := hpending.lose reason
      exact check_answered validateBrokerReason_eq_ok hpending.pending
        hwrites hafter hrun
  | error error =>
    rw [applyReply] at hrun
    obtain ⟨after, hafter, hunknown⟩ := hpending.lose record.transportReason
    obtain ⟨t', hlost, hbooks, hjournals⟩ := lose_run hwrites hafter
    rw [hlost] at hrun
    obtain ⟨rfl, rfl⟩ := Prod.mk.inj hrun
    refine ⟨hjournals, fun _ _ => ?_, fun h => absurd trivial h⟩
    rw [hbooks, hunknown]

/-! ## Submissions -/

variable [PaperBrokerAdapter B]

/-- How a submission ends: before the broker is called, or with its answer. -/
inductive Submitted (look : Books → Option OrderState)
    (s : PaperTradingService B) (result : Result PaperSubmitOutcome)
    (t : PaperTradingService B) : Prop
  | unsent (h : OnlyJournals s t)
  | sent {command : BrokerCommand} {reply : Result BrokerSubmitResult}
      (hreply : replyTo s.broker command = some reply)
      (before after : List PersistentPaperState)
      (heffects : t.effects = s.effects ++ before.map .journaled ++
        .commanded command :: after.map .journaled)
      (hreadable : IsReadableReply reply → (∃ e, result = .error e) →
        look t.toBooks = some .unknown)
      (hunreadable : ¬IsReadableReply reply →
        (∃ e, result = .error e) ∧ look t.toBooks = some .pendingSubmit)

omit [ContentHash] in
theorem Submitted.of_journals (hjournals : OnlyJournals s u)
    (h : Submitted look u result t) : Submitted look s result t := by
  obtain ⟨states, hstates⟩ := hjournals.effects
  cases h with
  | unsent hut => exact .unsent (hjournals.trans hut)
  | sent hreply before after heffects hreadable hunreadable =>
    rw [hjournals.broker] at hreply
    refine .sent hreply (states ++ before) after ?_ hreadable hunreadable
    rw [heffects, hstates, map_append]
    simp only [append_assoc]

theorem command_submitted {sent : BrokerCommand}
    {call : B → Result BrokerSubmitResult × B}
    (hreply : replyTo u.broker sent = some (call u.broker).1)
    (hpending : Pending record look u.toBooks) (hwrites : u.AcceptsWrites)
    (hrun : (command sent call >>= applyReply record decision).run u
      = (result, t)) : Submitted look u result t := by
  have hanswered := @applyReply_answered B t
    (u.announce sent (call u.broker).2) _ look record decision _ _ hpending
    hwrites hrun
  obtain ⟨states, hstates⟩ := hanswered.journals.effects
  refine .sent hreply [] states ?_ hanswered.readable hanswered.unreadable
  rw [hstates]
  simp [announce]

variable {intent : OrderIntent} {market : PaperMarketData}
  {decidedAt : String} {submittedBy : Option String}

theorem transmitOrder_submitted {order : PaperOrder}
    (horder : order.oms = ⟨OmsOrder.orderIdFor intent.intentId, intent, .pendingSubmit⟩)
    (hfind : u.orders[OmsOrder.orderIdFor intent.intentId]? = some order)
    (hwrites : u.AcceptsWrites)
    (hrun : (transmitOrder order decision).run u = (result, t)) : Submitted
      (SubmitCall.plain intent market decidedAt submittedBy).orderState u
      result t := by
  have hpending := @pending_plain u.toBooks order intent market decidedAt
    submittedBy hfind (by rw [horder])
  rw [transmitOrder] at hrun
  refine command_submitted rfl ?_ hwrites hrun
  rw [BrokerOrderRequest.fromOrder, horder]
  exact hpending

theorem recordDecision_submitted (hwrites : u.AcceptsWrites)
    (hrun : (recordDecision intent market submittedBy decision).run u
      = (result, t)) : Submitted
      (SubmitCall.plain intent market decidedAt submittedBy).orderState u
      result t := by
  rw [recordDecision] at hrun
  split at hrun
  · obtain ⟨v, hsaved, -, hjournals⟩ :=
      @persist_of_writes B (u.edit (ServiceRecord.recordEvidence
        ⟨intent, decision, market, submittedBy⟩)) _ hwrites
    rw [run_update_bind, run_bind_ok hsaved] at hrun
    obtain ⟨-, rfl⟩ := Prod.mk.inj hrun
    exact .unsent hjournals.of_edit
  · cases horder : pendingOrder intent decision market with
    | error e =>
      rw [horder, run_lift_bind_error] at hrun
      obtain ⟨-, rfl⟩ := Prod.mk.inj hrun
      exact .unsent (.of_same rfl rfl rfl)
    | ok order =>
      obtain ⟨homs, -⟩ := PaperOrder.of_pendingOrder horder
      obtain ⟨v, hsaved, hrecord, hjournals⟩ :=
        @persist_of_writes B (u.edit (ServiceRecord.recordOrder order
          ⟨intent, decision, market, submittedBy⟩)) _ hwrites
      rw [horder, run_lift_bind_ok, run_update_bind,
        run_bind_ok hsaved] at hrun
      have hall : OnlyJournals u v := hjournals.of_edit
      refine .of_journals hall
        (transmitOrder_submitted homs ?_ (hall.writes hwrites) hrun)
      rw [hrecord]
      simp [ServiceRecord.recordOrder, ServiceRecord.recordEvidence,
        ServiceRecord.setBooks, Books.putOrder, edit, homs]

omit [ContentHash] in
theorem decideIntent_journals {result : Result RiskDecision}
    (hrun : (decideIntent intent market decidedAt).run s = (result, t)) :
    OnlyJournals s t := by
  rw [decideIntent, run_read_bind] at hrun
  cases hroute : s.ensureRouteCarries intent.timeInForce false with
  | error e =>
    rw [hroute, run_lift_bind_error] at hrun
    obtain ⟨-, rfl⟩ := Prod.mk.inj hrun
    exact .of_same rfl rfl rfl
  | ok v =>
    rw [hroute, run_lift_bind_ok] at hrun
    exact evaluateRisk_journals hrun

theorem submitIntentAs_submitted (hwrites : s.AcceptsWrites)
    (hrun : (submitIntentAs intent market decidedAt submittedBy).run s
      = (result, t)) : Submitted
      (SubmitCall.plain intent market decidedAt submittedBy).orderState s
      result t := by
  rw [submitIntentAs, run_read_bind] at hrun
  cases hallowed : s.admitIntent intent market decidedAt submittedBy with
  | error e =>
    rw [hallowed, run_lift_bind_error] at hrun
    obtain ⟨-, rfl⟩ := Prod.mk.inj hrun
    exact .unsent (.of_same rfl rfl rfl)
  | ok v =>
    rw [hallowed, run_lift_bind_ok] at hrun
    split at hrun
    · obtain ⟨-, rfl⟩ := Prod.mk.inj hrun
      exact .unsent (.of_same rfl rfl rfl)
    · rcases hdecide : (decideIntent intent market decidedAt).run s with
        ⟨decided, u⟩
      have hjournals := decideIntent_journals hdecide
      cases decided with
      | error e =>
        rw [run_bind_error hdecide] at hrun
        obtain ⟨-, rfl⟩ := Prod.mk.inj hrun
        exact .unsent hjournals
      | ok decision =>
        rw [run_bind_ok hdecide] at hrun
        exact .of_journals hjournals
          (recordDecision_submitted (hjournals.writes hwrites) hrun)

/-! ## Combinations -/

theorem transmitCombo_submitted {order : PaperComboOrder}
    {request : BrokerComboRequest} {intent : ComboIntent} {market : PaperComboMarketData}
    (horder : order.oms = ⟨OmsComboOrder.orderIdFor intent.intentId, intent,
      .pendingSubmit⟩) (hrequest : request.clientOrderId = order.oms.orderId)
    (hfind : u.comboOrders[OmsComboOrder.orderIdFor intent.intentId]?
      = some order) (hwrites : u.AcceptsWrites)
    (hrun : (transmitCombo request decision).run u = (result, t)) : Submitted
      (SubmitCall.combo intent market decidedAt submittedBy).orderState u
      result t := by
  have hpending := @pending_combo u.toBooks order intent market decidedAt
    submittedBy hfind (by rw [horder])
  rw [transmitCombo] at hrun
  refine command_submitted rfl ?_ hwrites hrun
  rw [hrequest, horder]
  exact hpending

theorem recordComboDecision_submitted {intent : ComboIntent}
    {market : PaperComboMarketData} (hwrites : u.AcceptsWrites)
    (hrun : (recordComboDecision intent market submittedBy decision).run u
      = (result, t)) : Submitted
      (SubmitCall.combo intent market decidedAt submittedBy).orderState u
      result t := by
  rw [recordComboDecision] at hrun
  split at hrun
  · obtain ⟨v, hsaved, -, hjournals⟩ :=
      @persist_of_writes B (u.edit (ServiceRecord.recordComboEvidence
        ⟨intent, decision, market, submittedBy⟩)) _ hwrites
    rw [run_update_bind, run_bind_ok hsaved] at hrun
    obtain ⟨-, rfl⟩ := Prod.mk.inj hrun
    exact .unsent hjournals.of_edit
  · cases hpending : pendingCombo intent decision market with
    | error e =>
      rw [hpending, run_lift_bind_error] at hrun
      obtain ⟨-, rfl⟩ := Prod.mk.inj hrun
      exact .unsent (.of_same rfl rfl rfl)
    | ok created =>
      obtain ⟨order, request⟩ := created
      obtain ⟨homs, -, -, -, hrequest⟩ :=
        PaperComboOrder.of_pendingCombo hpending
      obtain ⟨v, hsaved, hrecord, hjournals⟩ :=
        @persist_of_writes B (u.edit (ServiceRecord.recordCombo order
          ⟨intent, decision, market, submittedBy⟩)) _ hwrites
      rw [hpending, run_lift_bind_ok] at hrun
      dsimp only at hrun
      rw [run_update_bind, run_bind_ok hsaved] at hrun
      have hall : OnlyJournals u v := hjournals.of_edit
      refine .of_journals hall (transmitCombo_submitted homs hrequest ?_
        (hall.writes hwrites) hrun)
      rw [hrecord]
      simp [ServiceRecord.recordCombo, ServiceRecord.recordComboEvidence,
        ServiceRecord.setBooks, Books.putCombo, edit, homs]

omit [ContentHash] in
theorem decideCombo_journals {intent : ComboIntent}
    {market : PaperComboMarketData} {result : Result RiskDecision}
    (hrun : (decideCombo intent market decidedAt).run s = (result, t)) :
    OnlyJournals s t := by
  rw [decideCombo, run_read_bind] at hrun
  cases hroute : s.ensureRouteCarries intent.timeInForce true with
  | error e =>
    rw [hroute, run_lift_bind_error] at hrun
    obtain ⟨-, rfl⟩ := Prod.mk.inj hrun
    exact .of_same rfl rfl rfl
  | ok v =>
    rw [hroute, run_lift_bind_ok] at hrun
    exact evaluateComboRisk_journals hrun

theorem submitComboIntentAs_submitted {intent : ComboIntent}
    {market : PaperComboMarketData} (hwrites : s.AcceptsWrites)
    (hrun : (submitComboIntentAs intent market decidedAt submittedBy).run s
      = (result, t)) : Submitted
      (SubmitCall.combo intent market decidedAt submittedBy).orderState s
      result t := by
  rw [submitComboIntentAs, run_read_bind] at hrun
  cases hallowed : s.admitCombo intent market decidedAt submittedBy with
  | error e =>
    rw [hallowed, run_lift_bind_error] at hrun
    obtain ⟨-, rfl⟩ := Prod.mk.inj hrun
    exact .unsent (.of_same rfl rfl rfl)
  | ok v =>
    rw [hallowed, run_lift_bind_ok] at hrun
    split at hrun
    · obtain ⟨-, rfl⟩ := Prod.mk.inj hrun
      exact .unsent (.of_same rfl rfl rfl)
    · rcases hdecide : (decideCombo intent market decidedAt).run s with
        ⟨decided, u⟩
      have hjournals := decideCombo_journals hdecide
      cases decided with
      | error e =>
        rw [run_bind_error hdecide] at hrun
        obtain ⟨-, rfl⟩ := Prod.mk.inj hrun
        exact .unsent hjournals
      | ok decision =>
        rw [run_bind_ok hdecide] at hrun
        exact .of_journals hjournals
          (recordComboDecision_submitted (hjournals.writes hwrites) hrun)

theorem perform_submitted {call : SubmitCall} (hwrites : s.AcceptsWrites)
    (hrun : call.perform.run s = (result, t)) : Submitted call.orderState s result t := by
  cases call with
  | plain intent market decidedAt submittedBy =>
    exact submitIntentAs_submitted hwrites hrun
  | combo intent market decidedAt submittedBy =>
    exact submitComboIntentAs_submitted hwrites hrun

end

/-- A submission that fails after the broker was called leaves its order
unknown, exactly when the broker's reply can be read. -/
theorem ambiguous_submission_unknown_iff [PaperBrokerAdapter B]
    {call : SubmitCall} {result : Result PaperSubmitOutcome}
    {reply : Result BrokerSubmitResult} {command : BrokerCommand}
    {effects : List Effect} (hwrites : s.AcceptsWrites)
    (hrun : call.perform.run s = (result, t))
    (heffects : t.effects = s.effects ++ effects) (hcalled : .commanded command ∈ effects)
    (hreply : replyTo s.broker command = some reply) :
    ((∃ e, result = .error e) → t.HoldsBack call) ↔
      IsReadableReply reply := by
  cases perform_submitted hwrites hrun with
  | unsent h =>
    obtain ⟨states, hstates⟩ := h.effects
    rw [heffects, List.append_cancel_left_eq] at hstates
    simp [hstates] at hcalled
  | @sent called reply' hreply' before after heffects' hreadable
      hunreadable =>
      rw [heffects, append_assoc, List.append_cancel_left_eq]
        at heffects'
      have hsame : replyTo s.broker command = some reply' := by
        simp only [heffects', mem_append, mem_map, mem_cons,
          Effect.commanded.injEq, reduceCtorEq, and_false, exists_false,
          false_or, or_false] at hcalled
        rw [hcalled, hreply']
      obtain rfl := Option.some.inj (hreply.symm.trans hsame)
      constructor
      · intro hheld
        by_contra hnot
        obtain ⟨herror, hpending⟩ := hunreadable hnot
        rw [(hheld herror).unknown] at hpending
        cases hpending
      · intro hread herror
        exact ⟨hreadable hread herror, fun u hunknown =>
          approvesNothing_of_unknown (SubmitCall.hasUnknownOrder hunknown)⟩

end PaperTradingService

namespace UnreadableRun

attribute [local instance] Session.contentHash

structure Answering where
  reply : Result BrokerSubmitResult

instance : PaperBrokerAdapter Answering where
  submit := fun broker _ => (broker.reply, broker)
  submitCombo := fun broker _ => (broker.reply, broker)
  cancel := fun broker _ => (.ok (), broker)
  poll := fun broker _ => (.ok [], broker)
  snapshot := fun broker _ => (.ok ⟨[], [], Decimal.zero⟩, broker)
  reconnect := fun broker _ => (.ok (), broker)

def start : PaperTradingService Answering where
  toServiceRecord := startRecord Session.configuration Session.killSwitches
  broker := ⟨.ok (.acknowledged "")⟩
  brokerConnected := true
  persistenceHealthy := true
  journal := none
  effects := []

def call : SubmitCall := .plain Session.intent Session.market Session.decidedAt none

def after : PaperTradingService Answering := call.perform.final start

def request : BrokerOrderRequest where
  clientOrderId := "order-intent-1"
  accountId := "acct-1"
  instrumentId := "aapl"
  side := .buy
  quantity := Session.amount 1000000000
  limitPrice := some (Session.amount 10000000000)

def commands (effects : List Effect) : List BrokerCommand :=
  effects.filterMap fun effect =>
    match effect with
    | .journaled _ => none
    | .commanded command => some command

theorem called : Effect.commanded (.submit request) ∈ after.effects := by
  have hcommands : BrokerCommand.submit request ∈ commands after.effects := by
    decide
  obtain ⟨effect, heffect, hcommand⟩ := List.mem_filterMap.mp hcommands
  cases effect with
  | journaled state => cases hcommand
  | commanded command =>
    obtain rfl := Option.some.inj hcommand
    exact heffect

theorem failed : ∃ e, (call.perform.run start).1 = .error e := by
  have hfailed : (call.perform.run start).1.toOption = none := by
    decide
  cases hresult : (call.perform.run start).1 with
  | ok outcome =>
    rw [hresult] at hfailed
    cases hfailed
  | error e => exact ⟨e, rfl⟩

/-- The call fails after the broker took the order, which is merely pending. -/
theorem unread_acknowledgement_leaves_pending :
    (∃ e, (call.perform.run start).1 = .error e) ∧
      Effect.commanded (.submit request) ∈ after.effects ∧
      call.orderState after.toBooks = some .pendingSubmit ∧
      ¬after.HoldsBack call := by
  have hpending : call.orderState after.toBooks = some .pendingSubmit := by
    decide
  refine ⟨failed, called, hpending, ?_⟩
  intro hheld
  have hunknown := hheld.unknown
  rw [hpending] at hunknown
  cases hunknown

theorem ambiguous_submission_unknown_iff_unread :
    ((∃ e, (call.perform.run start).1 = .error e) → after.HoldsBack call) ↔
      IsReadableReply (.ok (.acknowledged "")) := by
  have hwrites : start.AcceptsWrites := by
    intro journal hjournal
    cases hjournal
  exact PaperTradingService.ambiguous_submission_unknown_iff hwrites rfl
    (nil_append _).symm called rfl

end UnreadableRun

end Follon.Paper
