import Follon.Paper.Edits

/-!
# Changes of the service

A change is a journaled write, an announced broker command, or a write that
stays in memory.  Operations are sequences of changes, so an invariant is
proved one change at a time.
-/

namespace Follon.Paper

open Foundation Domain ControlPlane Accounting

/-! ## Journaling -/

namespace PaperTradingService

variable {B : Type} [ContentHash] {may : Allowance}

theorem persist_cases (s : PaperTradingService B) :
    (s.journal = none ∧ persist.run s = (.ok (), s)) ∨
      ∃ journal, s.journal = some journal ∧ (journal.outcome = .written ∧
            persist.run s = (.ok (), recordAppend journal s.persistentState s) ∨
          journal.outcome ≠ .written ∧ persist.run s
              = (.error FilePaperJournal.writeFailure,
                failClosed (recordAppend journal s.persistentState s))) := by
  cases hjournal : s.journal with
  | none =>
    left
    refine ⟨rfl, ?_⟩
    simp only [persist, run_read_bind, hjournal, run_pure]
  | some journal =>
    right
    refine ⟨journal, rfl, ?_⟩
    simp only [persist, run_read_bind, hjournal, run_update_bind]
    cases houtcome : journal.outcome <;>
      simp [FilePaperJournal.append, houtcome]

theorem persist_record (s : PaperTradingService B) :
    (persist.final s).toServiceRecord = s.toServiceRecord := by
  rcases persist_cases s with
    ⟨-, hrun⟩ | ⟨journal, -, ⟨-, hrun⟩ | ⟨-, hrun⟩⟩ <;>
    rw [final_eq hrun] <;> rfl

variable {s : PaperTradingService B}

theorem persist_ok {t : PaperTradingService B} (h : persist.run s = (.ok (), t)) :
    t.toServiceRecord = s.toServiceRecord ∧ t.broker = s.broker ∧
      t.brokerConnected = s.brokerConnected ∧
        t.persistenceHealthy = s.persistenceHealthy := by
  rcases persist_cases s with
    ⟨-, hrun⟩ | ⟨journal, -, ⟨-, hrun⟩ | ⟨-, hrun⟩⟩
  · rw [hrun] at h
    obtain ⟨-, rfl⟩ := Prod.mk.inj h
    exact ⟨rfl, rfl, rfl, rfl⟩
  · rw [hrun] at h
    obtain ⟨-, rfl⟩ := Prod.mk.inj h
    exact ⟨rfl, rfl, rfl, rfl⟩
  · rw [hrun] at h
    simp at h

/-! ## Changes -/

inductive Change (may : Allowance) :
    PaperTradingService B → PaperTradingService B → Prop
  | brokerMoved (s : PaperTradingService B) (broker : B) :
      Change may s (s.setBroker broker)
  | session (s : PaperTradingService B) (connected : Bool) :
      Change may s (setSession connected s)
  | observed {s : PaperTradingService B} {r : ServiceRecord}
      (h : Observed s.toServiceRecord r) : Change may s (s.edit fun _ => r)
  | resaved {s : PaperTradingService B}
      (hhealthy : s.persistenceHealthy = true) : Change may s (persist.final s)
  | saved {s : PaperTradingService B} {prepared : Option BrokerCommand}
      {r : ServiceRecord} (hhealthy : s.persistenceHealthy = true)
      (h : Edit may s.toServiceRecord prepared r) :
      Change may s (persist.final (s.edit fun _ => r))
  | announced {s t : PaperTradingService B} {sent : BrokerCommand}
      {r : ServiceRecord} (broker : B)
      (hhealthy : s.persistenceHealthy = true)
      (h : Edit may s.toServiceRecord (some sent) r)
      (hsaved : persist.run (s.edit fun _ => r) = (.ok (), t)) :
      Change may s (t.announce sent broker)
  /-- The broker is called before the replacement is journaled. -/
  | replaced {s : PaperTradingService B} {request : BrokerReplaceRequest}
      {r : ServiceRecord} (broker : B)
      (hhealthy : s.persistenceHealthy = true)
      (h : Replacing s.toServiceRecord request r) :
      Change may s (persist.final
        ((s.edit fun _ => r).announce (.replace request) broker))
  | replaceLost {s : PaperTradingService B} {request : BrokerReplaceRequest}
      {r r' : ServiceRecord} (broker : B)
      (hhealthy : s.persistenceHealthy = true)
      (h : Replacing s.toServiceRecord request r) (hlost : Edit may r none r') :
      Change may s (persist.final (setSession false
        (((s.edit fun _ => r).announce (.replace request) broker).edit
          fun _ => r')))

abbrev Changes (may : Allowance) : PaperTradingService B → PaperTradingService B → Prop :=
  Runs (Change may)

omit [ContentHash] in
theorem ensurePersistenceHealthy_eq_ok {u : Unit} :
    s.ensurePersistenceHealthy = .ok u ↔ s.persistenceHealthy = true := by
  simp [ensurePersistenceHealthy]

section

variable {s u : PaperTradingService B}

theorem Changes.save {α : Type} {prepared : Option BrokerCommand}
    {r : ServiceRecord} {f : Unit → PaperM B α} (hs : Changes may s u)
    (hhealthy : u.persistenceHealthy = true) (h : Edit may u.toServiceRecord prepared r)
    (hf : ∀ t, persist.run (u.edit fun _ => r) = (.ok (), t) →
      Changes may s t → Changes may s ((f ()).final t)) :
    Changes may s ((persist >>= f).final (u.edit fun _ => r)) := by
  have hsaved : Changes may s (persist.final (u.edit fun _ => r)) :=
    hs.tail (.saved hhealthy h)
  refine final_bind (P := Changes may s) ?_ ?_
  · intro _ t hrun
    rw [final_eq hrun] at hsaved
    exact hf t hrun hsaved
  · intro e t hrun
    rw [final_eq hrun] at hsaved
    exact hsaved

structure Observes (may : Allowance) (s u t : PaperTradingService B) : Prop where
  changes : Changes may s t
  same : t = u.edit fun record =>
    { record with toRunningValues := t.toRunningValues }

namespace Observes

variable {t : PaperTradingService B}

theorem books (h : Observes may s u t) : t.toBooks = u.toBooks := by
  rw [h.same]
  rfl

theorem configuration (h : Observes may s u t) :
    t.toConfiguration = u.toConfiguration := by
  rw [h.same]
  rfl

theorem healthy (h : Observes may s u t) :
    t.persistenceHealthy = u.persistenceHealthy := by
  rw [h.same]
  rfl

end Observes

theorem observe_run {marks : List PaperMarketData} {decidedAt : String}
    {result : Result Decimal} {t : PaperTradingService B} (hs : Changes may s u)
    (hmarks : ∀ mark ∈ marks, mark.validate = .ok ())
    (hdecidedAt : isUtcTimestamp decidedAt = true)
    (hrun : (observe marks decidedAt).run u = (result, t)) : Observes may s u t := by
  have hcached : Changes may s (u.edit (ServiceRecord.cacheMarks marks)) :=
    hs.tail (.observed (.cached hmarks))
  cases hequity : (u.edit (ServiceRecord.cacheMarks marks)).equity with
  | error e =>
    simp only [observe, run_update_bind, run_read_bind,
      hequity, run_lift_bind_error, Prod.mk.injEq] at hrun
    rw [← hrun.2]
    exact ⟨hcached, rfl⟩
  | ok equity =>
    simp only [observe, run_update_bind, run_read_bind,
      hequity, run_lift_bind_ok, run_pure,
      Prod.mk.injEq] at hrun
    rw [← hrun.2]
    exact ⟨hcached.tail (.observed (.noted hdecidedAt hequity)), rfl⟩

end

end PaperTradingService

end Follon.Paper

/-!
## Operations as sequences of changes

Each public operation of the service, traced once from its checks to its
writes.  The last theorem covers every step, so later proofs about runs never
unfold an operation again.
-/

namespace Follon.Paper

open Foundation Domain ControlPlane Accounting

namespace PaperTradingService

variable {B : Type} [ContentHash] {may : Allowance}
  {s u : PaperTradingService B}

/-! ## Submission -/

variable {α β : Type} {decision : RiskDecision} {t : PaperTradingService B}
  {decidedAt orderId : String} {submittedBy : Option String} {v : Unit}
  {result : Result RiskDecision} {intent : ComboIntent}
  {market : PaperComboMarketData} {error : PaperError}
  {operation : Option OrderOperation}

omit [ContentHash] in
theorem onBooks_run (x : BooksM α) (s : PaperTradingService B) : (onBooks x).run s
      = ((x.run s.toBooks).1, s.edit (ServiceRecord.setBooks (x.final s.toBooks))) :=
  rfl

variable {x : BooksM α} {a : α} {lose : BooksM Unit}

omit [ContentHash] in
theorem final_onBooks_bind {books : Books}
    (hrun : x.run u.toBooks = (.ok a, books)) (f : α → PaperM B β) :
    (onBooks x >>= f).final u
      = (f a).final (u.edit fun _ => u.setBooks books) := by
  have hbooks : (onBooks x).run u
      = (.ok a, u.edit fun _ => u.setBooks books) := by
    rw [onBooks_run, hrun, final_eq hrun]
    rfl
  rw [Fallible.final, run_bind_ok hbooks]
  rfl

omit [ContentHash] in
theorem final_onBooks_error {e : PaperError} {books : Books}
    (hrun : x.run u.toBooks = (.error e, books)) (f : α → PaperM B β) :
    (onBooks x >>= f).final u = u.edit fun _ => u.setBooks books := by
  have hbooks : (onBooks x).run u
      = (.error e, u.edit fun _ => u.setBooks books) := by
    rw [onBooks_run, hrun, final_eq hrun]
    rfl
  rw [Fallible.final, run_bind_error hbooks]

omit [ContentHash] in
theorem final_command_bind (sent : BrokerCommand) (call : B → α × B)
    (f : α → PaperM B β) : (command sent call >>= f).final u
      = (f (call u.broker).1).final (u.announce sent (call u.broker).2) :=
  rfl

structure Awaits (may : Allowance) (record : SubmissionRecord)
    (s : ServiceRecord) : Prop where
  accept : ∀ id, isCanonicalId id = true → ∃ books,
    (record.accept id).run s.toBooks = (.ok .acknowledged, books) ∧
      Edit may s none (s.setBooks books)
  reject : ∀ reason, ∃ books,
    (record.reject reason).run s.toBooks = (.ok .rejected, books) ∧
      Edit may s none (s.setBooks books)
  lose : ∀ reason, ∃ books, (record.lose reason).run s.toBooks = (.ok .unknown, books) ∧
      Edit may s none (s.setBooks books)

omit [ContentHash] in
theorem awaits_plain {s : ServiceRecord} {orderId : String}
    {order : PaperOrder} (hfind : s.orders[orderId]? = some order)
    (hstate : order.oms.state = .pendingSubmit) (hfresh : order.Fresh) :
    Awaits may (plainRecord orderId) s := by
  have hpending : isPendingState order.oms.state = true := by
    rw [hstate]
    rfl
  refine ⟨fun id hid => ?_, fun reason => ?_, fun reason => ?_⟩
  · refine ⟨_, ?_, .moved hfind (.accepted hstate hfresh hid)⟩
    simp only [plainRecord, Books.onOrder_run hfind,
      PaperOrder.acceptSubmission_run hstate, Fallible.final]
  · refine ⟨_, ?_, .moved hfind (.rejected hstate hfresh)⟩
    simp only [plainRecord, Books.onOrder_run hfind,
      PaperOrder.rejectSubmission_run hstate, Fallible.final]
  · refine ⟨_, ?_, .moved hfind (.lost hpending)⟩
    simp only [plainRecord, Books.onOrder_run hfind,
      PaperOrder.loseSubmission_run hpending, Fallible.final]

omit [ContentHash] in
theorem awaits_combo {s : ServiceRecord} {orderId : String}
    {order : PaperComboOrder} (hfind : s.comboOrders[orderId]? = some order)
    (hstate : order.oms.state = .pendingSubmit) (hfresh : order.Fresh) :
    Awaits may (comboRecord orderId) s := by
  have hpending : isPendingState order.oms.state = true := by
    rw [hstate]
    rfl
  refine ⟨fun id hid => ?_, fun reason => ?_, fun reason => ?_⟩
  · refine ⟨_, ?_, .comboMoved hfind (.accepted hstate hfresh hid)⟩
    simp only [comboRecord, Books.onCombo_run hfind,
      PaperComboOrder.acceptSubmission_run hstate, Fallible.final]
  · refine ⟨_, ?_, .comboMoved hfind (.rejected hstate hfresh)⟩
    simp only [comboRecord, Books.onCombo_run hfind,
      PaperComboOrder.rejectSubmission_run hstate, Fallible.final]
  · refine ⟨_, ?_, .comboMoved hfind (.lost hpending)⟩
    simp only [comboRecord, Books.onCombo_run hfind,
      PaperComboOrder.loseSubmission_run hpending, Fallible.final]

private theorem answer_changes {x : BooksM OrderState} {state : OrderState}
    {books : Books} {f : OrderState → α} (hs : Changes may s u)
    (hhealthy : u.persistenceHealthy = true) (hrun : x.run u.toBooks = (.ok state, books))
    (hedit : Edit may u.toServiceRecord none (u.setBooks books)) : Changes may s ((do
      let state ← onBooks x
      persist
      pure (f state) : PaperM B α).final u) := by
  rw [final_onBooks_bind hrun]
  exact hs.save hhealthy hedit fun t _ ht => ht

theorem applyReply_changes {record : SubmissionRecord}
    (reply : Result BrokerSubmitResult) (hs : Changes may s u)
    (hhealthy : u.persistenceHealthy = true)
    (hawaits : Awaits may record u.toServiceRecord) :
    Changes may s ((applyReply record decision reply).final u) := by
  cases reply with
  | ok result =>
    cases result with
    | acknowledged id =>
      refine final_lift_bind (P := Changes may s) ?_ hs
      intro _ hid
      obtain ⟨books, hrun, hedit⟩ :=
        hawaits.accept id (validateCanonicalId_eq_ok.mp hid)
      exact answer_changes hs hhealthy hrun hedit
    | rejected reason =>
      refine final_lift_bind (P := Changes may s) ?_ hs
      intro _ _
      obtain ⟨books, hrun, hedit⟩ := hawaits.reject reason
      exact answer_changes hs hhealthy hrun hedit
    | unknown reason =>
      refine final_lift_bind (P := Changes may s) ?_ hs
      intro _ _
      obtain ⟨books, hrun, hedit⟩ := hawaits.lose reason
      exact answer_changes hs hhealthy hrun hedit
  | error error =>
    obtain ⟨books, hrun, hedit⟩ := hawaits.lose record.transportReason
    rw [applyReply, final_onBooks_bind hrun]
    have hlost : Changes may s (setSession false u) := hs.tail (.session u false)
    exact hlost.save hhealthy hedit fun t _ ht => ht

/-! ## Plain orders -/

variable [PaperBrokerAdapter B]

def MayDecide (may : Allowance) (s : PaperTradingService B)
    (intent : OrderIntent) (market : PaperMarketData) (decidedAt : String)
    (submittedBy : Option String) : Prop :=
  s.admitIntent intent market decidedAt submittedBy = .ok () →
    s.orders[OmsOrder.orderIdFor intent.intentId]? = none → ∀ values, may.decision
        { s.toServiceRecord with toRunningValues := values } intent

omit [PaperBrokerAdapter B] in
theorem Observes.allowed (allowed : ServiceRecord → Prop)
    (h : Observes may s u t) (hallowed : ∀ values,
      allowed { u.toServiceRecord with toRunningValues := values }) :
    allowed t.toServiceRecord := by
  rw [h.same]
  exact hallowed t.toRunningValues

omit [ContentHash] in
theorem of_admitIntent {intent : OrderIntent} {market : PaperMarketData}
    (h : u.admitIntent intent market decidedAt submittedBy = .ok v) :
    u.persistenceHealthy = true ∧ AdmittedIntent u.toConfiguration intent market decidedAt
        submittedBy := by
  simp only [admitIntent, bind_eq_ok, refuseIf_eq_ok, exists_const,
    ensurePersistenceHealthy_eq_ok, validateUtcTimestamp_eq_ok,
    Decidable.not_not] at h
  obtain ⟨hhealthy, _, hsubmitter, _, hintent, hdecidedAt, _, hmarket,
    henvironment, haccount, _, -, hinstrument, -⟩ := h
  exact ⟨hhealthy, hsubmitter, hintent, hdecidedAt, hmarket, henvironment,
    haccount, hinstrument⟩

theorem decideIntent_run {intent : OrderIntent} {market : PaperMarketData}
    (hs : Changes may s u)
    (admitted : AdmittedIntent u.toConfiguration intent market decidedAt
      submittedBy) (hrun : (decideIntent intent market decidedAt).run u = (result, t)) :
    Observes may s u t ∧ ∀ decision, result = .ok decision →
      t.Decides intent market decidedAt decision := by
  have hmarks : ∀ mark ∈ [(⟨intent.instrumentId, market.markPrice,
      market.observedAt⟩ : PaperMarketData)], mark.validate = .ok () := by
    intro mark hmark
    rw [mem_singleton.mp hmark, ← admitted.instrument]
    exact admitted.validMarket
  cases hroute : u.ensureRouteCarries intent.timeInForce false with
  | error e =>
    simp only [decideIntent, run_read_bind, hroute,
      run_lift_bind_error, Prod.mk.injEq] at hrun
    obtain ⟨rfl, rfl⟩ := hrun
    exact ⟨⟨hs, rfl⟩, by simp⟩
  | ok v =>
    simp only [decideIntent, run_read_bind, hroute,
      run_lift_bind_ok, evaluateRisk] at hrun
    rcases hobserve : (observe [⟨intent.instrumentId, market.markPrice,
      market.observedAt⟩] decidedAt).run u with ⟨observed, w⟩
    have hw := observe_run hs hmarks admitted.validDecidedAt hobserve
    cases observed with
    | error e =>
      rw [run_bind_error hobserve] at hrun
      obtain ⟨rfl, rfl⟩ := Prod.mk.inj hrun
      exact ⟨hw, by simp⟩
    | ok equity =>
      rw [run_bind_ok hobserve] at hrun
      simp only [run_read_bind, run_lift,
        Prod.mk.injEq] at hrun
      obtain ⟨rfl, rfl⟩ := hrun
      exact ⟨hw, fun decision hdecision => ⟨equity, hdecision⟩⟩

theorem recordDecision_changes {intent : OrderIntent}
    {market : PaperMarketData} (hs : Changes may s u)
    (hhealthy : u.persistenceHealthy = true)
    (admitted : AdmittedIntent u.toConfiguration intent market decidedAt
      submittedBy) (decides : u.Decides intent market decidedAt decision)
    (hnew : u.orders[OmsOrder.orderIdFor intent.intentId]? = none)
    (hmay : may.decision u.toServiceRecord intent) :
    Changes may s ((recordDecision intent market submittedBy decision).final
      u) := by
  rw [recordDecision]
  split
  · next hrefused =>
      exact hs.save hhealthy (.refused admitted decides hnew hrefused hmay)
        fun t _ ht => ht
  · refine final_lift_bind (P := Changes may s) ?_ hs
    intro order horder
    have hedit := Edit.created admitted decides hnew horder hmay
    obtain ⟨homs, hfresh, -, -⟩ := PaperOrder.of_pendingOrder horder
    refine hs.save hhealthy hedit ?_
    intro t hsaved _
    have hpersisted := persist_ok hsaved
    have hannounced : Changes may s (t.announce _ _) :=
      hs.tail (.announced (PaperBrokerAdapter.submit t.broker
          (BrokerOrderRequest.fromOrder order.oms)).2 hhealthy hedit hsaved)
    refine applyReply_changes _ hannounced ?_ ?_
    · exact hpersisted.2.2.2.trans hhealthy
    · refine @awaits_plain _ _ _ order ?_ ?_ hfresh
      · change t.orders[_]? = _
        rw [hpersisted.1]
        simp [ServiceRecord.recordOrder, ServiceRecord.recordEvidence,
          ServiceRecord.setBooks, Books.putOrder, edit, BrokerOrderRequest.fromOrder]
      · rw [homs]

theorem submitIntentAs_changes (intent : OrderIntent)
    (market : PaperMarketData) (decidedAt : String)
    (submittedBy : Option String) (s : PaperTradingService B)
    (hmay : MayDecide may s intent market decidedAt submittedBy) :
    Changes may s ((submitIntentAs intent market decidedAt submittedBy).final
      s) := by
  rw [submitIntentAs, final_read_bind]
  refine final_lift_bind (P := Changes may s) ?_ .refl
  intro _ hadmit
  obtain ⟨hhealthy, admitted⟩ := of_admitIntent hadmit
  split
  · exact .refl
  · next hnew =>
      refine final_bind (P := Changes may s) ?_ ?_
      · intro decision t hrun
        obtain ⟨hobserves, hdecides⟩ := decideIntent_run .refl admitted hrun
        refine recordDecision_changes hobserves.changes ?_ ?_
          (hdecides decision rfl) ?_
          (hobserves.allowed (may.decision · intent) (hmay hadmit hnew))
        · rw [hobserves.healthy, hhealthy]
        · rw [hobserves.configuration]
          exact admitted
        · rw [hobserves.books]
          exact hnew
      · intro e t hrun
        exact (decideIntent_run .refl admitted hrun).1.changes

/-! ## Combinations -/

def MayDecideCombo (may : Allowance) (s : PaperTradingService B)
    (intent : ComboIntent) (market : PaperComboMarketData)
    (decidedAt : String) (submittedBy : Option String) : Prop :=
  s.admitCombo intent market decidedAt submittedBy = .ok () →
    s.comboOrders[OmsComboOrder.orderIdFor intent.intentId]? = none →
      ∀ values, may.comboDecision
        { s.toServiceRecord with toRunningValues := values } intent

omit [ContentHash] [PaperBrokerAdapter B] in
theorem of_checkComboObservation {record : ServiceRecord}
    (h : record.checkComboObservation intent market decidedAt = .ok v) :
    isUtcTimestamp decidedAt = true ∧
      BrokerComboExecution.isWhole intent.comboQuantity = true ∧
        ∀ mark ∈ market.marks, mark.validate = .ok () := by
  simp only [ServiceRecord.checkComboObservation,
    PaperComboMarketData.validateFor, bind_eq_ok, checkAll_eq_ok,
    refuseIf_eq_ok, validateUtcTimestamp_eq_ok, exists_const,
    not_eq_false] at h
  obtain ⟨_, -, hdecidedAt, hwhole, ⟨-, hmarks, -⟩, -⟩ := h
  exact ⟨hdecidedAt, hwhole, hmarks⟩

omit [PaperBrokerAdapter B] in
theorem evaluateComboRisk_run (hs : Changes may s u)
    (hrun : (evaluateComboRisk intent market decidedAt).run u = (result, t)) :
    Observes may s u t ∧ ∀ decision, result = .ok decision →
      t.DecidesCombo intent market decidedAt decision ∧
        BrokerComboExecution.isWhole intent.comboQuantity = true := by
  cases hcheck : u.checkComboObservation intent market decidedAt with
  | error e =>
    simp only [evaluateComboRisk, run_read_bind, hcheck,
      run_lift_bind_error, Prod.mk.injEq] at hrun
    obtain ⟨rfl, rfl⟩ := hrun
    exact ⟨⟨hs, rfl⟩, by simp⟩
  | ok v =>
    simp only [evaluateComboRisk, run_read_bind, hcheck,
      run_lift_bind_ok] at hrun
    obtain ⟨hdecidedAt, hwhole, hmarks⟩ := of_checkComboObservation hcheck
    rcases hobserve : (observe market.marks decidedAt).run u
      with ⟨observed, w⟩
    have hw := observe_run hs hmarks hdecidedAt hobserve
    cases observed with
    | error e =>
      rw [run_bind_error hobserve] at hrun
      obtain ⟨rfl, rfl⟩ := Prod.mk.inj hrun
      exact ⟨hw, by simp⟩
    | ok equity =>
      rw [run_bind_ok hobserve] at hrun
      simp only [run_read_bind, run_lift,
        Prod.mk.injEq] at hrun
      obtain ⟨rfl, rfl⟩ := hrun
      exact ⟨hw, fun decision hdecision => ⟨⟨equity, hdecision⟩, hwhole⟩⟩

theorem decideCombo_run (hs : Changes may s u)
    (hrun : (decideCombo intent market decidedAt).run u = (result, t)) :
    Observes may s u t ∧ ∀ decision, result = .ok decision →
      t.DecidesCombo intent market decidedAt decision ∧
        BrokerComboExecution.isWhole intent.comboQuantity = true := by
  cases hroute : u.ensureRouteCarries intent.timeInForce true with
  | error e =>
    simp only [decideCombo, run_read_bind, hroute,
      run_lift_bind_error, Prod.mk.injEq] at hrun
    obtain ⟨rfl, rfl⟩ := hrun
    exact ⟨⟨hs, rfl⟩, by simp⟩
  | ok v =>
    simp only [decideCombo, run_read_bind, hroute,
      run_lift_bind_ok] at hrun
    exact evaluateComboRisk_run hs hrun

omit [ContentHash] in
theorem of_admitCombo (h : u.admitCombo intent market decidedAt submittedBy = .ok v)
    (hwhole : BrokerComboExecution.isWhole intent.comboQuantity = true) :
    AdmittedCombo u.toConfiguration intent market decidedAt submittedBy := by
  simp only [admitCombo, bind_eq_ok, refuseIf_eq_ok, exists_const,
    ensurePersistenceHealthy_eq_ok, validateUtcTimestamp_eq_ok,
    Decidable.not_not] at h
  obtain ⟨-, _, hsubmitter, _, hintent, hdecidedAt, _, hmarket, henvironment,
    haccount, -⟩ := h
  exact ⟨hsubmitter, hintent, hdecidedAt, hmarket, henvironment, haccount, hwhole⟩

theorem recordComboDecision_changes (hs : Changes may s u)
    (hhealthy : u.persistenceHealthy = true)
    (admitted : AdmittedCombo u.toConfiguration intent market decidedAt
      submittedBy) (decides : u.DecidesCombo intent market decidedAt decision)
    (hnew : u.comboOrders[OmsComboOrder.orderIdFor intent.intentId]? = none)
    (hmay : may.comboDecision u.toServiceRecord intent) :
    Changes may s ((recordComboDecision intent market submittedBy
      decision).final u) := by
  rw [recordComboDecision]
  split
  · next hrefused =>
      exact hs.save hhealthy (.comboRefused admitted decides hnew hrefused hmay)
        fun t _ ht => ht
  · refine final_lift_bind (P := Changes may s) ?_ hs
    rintro ⟨order, request⟩ horder
    have hedit := Edit.comboCreated admitted decides hnew horder hmay
    obtain ⟨homs, hfresh, -, -, hrequest⟩ :=
      PaperComboOrder.of_pendingCombo horder
    refine hs.save hhealthy hedit ?_
    intro t hsaved _
    have hpersisted := persist_ok hsaved
    have hannounced : Changes may s (t.announce _ _) :=
      hs.tail (.announced (PaperBrokerAdapter.submitCombo t.broker request).2
        hhealthy hedit hsaved)
    refine applyReply_changes _ hannounced ?_ ?_
    · exact hpersisted.2.2.2.trans hhealthy
    · refine @awaits_combo _ _ _ order ?_ ?_ hfresh
      · change t.comboOrders[_]? = _
        rw [hpersisted.1, hrequest]
        simp [ServiceRecord.recordCombo, ServiceRecord.recordComboEvidence,
          ServiceRecord.setBooks, Books.putCombo, edit]
      · rw [homs]

theorem submitComboIntentAs_changes (intent : ComboIntent)
    (market : PaperComboMarketData) (decidedAt : String)
    (submittedBy : Option String) (s : PaperTradingService B)
    (hmay : MayDecideCombo may s intent market decidedAt submittedBy) :
    Changes may s ((submitComboIntentAs intent market decidedAt
      submittedBy).final s) := by
  rw [submitComboIntentAs, final_read_bind]
  refine final_lift_bind (P := Changes may s) ?_ .refl
  intro _ hadmit
  split
  · exact .refl
  · next hnew =>
      refine final_bind (P := Changes may s) ?_ ?_
      · intro decision t hrun
        obtain ⟨hobserves, hdecides⟩ := decideCombo_run .refl hrun
        obtain ⟨hdecides, hwhole⟩ := hdecides decision rfl
        refine recordComboDecision_changes hobserves.changes ?_ ?_ hdecides ?_
          (hobserves.allowed (may.comboDecision · intent) (hmay hadmit hnew))
        · rw [hobserves.healthy]
          simp only [admitCombo, bind_eq_ok,
            ensurePersistenceHealthy_eq_ok, exists_const] at hadmit
          exact hadmit.1
        · rw [hobserves.configuration]
          exact of_admitCombo hadmit hwhole
        · rw [hobserves.books]
          exact hnew
      · intro e t hrun
        exact (decideCombo_run .refl hrun).1.changes

omit [PaperBrokerAdapter B] in
theorem evaluateComboRisk_changes (intent : ComboIntent)
    (market : PaperComboMarketData) (decidedAt : String) (s : PaperTradingService B) :
    Changes may s ((evaluateComboRisk intent market decidedAt).final s) :=
  (evaluateComboRisk_run .refl rfl).1.changes

/-! ## Cancellation -/

omit [PaperBrokerAdapter B] in
private theorem lose_changes {books : Books} (hs : Changes may s u)
    (hhealthy : u.persistenceHealthy = true)
    (hlose : lose.run u.toBooks = (.ok (), books))
    (hedit : Edit may u.toServiceRecord none (u.setBooks books)) : Changes may s ((do
      onBooks lose
      Fallible.update (setSession false)
      persist
      Fallible.fail error : PaperM B α).final u) := by
  rw [final_onBooks_bind hlose]
  have hlost : Changes may s (setSession false u) := hs.tail (.session u false)
  exact hlost.save hhealthy hedit fun t _ ht => ht

theorem requestCancel_changes {books : Books} (hannounced : ∀ broker, Changes may s
      (u.announce (.cancel (u.cancelRequestFor orderId)) broker))
    (hhealthy : u.persistenceHealthy = true)
    (hlose : lose.run u.toBooks = (.ok (), books))
    (hedit : Edit may u.toServiceRecord none (u.setBooks books)) :
    Changes may s ((requestCancel orderId lose).final u) := by
  have hcommanded := hannounced
    (PaperBrokerAdapter.cancel u.broker (u.cancelRequestFor orderId)).2
  rw [requestCancel, final_read_bind]
  simp only [final_command_bind]
  split
  · exact hcommanded
  · exact lose_changes hcommanded hhealthy hlose hedit

theorem cancelPlainOrder_changes (hhealthy : s.persistenceHealthy = true)
    (hplain : orderId ∉ s.comboOrders)
    (hoperation : ∀ op ∈ operation, AttributedTo orderId op) :
    Changes may s ((cancelPlainOrder orderId operation).final s) := by
  rw [cancelPlainOrder, final_read_bind]
  refine final_lift_bind (P := Changes may s) ?_ .refl
  intro _ _
  refine final_lift_bind (P := Changes may s) ?_ .refl
  intro order hfind
  rw [Books.findOrder_eq_ok] at hfind
  split
  · exact .refl
  · refine final_lift_bind (P := Changes may s) ?_ .refl
    intro _ hstate
    rw [refuseIf_eq_ok, not_eq_false] at hstate
    have hmoved := PaperOrder.move_ok
      (isValidTransition_pendingCancel hstate) "PAPER_CANCEL_REQUESTED"
    have hedit : Edit may s.toServiceRecord _ _ :=
      .cancelling hplain hfind hstate hoperation
    rw [final_onBooks_bind (by
      rw [Books.onOrder_run hfind, hmoved, final_eq hmoved])]
    refine Changes.save (u := s) .refl hhealthy hedit ?_
    intro t hsaved _
    have hpersisted := persist_ok hsaved
    have horder : t.orders[orderId]? = some (order.inState .pendingCancel) := by
      rw [hpersisted.1]
      simp [ServiceRecord.noteOperation, ServiceRecord.setBooks, Books.putOrder, edit]
    have hlost := @PaperOrder.move_unknown_run
      (order.inState .pendingCancel) rfl
      "PAPER_CANCEL_OUTCOME_UNKNOWN"
    refine requestCancel_changes (fun broker => ?_)
      (hpersisted.2.2.2.trans hhealthy) (by
        rw [Books.onOrder_run horder, hlost, final_eq hlost])
      (.moved horder (.lost rfl))
    rw [hpersisted.1]
    exact .single (.announced broker hhealthy hedit hsaved)

theorem cancelComboOrder_changes (hhealthy : s.persistenceHealthy = true)
    (hoperation : ∀ op ∈ operation, AttributedTo orderId op) :
    Changes may s ((cancelComboOrder orderId operation).final s) := by
  rw [cancelComboOrder, final_read_bind]
  refine final_lift_bind (P := Changes may s) ?_ .refl
  intro _ _
  refine final_lift_bind (P := Changes may s) ?_ .refl
  intro order hfind
  rw [Books.findCombo_eq_ok] at hfind
  split
  · exact .refl
  · refine final_lift_bind (P := Changes may s) ?_ .refl
    intro _ hchecked
    rw [refuseIf_eq_ok, not_or, Decidable.not_not, not_eq_false]
      at hchecked
    obtain ⟨hclean, hstate⟩ := hchecked
    have hmoved := PaperComboOrder.move_ok
      (isValidTransition_pendingCancel hstate) "PAPER_COMBO_CANCEL_REQUESTED"
    have hedit : Edit may s.toServiceRecord _ _ :=
      .comboCancelling hfind hstate hclean hoperation
    rw [final_onBooks_bind (by
      rw [Books.onCombo_run hfind, hmoved, final_eq hmoved])]
    refine Changes.save (u := s) .refl hhealthy hedit ?_
    intro t hsaved _
    have hpersisted := persist_ok hsaved
    have horder :
        t.comboOrders[orderId]? = some (order.inState .pendingCancel) := by
      rw [hpersisted.1]
      simp [ServiceRecord.noteOperation, ServiceRecord.setBooks, Books.putCombo, edit]
    have hlost := @PaperComboOrder.move_unknown_run
      (order.inState .pendingCancel) rfl
      "PAPER_COMBO_CANCEL_OUTCOME_UNKNOWN"
    refine requestCancel_changes (fun broker => ?_)
      (hpersisted.2.2.2.trans hhealthy) (by
        rw [Books.onCombo_run horder, hlost, final_eq hlost])
      (.comboMoved horder (.lost rfl))
    rw [hpersisted.1]
    exact .single (.announced broker hhealthy hedit hsaved)

theorem cancelOrderAttributed_changes
    (hoperation : ∀ op ∈ operation, AttributedTo orderId op) :
    Changes may s ((cancelOrderAttributed orderId operation).final s) := by
  rw [cancelOrderAttributed, final_read_bind]
  refine final_lift_bind (P := Changes may s) ?_ .refl
  intro _ hhealthy
  rw [ensurePersistenceHealthy_eq_ok] at hhealthy
  split
  · exact cancelComboOrder_changes hhealthy hoperation
  · next hplain => exact cancelPlainOrder_changes hhealthy hplain hoperation

theorem cancelOrderAs_changes (orderId operator operatedAt : String)
    (s : PaperTradingService B) :
    Changes may s ((cancelOrderAs orderId operator operatedAt).final s) := by
  rw [cancelOrderAs]
  refine final_lift_bind (P := Changes may s) ?_ .refl
  intro _ hoperator
  refine final_lift_bind (P := Changes may s) ?_ .refl
  intro _ hoperatedAt
  apply cancelOrderAttributed_changes
  rintro _ ⟨rfl⟩
  exact ⟨rfl, validateCanonicalId_eq_ok.mp hoperator,
    validateUtcTimestamp_eq_ok.mp hoperatedAt⟩

/-! ## Replacement -/

omit [ContentHash] [PaperBrokerAdapter B] in
theorem of_replaceRequestFor {order : PaperOrder} {price : Decimal}
    {request : BrokerReplaceRequest} (h : replaceRequestFor order price = .ok request) :
    isWorkingState order.oms.state = true ∧
      order.brokerOrderId = some request.previousBrokerOrderId ∧
        request.clientOrderId = order.oms.orderId := by
  simp only [replaceRequestFor, bind_eq_ok, refuseIf_eq_ok,
    not_eq_false, exists_const] at h
  obtain ⟨hstate, hrest⟩ := h
  split at hrest
  · contradiction
  · simp only [bind_eq_ok, refuseIf_eq_ok, exists_const] at hrest
    obtain ⟨-, hrest⟩ := hrest
    split at hrest
    · contradiction
    · next hbroker =>
        simp only [pure_eq_ok] at hrest
        rw [← hrest]
        exact ⟨hstate, hbroker, rfl⟩

theorem replaceOrder_changes (orderId : String) (price : Decimal)
    (s : PaperTradingService B) :
    Changes may s ((replaceOrder orderId price).final s) := by
  rw [replaceOrder, final_read_bind]
  refine final_lift_bind (P := Changes may s) ?_ .refl
  intro _ hhealthy
  rw [ensurePersistenceHealthy_eq_ok] at hhealthy
  refine final_lift_bind (P := Changes may s) ?_ .refl
  intro _ _
  refine final_lift_bind (P := Changes may s) ?_ .refl
  intro _ _
  refine final_lift_bind (P := Changes may s) ?_ .refl
  intro _ _
  refine final_lift_bind (P := Changes may s) ?_ .refl
  intro order hfind
  rw [Books.findOrder_eq_ok] at hfind
  refine final_lift_bind (P := Changes may s) ?_ .refl
  intro request hrequest
  have hbegun := PaperOrder.beginReplacement_run
    (of_replaceRequestFor hrequest).1
  have hreplacing : Replacing s.toServiceRecord request _ := .begun hfind hrequest
  rw [final_onBooks_bind (by
    rw [Books.onOrder_run hfind, hbegun, final_eq hbegun])]
  rw [final_command_bind]
  split
  · exact .single (.replaced _ hhealthy hreplacing)
  · have horder : (s.putOrder orderId order.replacing).orders[orderId]?
        = some order.replacing := by
      simp [ServiceRecord.putOrder, ServiceRecord.setBooks, Books.putOrder]
    have hlost := @PaperOrder.move_unknown_run
      order.replacing rfl "PAPER_REPLACE_OUTCOME_UNKNOWN"
    have hbooks := @Books.onOrder_run Unit
      (s.putOrder orderId order.replacing).toBooks orderId _ horder
      (PaperOrder.move .unknown "PAPER_REPLACE_OUTCOME_UNKNOWN")
    rw [hlost, final_eq hlost] at hbooks
    rw [final_onBooks_bind hbooks, final_update_bind, Fallible.final_bind_fail]
    exact .single (.replaceLost _ hhealthy hreplacing (.moved horder (.lost rfl)))

/-! ## Kill switches -/

omit [PaperBrokerAdapter B] in
theorem activateKillSwitch_changes (scope : KillSwitchScope) (s : PaperTradingService B) :
    Changes may s ((activateKillSwitch scope).final s) := by
  rw [activateKillSwitch, final_read_bind]
  refine final_lift_bind (P := Changes may s) ?_ .refl
  intro _ hhealthy
  rw [ensurePersistenceHealthy_eq_ok] at hhealthy
  refine final_lift_bind (P := Changes may s) ?_ .refl
  rintro ⟨changed, registry⟩ houtcome
  have hedit : Edit may s.toServiceRecord none (s.setSwitches registry) :=
    @Edit.switched _ _ scope .activate _ _ houtcome
  exact Changes.save (u := s) .refl hhealthy hedit fun t _ ht => ht

omit [ContentHash] [PaperBrokerAdapter B] in
theorem switchOutcome_unchanged {registry registry' : KillSwitchRegistry}
    {scope : KillSwitchScope} {action : KillSwitchAction}
    (h : switchOutcome registry scope action = .ok (false, registry')) :
    registry' = registry := by
  cases action with
  | activate =>
    simp only [switchOutcome, KillSwitchRegistry.activate, bind_eq_ok, pure_eq_ok, Prod.mk.injEq,
      Bool.not_eq_false'] at h
    obtain ⟨-, -, hactive, rfl⟩ := h
    have hsame : registry.active.insert scope = registry.active := by
      ext other
      rw [mem_insert]
      refine ⟨?_, .inr⟩
      rintro (hsame | hmem)
      · rw [Std.LawfulEqCmp.compare_eq_iff_eq] at hsame
        rw [← hsame]
        exact hactive
      · exact hmem
    rw [hsame]
  | release =>
    simp only [switchOutcome, KillSwitchRegistry.deactivate,
      Except.ok.injEq, Prod.mk.injEq] at h
    obtain ⟨hinactive, rfl⟩ := h
    have hsame : registry.active.erase scope = registry.active := by
      ext other
      rw [Std.ExtTreeSet.mem_erase]
      refine ⟨fun h => h.2, fun hmem => ⟨?_, hmem⟩⟩
      intro hsame
      rw [Std.LawfulEqCmp.compare_eq_iff_eq] at hsame
      rw [hsame, Std.ExtTreeSet.contains_iff_mem.mpr hmem] at hinactive
      contradiction
    rw [hsame]

omit [PaperBrokerAdapter B] in
theorem persistIf_changes {changed : Bool} {r : ServiceRecord}
    (hhealthy : s.persistenceHealthy = true)
    (hchanged : changed = true → Edit may s.toServiceRecord none r)
    (hunchanged : changed = false → r = s.toServiceRecord) : Changes may s ((do
      persistIf changed
      pure a : PaperM B α).final (s.edit fun _ => r)) := by
  cases changed with
  | true =>
    exact Changes.save (u := s) .refl hhealthy (hchanged rfl)
      fun t _ ht => ht
  | false =>
    rw [hunchanged rfl]
    exact .refl

omit [PaperBrokerAdapter B] in
theorem deactivateKillSwitch_changes (scope : KillSwitchScope)
    (s : PaperTradingService B) :
    Changes may s ((deactivateKillSwitch scope).final s) := by
  rw [deactivateKillSwitch, final_read_bind]
  refine final_lift_bind (P := Changes may s) ?_ .refl
  intro _ hhealthy
  rw [ensurePersistenceHealthy_eq_ok] at hhealthy
  rcases hdeactivate : s.killSwitches.deactivate scope
    with ⟨changed, registry⟩
  have houtcome : switchOutcome s.killSwitches scope .release
      = .ok (changed, registry) := by
    rw [switchOutcome, hdeactivate]
  refine persistIf_changes (s := s) (r := s.setSwitches registry) hhealthy
    ?_ ?_
  · exact fun _ => .switched houtcome
  · rintro rfl
    rw [switchOutcome_unchanged houtcome]
    rfl

omit [PaperBrokerAdapter B] in
theorem operateKillSwitchAs_changes (scope : KillSwitchScope)
    (action : KillSwitchAction) (operator operatedAt : String)
    (s : PaperTradingService B) :
    Changes may s ((operateKillSwitchAs scope action operator
      operatedAt).final s) := by
  rw [operateKillSwitchAs, final_read_bind]
  refine final_lift_bind (P := Changes may s) ?_ .refl
  intro _ hhealthy
  rw [ensurePersistenceHealthy_eq_ok] at hhealthy
  refine final_lift_bind (P := Changes may s) ?_ .refl
  intro _ hscope
  refine final_lift_bind (P := Changes may s) ?_ .refl
  intro _ hoperator
  refine final_lift_bind (P := Changes may s) ?_ .refl
  intro _ hoperatedAt
  refine final_lift_bind (P := Changes may s) ?_ .refl
  rintro ⟨changed, registry⟩ houtcome
  refine persistIf_changes (s := s)
    (r := (s.setSwitches registry).noteSwitch changed
      ⟨scope.asKey, action, operator, operatedAt⟩) hhealthy ?_ ?_
  · rintro rfl
    exact .operated hscope (validateCanonicalId_eq_ok.mp hoperator)
      (validateUtcTimestamp_eq_ok.mp hoperatedAt) houtcome
  · rintro rfl
    rw [switchOutcome_unchanged houtcome]
    rfl

/-! ## Corporate actions -/

def MayAct (may : Allowance) (s : PaperTradingService B)
    (request : PaperCorporateAction) : Prop :=
  s.admitCorporateAction request = .ok () → may.action s.toServiceRecord request

omit [PaperBrokerAdapter B] in
theorem applyCorporateAction_changes (request : PaperCorporateAction)
    (s : PaperTradingService B) (hmay : MayAct may s request) :
    Changes may s ((applyCorporateAction request).final s) := by
  rw [applyCorporateAction, final_read_bind]
  refine final_lift_bind (P := Changes may s) ?_ .refl
  intro _ hadmit
  have hallowed := hmay hadmit
  simp only [admitCorporateAction, bind_eq_ok, refuseIf_eq_ok, exists_const,
    ensurePersistenceHealthy_eq_ok, validateCanonicalId_eq_ok,
    validateUtcTimestamp_eq_ok] at hadmit
  obtain ⟨hhealthy, _, haction, happliedBy, happliedAt, heffective⟩ := hadmit
  split
  · exact .refl
  · next hunapplied =>
      refine final_lift_bind (P := Changes may s) ?_ .refl
      intro _ _
      refine final_lift_bind (P := Changes may s) ?_ .refl
      rintro ⟨after, receipt⟩ heffect
      have hedit : Edit may s.toServiceRecord none (after.noteReceipt receipt) :=
        .acted ⟨haction, happliedBy, happliedAt, heffective, hunapplied⟩
          heffect hallowed
      exact Changes.save (u := s) .refl hhealthy hedit fun t _ ht => ht

/-! ## Synchronization -/

/-- A computation that ran through changes and, when it returned, left the
service healthy. -/
structure Completes {α : Type} (may : Allowance) (s : PaperTradingService B)
    (x : PaperM B α) (u : PaperTradingService B) : Prop where
  changes : Changes may s (x.final u)
  healthy : ∀ a t, x.run u = (.ok a, t) → t.persistenceHealthy = true

namespace Completes

variable {α β : Type} {x : PaperM B α} {f : α → PaperM B β}

omit [PaperBrokerAdapter B] in
theorem bindRun (hx : Completes may s x u)
    (hf : ∀ a t, x.run u = (.ok a, t) → Changes may s t →
      t.persistenceHealthy = true → Completes may s (f a) t) :
    Completes may s (x >>= f) u := by
  have hchanges := hx.changes
  refine ⟨final_bind (P := Changes may s) ?_ ?_, ?_⟩
  · intro a t hrun
    rw [final_eq hrun] at hchanges
    exact (hf a t hrun hchanges (hx.healthy a t hrun)).changes
  · intro e t hrun
    rw [final_eq hrun] at hchanges
    exact hchanges
  · intro b t hrun
    obtain ⟨a, w, hrun, hrest⟩ := run_bind_eq_ok.mp hrun
    rw [final_eq hrun] at hchanges
    exact (hf a w hrun hchanges (hx.healthy a w hrun)).healthy b t hrest

omit [PaperBrokerAdapter B] in
theorem bind (hx : Completes may s x u)
    (hf : ∀ a t, Changes may s t → t.persistenceHealthy = true →
      Completes may s (f a) t) : Completes may s (x >>= f) u :=
  hx.bindRun fun a t _ => hf a t

omit [PaperBrokerAdapter B] in
theorem pure (hs : Changes may s u) (hhealthy : u.persistenceHealthy = true)
    (a : α) : Completes may s (Pure.pure a) u := by
  refine ⟨hs, ?_⟩
  intro b t hrun
  rw [run_pure] at hrun
  rw [← (Prod.mk.inj hrun).2]
  exact hhealthy

omit [PaperBrokerAdapter B] in
theorem save {prepared : Option BrokerCommand} {r : ServiceRecord}
    (hs : Changes may s u) (hhealthy : u.persistenceHealthy = true)
    (h : Edit may u.toServiceRecord prepared r) :
    Completes may s persist (u.edit fun _ => r) := by
  refine ⟨hs.tail (.saved hhealthy h), ?_⟩
  intro _ t hrun
  rw [(persist_ok hrun).2.2.2]
  exact hhealthy

omit [PaperBrokerAdapter B] in
theorem fail (hs : Changes may s u) (e : PaperError) :
    Completes may s (Fallible.fail e : PaperM B α) u :=
  ⟨hs, fun _ _ hrun => nomatch hrun⟩

omit [PaperBrokerAdapter B] in
theorem lift {result : Result β} {g : β → PaperM B α} (hs : Changes may s u)
    (h : ∀ b, result = .ok b → Completes may s (g b) u) :
    Completes may s (Fallible.lift result >>= g) u := by
  cases result with
  | ok b => exact ⟨(h b rfl).changes, (h b rfl).healthy⟩
  | error e => exact ⟨hs, fun _ _ hrun => nomatch hrun⟩

omit [PaperBrokerAdapter B] in
theorem check {result : Result α} (hs : Changes may s u)
    (hhealthy : u.persistenceHealthy = true) :
    Completes may s (Fallible.lift result) u := by
  refine ⟨hs, ?_⟩
  intro a t hrun
  rw [run_lift] at hrun
  rw [← (Prod.mk.inj hrun).2]
  exact hhealthy

omit [PaperBrokerAdapter B] in
theorem update {g : PaperTradingService B → PaperTradingService B}
    {h : Unit → PaperM B β} (hrest : Completes may s (h ()) (g u)) :
    Completes may s (Fallible.update g >>= h) u :=
  ⟨hrest.changes, hrest.healthy⟩

omit [PaperBrokerAdapter B] in
theorem query {ask : B → Result α × B} {g : Result α → PaperM B β}
    (h : Completes may s (g (ask u.broker).1) (u.setBroker (ask u.broker).2)) :
    Completes may s (PaperTradingService.query ask >>= g) u :=
  ⟨h.changes, h.healthy⟩

omit [PaperBrokerAdapter B] in
theorem read {g : PaperTradingService B → PaperM B β}
    (h : Completes may s (g u) u) : Completes may s (Fallible.read >>= g) u :=
  ⟨h.changes, h.healthy⟩

end Completes

omit [PaperBrokerAdapter B] in
theorem onBooks_completes {f : α → PaperM B β} {books : Books}
    (hrun : x.run u.toBooks = (.ok a, books))
    (h : Completes may s (f a) (u.edit fun _ => u.setBooks books)) :
    Completes may s (onBooks x >>= f) u := by
  have hbooks : (onBooks x).run u
      = (.ok a, u.edit fun _ => u.setBooks books) := by
    rw [onBooks_run, hrun, final_eq hrun]
    rfl
  refine ⟨?_, ?_⟩
  · rw [Fallible.final, run_bind_ok hbooks]
    exact h.changes
  · intro b t hf
    rw [run_bind_ok hbooks] at hf
    exact h.healthy b t hf

omit [PaperBrokerAdapter B] in
theorem recordAnomaly_completes (hs : Changes may s u)
    (hhealthy : u.persistenceHealthy = true) :
    Completes may s (recordAnomaly orderId error) u := by
  refine Completes.read ?_
  split
  · next hmem =>
      have hfind := Std.ExtTreeMap.getElem?_eq_some_getElem hmem
      have hcombo := Books.onCombo_run hfind
        (PaperComboOrder.noteAnomaly error.message)
      rcases PaperComboOrder.noteAnomaly_cases u.comboOrders[orderId]
        error.message with
        ⟨-, hrun⟩ | ⟨-, hrun⟩ | ⟨hunknown, hfilled, hvalid, e, hrun⟩
      · rw [hrun, final_eq hrun] at hcombo
        exact onBooks_completes hcombo
          (.save hs hhealthy (.flagged hfind hrun))
      · rw [hrun, final_eq hrun] at hcombo
        exact onBooks_completes hcombo
          (.save hs hhealthy (.flagged hfind hrun))
      · rw [hrun, final_eq hrun] at hcombo
        refine ⟨?_, ?_⟩
        · rw [final_onBooks_error hcombo]
          exact hs.tail (.observed (.marked hfind hvalid ⟨hunknown, hfilled⟩))
        · intro a t hok
          obtain ⟨_, _, hfirst, -⟩ := run_bind_eq_ok.mp hok
          rw [onBooks_run, hcombo] at hfirst
          simp at hfirst
  · exact .pure hs hhealthy ()

omit [PaperBrokerAdapter B] in
theorem applyPolled_completes {event : BrokerEvent} (hs : Changes may s u)
    (hhealthy : u.persistenceHealthy = true) (hmay : may.event u.toServiceRecord event) :
    Completes may s (applyPolled event) u := by
  refine Completes.read ?_
  rcases happly : (Books.applyBrokerEvent u.toConfiguration event).run
    u.toBooks with ⟨result, books⟩
  cases result with
  | ok v =>
    have hrun : (Books.applyOrRollback u.toConfiguration event).run u.toBooks
        = (.ok (.ok ()), books) := by
      simp only [Books.applyOrRollback, Fallible.run] at happly ⊢
      rw [happly]
    refine onBooks_completes hrun (.bind
      (.save hs hhealthy (.applied happly hmay)) fun _ t ht hok => ?_)
    exact .pure ht hok []
  | error error =>
    have hrun : (Books.applyOrRollback u.toConfiguration event).run u.toBooks
        = (.ok (.error error), u.toBooks) := by
      simp only [Books.applyOrRollback, Fallible.run] at happly ⊢
      rw [happly]
    refine onBooks_completes hrun (.bind
      (recordAnomaly_completes hs hhealthy) fun _ t ht hok => ?_)
    exact .pure ht hok [error.message]

def AllowedBatch (may : Allowance) : PaperTradingService B → List BrokerEvent → Prop
  | _, [] => True
  | s, event :: events =>
    may.event s.toServiceRecord event ∧
      AllowedBatch may ((applyPolled event).final s) events

def MaySynchronize (may : Allowance) (s : PaperTradingService B) : Prop :=
  ∀ events, (PaperBrokerAdapter.poll s.broker s.account.accountId).1 = .ok events →
    AllowedBatch may (s.setBroker
      (PaperBrokerAdapter.poll s.broker s.account.accountId).2) events

omit [PaperBrokerAdapter B] in
theorem applyBatch_completes {events : List BrokerEvent}
    (hs : Changes may s u) (hhealthy : u.persistenceHealthy = true)
    (hmay : AllowedBatch may u events) : Completes may s (applyBatch events) u := by
  induction events generalizing u with
  | nil => exact .pure hs hhealthy []
  | cons event events ih =>
    refine .bindRun (applyPolled_completes hs hhealthy hmay.1) ?_
    intro failed t hrun ht hok
    have hrest := hmay.2
    rw [final_eq hrun] at hrest
    refine .bind (ih ht hok hrest) ?_
    intro rest w hw hok
    exact .pure hw hok (failed ++ rest)

omit [PaperBrokerAdapter B] in
theorem loseSession_completes (hs : Changes may s u)
    (hhealthy : u.persistenceHealthy = true) :
    Completes may s (loseSession error : PaperM B α) u := by
  have hlost : Changes may s (setSession false u) := hs.tail (.session u false)
  refine .update (.bind ⟨hlost.tail (.resaved hhealthy), ?_⟩
    fun _ t ht _ => .fail ht error)
  intro _ t hrun
  rw [(persist_ok hrun).2.2.2]
  exact hhealthy

theorem synchronize_completes (hs : Changes may s u) (hmay : MaySynchronize may u) :
    Completes may s synchronize u := by
  refine .read (.lift hs fun _ hhealthy => .lift hs fun _ _ => .query ?_)
  rw [ensurePersistenceHealthy_eq_ok] at hhealthy
  have hpolled := hs.tail (.brokerMoved u
    (PaperBrokerAdapter.poll u.broker u.account.accountId).2)
  split
  · exact loseSession_completes hpolled hhealthy
  · next events hevents =>
      refine .bind (applyBatch_completes hpolled hhealthy (hmay events hevents)) ?_
      intro failed t ht hok
      split
      · exact .fail ht _
      · exact .pure ht hok _

/-! ## Reconciliation -/

omit [PaperBrokerAdapter B] in
theorem recordComparison_completes {reconciledAt : String}
    {snapshot : BrokerAccountSnapshot} (hs : Changes may s u)
    (hhealthy : u.persistenceHealthy = true)
    (hreconciledAt : isUtcTimestamp reconciledAt = true)
    (hsnapshot : validateBrokerSnapshot snapshot = .ok ()) :
    Completes may s (recordComparison reconciledAt snapshot) u := by
  have hcounted : Changes may s (u.edit ServiceRecord.countReconciliation) :=
    hs.tail (.observed .counted)
  refine .read (.update (.lift hcounted fun raws hraws => ?_))
  have hedit : Edit may u.toServiceRecord none (u.compared reconciledAt raws) :=
    .reported hreconciledAt hsnapshot hraws
  refine .update (.bind (Completes.save (u := u) hs hhealthy hedit) ?_)
  exact fun _ t ht hok => .pure ht hok _

theorem reconcile_completes (reconciledAt : String) (hs : Changes may s u) :
    Completes may s (reconcile reconciledAt) u := by
  refine .read (.lift hs fun _ hhealthy => .lift hs fun _ hreconciledAt =>
    .lift hs fun _ _ => .query ?_)
  rw [ensurePersistenceHealthy_eq_ok] at hhealthy
  have hasked := hs.tail (.brokerMoved u
    (PaperBrokerAdapter.snapshot u.broker u.account.accountId).2)
  split
  · exact loseSession_completes hasked hhealthy
  · refine .lift hasked fun _ hsnapshot => ?_
    exact recordComparison_completes hasked hhealthy
      (validateUtcTimestamp_eq_ok.mp hreconciledAt) hsnapshot

def reconnected (s : PaperTradingService B) : PaperTradingService B :=
  setSession true (s.setBroker
    (PaperBrokerAdapter.reconnect s.broker s.account.accountId).2)

theorem reconnectAndReconcile_completes (reconciledAt : String)
    (hs : Changes may s u) (hmay : MaySynchronize may u.reconnected) :
    Completes may s (reconnectAndReconcile reconciledAt) u := by
  refine .read (.lift hs fun _ hhealthy => .query ?_)
  rw [ensurePersistenceHealthy_eq_ok] at hhealthy
  have hasked := hs.tail (.brokerMoved u
    (PaperBrokerAdapter.reconnect u.broker u.account.accountId).2)
  split
  · exact loseSession_completes hasked hhealthy
  · refine .update (.bind (synchronize_completes
      (hasked.tail (.session _ true)) hmay) fun _ t ht _ => ?_)
    exact reconcile_completes reconciledAt ht

/-! ## Incidents and paper sessions -/

omit [PaperBrokerAdapter B] in
theorem explainIncident_completes (incidentId explanation : String)
    (hs : Changes may s u) :
    Completes may s (explainIncident incidentId explanation) u := by
  refine .read (.lift hs fun _ hhealthy => .lift hs fun _ _ =>
    .lift hs fun _ hexplanation => .lift hs fun _ hincident => .update ?_)
  rw [ensurePersistenceHealthy_eq_ok] at hhealthy
  rw [refuseIf_eq_ok, not_eq_false] at hexplanation
  rw [refuseIf_eq_ok, Decidable.not_not] at hincident
  exact .save hs hhealthy (.explained hexplanation hincident)

omit [PaperBrokerAdapter B] in
theorem recordPaperSession_completes (paperSession : PaperTradingSession)
    (report : ReconciliationReport) (calendar : TradingCalendar) (hs : Changes may s u) :
    Completes may s (recordPaperSession paperSession report calendar) u := by
  refine .read (.lift hs fun _ hadmit => ?_)
  simp only [admitPaperSession, bind_eq_ok, refuseIf_eq_ok, exists_const,
    ensurePersistenceHealthy_eq_ok, Decidable.not_not] at hadmit
  obtain ⟨hhealthy, _, hsession, -, hcalendar, -⟩ := hadmit
  dsimp only
  split
  · exact .check hs hhealthy
  · next hnew =>
      exact .update (.save hs hhealthy (.dayNoted hsession hcalendar hnew))

/-! ## Every step -/

def Within (may : Allowance) (s : PaperTradingService B) : Operation → Prop
  | .submitIntent intent market decidedAt submittedBy =>
    MayDecide may s intent market decidedAt submittedBy
  | .submitComboIntent intent market decidedAt submittedBy =>
    MayDecideCombo may s intent market decidedAt submittedBy
  | .synchronize => MaySynchronize may s
  | .reconnectAndReconcile _ => MaySynchronize may s.reconnected
  | .applyCorporateAction request => MayAct may s request
  | _ => True

theorem execute_changes {operation : Operation} {s : PaperTradingService B}
    (hmay : Within may s operation) : Changes may s ((execute operation).final s) := by
  cases operation with
  | submitIntent intent market decidedAt submittedBy =>
    exact submitIntentAs_changes intent market decidedAt submittedBy s hmay
  | submitComboIntent intent market decidedAt submittedBy =>
    exact submitComboIntentAs_changes intent market decidedAt submittedBy s
      hmay
  | evaluateComboRisk intent market decidedAt =>
    exact evaluateComboRisk_changes intent market decidedAt s
  | cancelOrder orderId =>
    exact cancelOrderAttributed_changes (fun _ h => nomatch h)
  | cancelOrderAs orderId operator operatedAt =>
    exact cancelOrderAs_changes orderId operator operatedAt s
  | replaceOrder orderId price => exact replaceOrder_changes orderId price s
  | synchronize => exact (synchronize_completes .refl hmay).changes
  | reconnectAndReconcile reconciledAt =>
    exact (reconnectAndReconcile_completes reconciledAt .refl hmay).changes
  | reconcile reconciledAt =>
    exact (reconcile_completes reconciledAt .refl).changes
  | explainIncident incidentId explanation =>
    exact (explainIncident_completes incidentId explanation .refl).changes
  | recordPaperSession paperSession report calendar =>
    exact (recordPaperSession_completes paperSession report calendar .refl).changes
  | activateKillSwitch scope => exact activateKillSwitch_changes scope s
  | deactivateKillSwitch scope => exact deactivateKillSwitch_changes scope s
  | operateKillSwitchAs scope action operator operatedAt =>
    exact operateKillSwitchAs_changes scope action operator operatedAt s
  | applyCorporateAction request =>
    exact applyCorporateAction_changes request s hmay

omit [PaperBrokerAdapter B] in
theorem allowedBatch_of (hevent : ∀ s event, may.event s event)
    (s : PaperTradingService B) (events : List BrokerEvent) :
    AllowedBatch may s events := by
  induction events generalizing s with
  | nil => trivial
  | cons event events ih => exact ⟨hevent _ event, ih _⟩

theorem within_of (hevent : ∀ s event, may.event s event)
    (hdecision : ∀ s intent, may.decision s intent)
    (hcombo : ∀ s intent, may.comboDecision s intent)
    {s : PaperTradingService B} {operation : Operation}
    (haction : ∀ request, operation = .applyCorporateAction request →
      MayAct may s request) : Within may s operation := by
  cases operation with
  | submitIntent => exact fun _ _ _ => hdecision _ _
  | submitComboIntent => exact fun _ _ _ => hcombo _ _
  | synchronize => exact fun events _ => allowedBatch_of hevent _ events
  | reconnectAndReconcile =>
    exact fun events _ => allowedBatch_of hevent _ events
  | applyCorporateAction request => exact haction request rfl
  | _ => trivial

theorem within_all (s : PaperTradingService B) (operation : Operation) :
    Within .all s operation :=
  within_of (fun _ _ => trivial) (fun _ _ => trivial) (fun _ _ => trivial)
    (fun _ _ _ => trivial)

inductive AllowedStep (may : Allowance) :
    PaperTradingService B → PaperTradingService B → Prop
  | operate {s : PaperTradingService B} {operation : Operation}
      (h : Within may s operation) :
      AllowedStep may s ((execute operation).final s)
  | brokerMoved (s : PaperTradingService B) (broker : B) :
      AllowedStep may s (s.setBroker broker)

theorem AllowedStep.changes {s : PaperTradingService B}
    (h : AllowedStep may s t) : Changes may s t := by
  cases h with
  | operate h => exact execute_changes h
  | brokerMoved broker => exact .single (.brokerMoved s broker)

theorem Step.allowed {s : PaperTradingService B} (h : Step s t) :
    AllowedStep .all s t := by
  cases h with
  | operate operation => exact .operate (within_all s operation)
  | brokerMoved broker => exact .brokerMoved s broker

theorem Step.changes {s : PaperTradingService B} (h : Step s t) : Changes .all s t :=
  h.allowed.changes

end PaperTradingService

end Follon.Paper
