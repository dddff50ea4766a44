import Follon.Ibkr.Rejections

/-!
# Rejections are honest

An order is placed at most once.  What the bridge calls rejected was never
placed, or IBKR has ended that very order, as long as the callbacks are not
mistaken for those of other orders and retries are valid submissions.
-/

namespace Follon.Ibkr

open Foundation Domain

/-! ## Traces -/

def Entry.placed? : Entry → Option (String × Int)
  | .placed clientOrderId orderId => some (clientOrderId, orderId)
  | _ => none

def placedIn (trace : List Entry) : List (String × Int) := trace.filterMap Entry.placed?

def callbacksIn (trace : List Entry) : List Callback := trace.filterMap Entry.callback?

def Entry.Rejects (clientOrderId : String) : Entry → Prop
  | .put (.rejected rejected _) => rejected = clientOrderId
  | .answered (.submit rejected (.rejected _)) => rejected = some clientOrderId
  | _ => False

/-- Whatever is rejected was never placed, or was ended by IBKR, at the time. -/
def RejectsHonestly (config : BridgeConfiguration) : List Entry → Prop
  | [] => True
  | entry :: past =>
    (∀ clientOrderId, entry.Rejects clientOrderId →
      clientOrderId ∉ (placedIn past).map (·.1) ∨
        IsEnded config (placedIn past) (callbacksIn past) clientOrderId) ∧
    RejectsHonestly config past

def Entry.IsSilent (entry : Entry) : Prop :=
  (∀ clientOrderId, ¬entry.Rejects clientOrderId) ∧ entry.callback? = none ∧
    entry.placed? = none

section
variable {config : BridgeConfiguration} {past entries : List Entry}

theorem placedIn_append (hsilent : ∀ entry ∈ entries, entry.placed? = none) :
    placedIn (entries ++ past) = placedIn past := by
  rw [placedIn, filterMap_append, List.filterMap_eq_nil_iff.mpr hsilent]
  rfl

theorem callbacksIn_append (hsilent : ∀ entry ∈ entries, entry.callback? = none) :
    callbacksIn (entries ++ past) = callbacksIn past := by
  rw [callbacksIn, filterMap_append, List.filterMap_eq_nil_iff.mpr hsilent]
  rfl

theorem RejectsHonestly.append (h : RejectsHonestly config past)
    (hentries : ∀ entry ∈ entries, entry.callback? = none ∧ entry.placed? = none ∧
      ∀ clientOrderId, entry.Rejects clientOrderId →
        clientOrderId ∉ (placedIn past).map (·.1) ∨
          IsEnded config (placedIn past) (callbacksIn past) clientOrderId) :
    RejectsHonestly config (entries ++ past) := by
  induction entries with
  | nil => exact h
  | cons entry entries ih =>
    rw [forall_mem_cons] at hentries
    obtain ⟨hentry, hrest⟩ := hentries
    refine ⟨?_, ih hrest⟩
    change ∀ clientOrderId, _ → clientOrderId ∉ (placedIn (entries ++ past)).map (·.1) ∨
        IsEnded config (placedIn (entries ++ past))
          (callbacksIn (entries ++ past)) clientOrderId
    rw [placedIn_append fun entry hmem => (hrest entry hmem).2.1,
      callbacksIn_append fun entry hmem => (hrest entry hmem).1]
    exact hentry.2.2

end

def Work.sending : Work → List (String × Int)
  | .placing request orderId => [(request.clientOrderId, orderId)]
  | _ => []

def Session.sent (session : Session) : List (String × Int) :=
  session.work.sending ++ placedIn session.trace

theorem IsEnded.of_append {config : BridgeConfiguration}
    {sending placed : List (String × Int)} {callbacks : List Callback}
    {clientOrderId : String}
    (h : IsEnded config (sending ++ placed) callbacks clientOrderId)
    (hsending : clientOrderId ∉ sending.map (·.1)) :
    IsEnded config placed callbacks clientOrderId := by
  have hnumber : ∀ {orderId : Int},
      NumberOf config (sending ++ placed) callbacks orderId clientOrderId →
        NumberOf config placed callbacks orderId clientOrderId := by
    intro orderId hnumber
    cases hnumber with
    | inl hmem =>
      cases mem_append.mp hmem with
      | inl hmem => exact absurd (mem_map_of_mem hmem) hsending
      | inr hmem => exact .inl hmem
    | inr hnamed => exact .inr hnamed
  obtain ⟨callback, hcallback, hends⟩ := h
  refine ⟨callback, hcallback, ?_⟩
  cases hends with
  | openOrder haccount howned hreference hstatus =>
    exact .openOrder haccount howned hreference hstatus
  | completedOrder haccount howned hreference hstatus =>
    exact .completedOrder haccount howned hreference hstatus
  | orderStatus hfound hstatus => exact .orderStatus (hnumber hfound) hstatus
  | error hfound hcode => exact .error (hnumber hfound) hcode

/-! ## Steps -/

namespace Session

variable {config : BridgeConfiguration} {session next : Session}

/-- A retry of a placed order is valid, and a new order does not bear the
identifier under which a foreign order has ended. -/
def IsDistinctSubmit (config : BridgeConfiguration) (payload : Payload)
    (session : Session) : Prop :=
  (∀ clientOrderId ∈ (placedIn session.trace).map (·.1),
    clientOrderIdOf payload = some clientOrderId →
      ∃ request, validateSubmit config payload = .ok request) ∧
  ∀ request, validateSubmit config payload = .ok request →
    session.app.orderByClient[request.clientOrderId]? = none →
    ∀ state, session.app.stateOf request.clientOrderId = some state → ¬state.IsEnd

def DistinctStep (config : BridgeConfiguration) (session next : Session) : Prop :=
  Step config session next ∧
  (∀ callback, next = session.receive config callback →
    callback.IsDistinct config session.sent session.callbacks session.app) ∧
  ∀ payload, session.work = .idle → next = session.submit config payload →
    session.IsDistinctSubmit config payload

structure Truthful (config : BridgeConfiguration) (session : Session) :
    Prop where
  once : (session.sent.map (·.1)).Nodup
  app : session.app.Truthful config session.sent session.callbacks
  trace : RejectsHonestly config session.trace

theorem Truthful.quiet (h : session.Truthful config)
    (hwork : next.work.sending = session.work.sending)
    (hclients : next.app.clientByOrder = session.app.clientByOrder)
    (hnumbers : next.app.orderByClient = session.app.orderByClient)
    (horders : next.app.orders = session.app.orders ∨ next.app.orders = ∅)
    (entries : List Entry) (htrace : next.trace = entries ++ session.trace)
    (hsilent : ∀ entry ∈ entries, entry.callback? = none ∧ entry.placed? = none ∧
      ∀ clientOrderId, entry.Rejects clientOrderId →
        clientOrderId ∉ (placedIn session.trace).map (·.1) ∨
          IsEnded config (placedIn session.trace) (callbacksIn session.trace)
            clientOrderId) : next.Truthful config := by
  have hsent : next.sent = session.sent := by
    rw [sent, hwork, htrace,
      placedIn_append fun entry hmem => (hsilent entry hmem).2.1]
    rfl
  have hcallbacks : next.callbacks = session.callbacks := by
    change callbacksIn next.trace = callbacksIn session.trace
    rw [htrace, callbacksIn_append fun entry hmem => (hsilent entry hmem).1]
  constructor
  · rw [hsent]
    exact h.once
  · rw [hsent, hcallbacks]
    constructor
    · rw [hclients]
      exact h.app.numbers
    · intro clientOrderId hmem state hstate hend
      cases horders with
      | inl hsame =>
        unfold App.stateOf at hstate
        rw [hsame] at hstate
        exact h.app.states clientOrderId hmem state hstate hend
      | inr hempty =>
        unfold App.stateOf at hstate
        rw [hempty] at hstate
        contradiction
    · rw [hnumbers]
      exact h.app.held
  · rw [htrace]
    exact h.trace.append hsilent

theorem silent_answer {answer : Answer} (h : ∀ clientOrderId reason,
      answer ≠ .submit clientOrderId (.rejected reason)) :
    ∀ entry ∈ [Entry.answered answer], entry.callback? = none ∧ entry.placed? = none ∧
      ∀ clientOrderId, entry.Rejects clientOrderId →
        clientOrderId ∉ (placedIn session.trace).map (·.1) ∨
          IsEnded config (placedIn session.trace) (callbacksIn session.trace)
            clientOrderId := by
  intro entry hmem
  rw [mem_singleton] at hmem
  subst hmem
  refine ⟨rfl, rfl, ?_⟩
  intro clientOrderId hrejects
  cases answer with
  | submit answered result =>
    cases result with
    | rejected reason => exact absurd rfl (h answered reason)
    | acknowledged brokerOrderId => exact hrejects.elim
    | unknown reason => exact hrejects.elim
  | cancel => exact hrejects.elim
  | poll events => exact hrejects.elim
  | snapshot snapshot => exact hrejects.elim
  | reconnect => exact hrejects.elim
  | failed => exact hrejects.elim

theorem Truthful.receive (h : session.Truthful config) {callback : Callback}
    (hdistinct : callback.IsDistinct config session.sent session.callbacks
      session.app) : (session.receive config callback).Truthful config := by
  have htells := h.app.apply hdistinct
  obtain ⟨events, hevents, htold⟩ := htells.puts
  have hnew : session.newEvents (callback.apply config session.app)
      = (events.map .put).reverse := by
    rw [newEvents, hevents, List.drop_left]
  have htrace : (session.receive config callback).trace
      = (events.map .put).reverse ++ .reported callback :: session.trace := by
    change session.newEvents _ ++ .reported callback :: session.trace = _
    rw [hnew]
  have hputs : ∀ entry ∈ (events.map Entry.put).reverse,
      ∃ event ∈ events, entry = .put event := by
    intro entry hmem
    rw [List.mem_reverse, mem_map] at hmem
    obtain ⟨event, hevent, heq⟩ := hmem
    exact ⟨event, hevent, heq.symm⟩
  have hsent : (session.receive config callback).sent = session.sent := by
    unfold sent
    rw [htrace, placedIn_append]
    · rfl
    · intro entry hmem
      obtain ⟨event, _, rfl⟩ := hputs entry hmem
      rfl
  have hcallbacks : (session.receive config callback).callbacks
      = callback :: session.callbacks := callbacks_receive session callback
  constructor
  · rw [hsent]
    exact h.once
  · rw [hsent, hcallbacks]
    exact htells.truthful
  · rw [htrace]
    apply RejectsHonestly.append
    · exact ⟨fun _ hrejects => hrejects.elim, h.trace⟩
    · intro entry hmem
      obtain ⟨event, hevent, rfl⟩ := hputs entry hmem
      refine ⟨rfl, rfl, ?_⟩
      intro clientOrderId hrejects
      rw [or_iff_not_imp_left, not_not]
      intro hplaced
      have hplaced : clientOrderId ∈ (placedIn session.trace).map (·.1) := hplaced
      cases event with
      | rejected rejected reason =>
        obtain rfl : rejected = clientOrderId := hrejects
        have hmem : rejected ∈ session.sent.map (·.1) := by
          rw [sent, map_append]
          exact mem_append_right _ hplaced
        have hended := htold _ hevent rejected reason rfl hmem
        apply hended.of_append
        have honce := h.once
        rw [sent, map_append] at honce
        intro hsending
        exact List.disjoint_of_nodup_append honce hsending hplaced
      | acknowledged _ _ => exact hrejects.elim
      | execution _ _ _ _ _ _ _ => exact hrejects.elim
      | cancelled _ _ => exact hrejects.elim
      | cancelRejected _ _ => exact hrejects.elim

/-- An answer that rejects an order which was never placed or was ended. -/
theorem Truthful.answer (h : session.Truthful config)
    (hwork : session.work.sending = []) {answer : Answer}
    (hanswer : ∀ clientOrderId, (Entry.answered answer).Rejects clientOrderId →
        clientOrderId ∈ session.sent.map (·.1) →
          IsEnded config session.sent session.callbacks clientOrderId) :
    (session.answer answer).Truthful config := by
  have hsent : session.sent = placedIn session.trace := by
    rw [sent, hwork, nil_append]
  have hidle : (session.answer answer).work.sending = session.work.sending := hwork.symm
  apply h.quiet hidle rfl rfl (.inl rfl) [.answered answer] rfl
  intro entry hmem
  rw [mem_singleton] at hmem
  subst hmem
  refine ⟨rfl, rfl, ?_⟩
  intro clientOrderId hrejects
  rw [or_iff_not_imp_left, not_not, ← hsent]
  exact hanswer clientOrderId hrejects

theorem Truthful.not_sent (h : session.Truthful config) {clientOrderId : String}
    (hnone : session.app.orderByClient[clientOrderId]? = none) :
    clientOrderId ∉ session.sent.map (·.1) := by
  intro hmem
  have hheld := h.app.held clientOrderId hmem
  rw [hnone] at hheld
  contradiction

theorem isEnd_of_retryResult {existing : Int} {state : Option BridgeState}
    {reason : String} (h : retryResult existing state = .rejected reason) :
    ∃ found, state = some found ∧ found.IsEnd := by
  cases state with
  | none => contradiction
  | some found =>
    refine ⟨found, rfl, ?_⟩
    cases found with
    | rejected => exact .inl rfl
    | cancelled => exact .inr rfl
    | acknowledged => contradiction
    | partiallyFilled => contradiction
    | filled => contradiction
    | pendingSubmit => contradiction
    | pendingCancel => contradiction
    | unknown => contradiction

theorem Truthful.allocate (h : session.Truthful config)
    (hwork : session.work.sending = []) {request : SubmitRequest}
    (hnone : session.app.orderByClient[request.clientOrderId]? = none)
    (hfresh : ∀ state, session.app.stateOf request.clientOrderId = some state →
      ¬state.IsEnd) (orderId : Int) :
    (session.allocate request orderId).Truthful config := by
  have hsent : (session.allocate request orderId).sent
      = (request.clientOrderId, orderId) :: session.sent := by
    unfold sent
    rw [hwork]
    rfl
  have hsub : session.sent ⊆ (request.clientOrderId, orderId) :: session.sent :=
    List.subset_cons_self _ _
  constructor
  · rw [hsent, map_cons, nodup_cons]
    exact ⟨h.not_sent hnone, h.once⟩
  · rw [hsent]
    constructor
    · intro other clientOrderId hfound
      change (session.app.clientByOrder.insert orderId
        request.clientOrderId)[other]? = _ at hfound
      by_cases hsame : orderId = other
      · subst hsame
        rw [getElem?_insert_self] at hfound
        obtain rfl := Option.some.inj hfound
        exact .inl (.inl mem_cons_self)
      · rw [getElem?_insert_of_ne _ _ hsame] at hfound
        cases h.app.numbers other clientOrderId hfound with
        | inl hnumber => exact .inl (hnumber.mono hsub (List.Subset.refl _))
        | inr hold => exact .inr hold
    · intro clientOrderId hmem state hstate hend
      rw [map_cons, mem_cons] at hmem
      cases hmem with
      | inl hnew =>
        subst hnew
        exact absurd hend (hfresh state hstate)
      | inr hmem =>
        have hended := h.app.states clientOrderId hmem state hstate hend
        exact hended.mono hsub (List.Subset.refl _)
    · intro clientOrderId hmem
      rw [map_cons, mem_cons] at hmem
      change ((session.app.orderByClient.insert request.clientOrderId
        orderId)[clientOrderId]?).isSome = true
      by_cases hsame : request.clientOrderId = clientOrderId
      · rw [hsame, getElem?_insert_self]
        rfl
      · rw [getElem?_insert_of_ne _ _ hsame]
        cases hmem with
        | inl hnew => exact absurd hnew.symm hsame
        | inr hmem => exact h.app.held clientOrderId hmem
  · exact h.trace

theorem Truthful.submit (h : session.Truthful config)
    (hwork : session.work = .idle) {payload : Payload}
    (hdistinct : session.IsDistinctSubmit config payload) :
    (session.submit config payload).Truthful config := by
  have hsending : session.work.sending = [] := by
    rw [hwork]
    rfl
  have hsent : session.sent = placedIn session.trace := by
    rw [sent, hsending, nil_append]
  unfold Session.submit
  split
  · next code herror =>
      apply h.answer hsending
      intro clientOrderId hrejects hmem
      rw [hsent] at hmem
      obtain ⟨request, hok⟩ := hdistinct.1 clientOrderId hmem hrejects
      rw [herror] at hok
      contradiction
  · next request hok =>
      split
      · next existing hheld =>
          apply h.answer hsending
          intro clientOrderId hrejects hmem
          cases hresult : retryResult existing
              (session.app.stateOf request.clientOrderId) with
          | rejected reason =>
            rw [hresult] at hrejects
            obtain rfl := Option.some.inj hrejects
            obtain ⟨state, hstate, hend⟩ := isEnd_of_retryResult hresult
            exact h.app.states _ hmem state hstate hend
          | acknowledged _ =>
            rw [hresult] at hrejects
            exact hrejects.elim
          | unknown _ =>
            rw [hresult] at hrejects
            exact hrejects.elim
      · next hnone =>
          have hrefused : ∀ code, (session.answer (.submit
              (some request.clientOrderId) (refusal code))).Truthful config := by
            intro code
            apply h.answer hsending
            intro clientOrderId hrejects hmem
            obtain rfl := Option.some.inj hrejects
            exact absurd hmem (h.not_sent hnone)
          split
          · exact hrefused _
          · split
            · exact hrefused _
            · exact h.allocate hsending hnone (hdistinct.2 request hok hnone) _

theorem Truthful.unsaid (h : session.Truthful config)
    (hwork : next.work.sending = session.work.sending)
    (hclients : next.app.clientByOrder = session.app.clientByOrder)
    (hnumbers : next.app.orderByClient = session.app.orderByClient)
    (horders : next.app.orders = session.app.orders ∨ next.app.orders = ∅)
    (htrace : next.trace = session.trace) : next.Truthful config := by
  apply h.quiet hwork hclients hnumbers horders [] htrace
  exact fun entry hmem => absurd hmem not_mem_nil

theorem Truthful.answered (h : session.Truthful config)
    (hwork : session.work.sending = []) (hidle : next.work = .idle)
    (hclients : next.app.clientByOrder = session.app.clientByOrder)
    (hnumbers : next.app.orderByClient = session.app.orderByClient)
    (horders : next.app.orders = session.app.orders) {answer : Answer}
    (hanswer : ∀ clientOrderId reason, answer ≠ .submit clientOrderId (.rejected reason))
    (htrace : next.trace = .answered answer :: session.trace) : next.Truthful config := by
  have hsame : next.work.sending = session.work.sending := by
    rw [hidle, hwork]
    rfl
  exact h.quiet hsame hclients hnumbers (.inl horders) [.answered answer]
    htrace (silent_answer hanswer)

theorem Truthful.place (h : session.Truthful config) {request : SubmitRequest}
    {orderId : Int} (hwork : session.work = .placing request orderId) :
    ((session.log (.placed request.clientOrderId orderId)).goOn
      (.awaiting request.clientOrderId orderId)).Truthful config := by
  have hsent : ((session.log (.placed request.clientOrderId orderId)).goOn
      (.awaiting request.clientOrderId orderId)).sent = session.sent := by
    unfold sent
    rw [hwork]
    rfl
  constructor
  · rw [hsent]
    exact h.once
  · rw [hsent]
    exact h.app
  · exact ⟨fun _ hrejects => hrejects.elim, h.trace⟩

theorem Truthful.answerSubmit (h : session.Truthful config)
    {clientOrderId : String} {orderId : Int}
    (hwork : session.work = .settled clientOrderId orderId) :
    (session.answer (session.settledAnswer clientOrderId orderId)).Truthful
      config := by
  apply h.answer (by rw [hwork]; rfl)
  intro other hrejects hmem
  unfold settledAnswer at hrejects
  split at hrejects
  · exact hrejects.elim
  · next hstate =>
      obtain rfl := Option.some.inj hrejects
      exact h.app.states _ hmem .rejected hstate (.inl rfl)
  · exact hrejects.elim

theorem newEvents_put (session : Session) (event : BridgeEvent) :
    session.newEvents (session.app.put event) = [.put event] := by
  unfold newEvents
  rw [App.put, EventQueue.all_put, List.drop_left]
  rfl

theorem Truthful.refuseCancel (h : session.Truthful config)
    (hwork : session.work.sending = []) (clientOrderId code : String) :
    (session.refuseCancel clientOrderId code).Truthful config := by
  have htrace : (session.refuseCancel clientOrderId code).trace
      = [.answered .cancel, .put (.cancelRejected clientOrderId
          ("IBKR_BRIDGE_REFUSED_" ++ code))] ++ session.trace := by
    change .answered .cancel :: (session.newEvents _ ++ session.trace) = _
    rw [newEvents_put]
    rfl
  have hidle : (session.refuseCancel clientOrderId code).work.sending
      = session.work.sending := hwork.symm
  apply h.quiet hidle rfl rfl (.inl rfl) _ htrace
  intro entry hmem
  rw [List.mem_pair] at hmem
  cases hmem with
  | inl heq => exact heq ▸ ⟨rfl, rfl, fun _ hrejects => hrejects.elim⟩
  | inr heq => exact heq ▸ ⟨rfl, rfl, fun _ hrejects => hrejects.elim⟩

theorem Truthful.sendCancel (h : session.Truthful config)
    (hwork : session.work.sending = []) (clientOrderId : String) (orderId : Int) :
    (session.sendCancel clientOrderId orderId).Truthful config := by
  have hidle : (session.sendCancel clientOrderId orderId).work.sending
      = session.work.sending := hwork.symm
  apply h.quiet hidle rfl rfl (.inl rfl) [.answered .cancel, .cancelled orderId]
    rfl
  intro entry hmem
  rw [List.mem_pair] at hmem
  cases hmem with
  | inl heq => exact heq ▸ ⟨rfl, rfl, fun _ hrejects => hrejects.elim⟩
  | inr heq => exact heq ▸ ⟨rfl, rfl, fun _ hrejects => hrejects.elim⟩

theorem Truthful.cancel (h : session.Truthful config)
    (hwork : session.work.sending = []) (payload : Payload) :
    (session.cancel payload).Truthful config := by
  unfold Session.cancel
  split
  · split
    · exact h.refuseCancel hwork _ _
    · split
      · exact h.refuseCancel hwork _ _
      · exact h.sendCancel hwork _ _
  · exact h.answered hwork rfl rfl rfl rfl (by nofun) rfl

theorem Truthful.poll (h : session.Truthful config)
    (hwork : session.work.sending = []) (payload : Payload) :
    (session.poll payload).Truthful config := by
  unfold Session.poll
  split
  · exact h.answered hwork rfl rfl rfl rfl (by nofun) rfl
  · exact h.answered hwork rfl rfl rfl rfl (by nofun) rfl

theorem Truthful.snapshot (h : session.Truthful config)
    (hwork : session.work.sending = []) (payload : Payload) :
    (session.snapshot config payload).Truthful config := by
  unfold Session.snapshot
  split
  · exact h.answered hwork rfl rfl rfl rfl (by nofun) rfl
  · exact h.unsaid hwork.symm rfl rfl (.inr rfl) rfl

theorem Truthful.answerSnapshot (h : session.Truthful config)
    (hwork : session.work.sending = []) : session.answerSnapshot.Truthful config := by
  unfold Session.answerSnapshot
  split
  · exact h.answered hwork rfl rfl rfl rfl (by nofun) rfl
  · exact h.answered hwork rfl rfl rfl rfl (by nofun) rfl

theorem Truthful.reconnect (h : session.Truthful config)
    (hwork : session.work.sending = []) (payload : Payload) :
    (session.reconnect payload).Truthful config := by
  unfold Session.reconnect
  split
  · exact h.answered hwork rfl rfl rfl rfl (by nofun) rfl
  · exact h.unsaid hwork.symm rfl rfl (.inl rfl) rfl

theorem DistinctStep.truthful (hstep : session.DistinctStep config next)
    (h : session.Truthful config) : next.Truthful config := by
  obtain ⟨hstep, hcallback, hsubmit⟩ := hstep
  have hfree : ∀ {work : Work}, session.work = work → work.sending = [] →
      session.work.sending = [] := fun hwork hsending => hwork ▸ hsending
  cases hstep with
  | callback callback => exact h.receive (hcallback callback rfl)
  | connection isConnected => exact h.unsaid rfl rfl rfl (.inl rfl) rfl
  | submit hwork payload => exact h.submit hwork (hsubmit payload hwork rfl)
  | place hwork => exact h.place hwork
  | settle hwork hstate =>
    exact h.unsaid (hfree hwork rfl).symm rfl rfl (.inl rfl) rfl
  | answerSubmit hwork => exact h.answerSubmit hwork
  | submitTimeout hwork =>
    exact h.answered (hfree hwork rfl) rfl rfl rfl rfl (by nofun) rfl
  | cancel hwork payload => exact h.cancel (hfree hwork rfl) payload
  | poll hwork payload => exact h.poll (hfree hwork rfl) payload
  | snapshot hwork payload => exact h.snapshot (hfree hwork rfl) payload
  | requestSummary hwork =>
    exact h.unsaid (hfree hwork rfl).symm rfl rfl (.inl rfl) rfl
  | requestExecutions hwork =>
    exact h.unsaid (hfree hwork rfl).symm rfl rfl (.inl rfl) rfl
  | refreshed hwork hdone =>
    exact h.unsaid (hfree hwork rfl).symm rfl rfl (.inl rfl) rfl
  | answerSnapshot hwork hdone => exact h.answerSnapshot (hfree hwork rfl)
  | refreshTimeout hwork =>
    exact h.answered (hfree hwork rfl) rfl rfl rfl rfl (by nofun) rfl
  | snapshotTimeout hwork =>
    exact h.answered (hfree hwork rfl) rfl rfl rfl rfl (by nofun) rfl
  | reconnect hwork payload => exact h.reconnect (hfree hwork rfl) payload
  | connect hwork hready =>
    exact h.unsaid (hfree hwork rfl).symm rfl rfl (.inl rfl) rfl
  | reconnected hwork hdone =>
    exact h.answered (hfree hwork rfl) rfl rfl rfl rfl (by nofun) rfl
  | connectTimeout hwork =>
    exact h.answered (hfree hwork rfl) rfl rfl rfl rfl (by nofun) rfl
  | reconnectTimeout hwork =>
    exact h.answered (hfree hwork rfl) rfl rfl rfl rfl (by nofun) rfl

theorem truthful_start (config : BridgeConfiguration) : start.Truthful config where
  once := List.nodup_nil
  app :=
    { numbers := fun orderId clientOrderId hfound => by
        contradiction
      states := fun _ hmem => absurd hmem not_mem_nil
      held := fun _ hmem => absurd hmem not_mem_nil }
  trace := trivial

/-- In every run of distinct steps each order is placed at most once, and
whatever is rejected was never placed or IBKR has ended it. -/
theorem bridge_rejects_honestly
    (h : Reachable (· = start) (DistinctStep config) session) :
    ((placedIn session.trace).map (·.1)).Nodup ∧
      RejectsHonestly config session.trace := by
  have htruthful : session.Truthful config := by
    apply h.invariant
    · rintro _ rfl
      exact truthful_start config
    · exact fun _ _ _ hkept hstep => hstep.truthful hkept
  have honce := htruthful.once
  rw [sent, map_append] at honce
  exact ⟨honce.of_append_right, htruthful.trace⟩

end Session

namespace RejectionRun

open Session

def config : BridgeConfiguration where
  accountId := "acct.paper"
  brokerAccount := "DU1"
  accountCurrency := "USD"
  clientId := 7
  twsTimezone := "UTC"
  instruments := [("aapl", ⟨265598, "AAPL", "STK", "SMART", "NASDAQ", "USD"⟩)]
  instantText _ _ _ := some "2026-01-02T14:31:00Z"

def payload : Payload :=
  [("client_order_id", .str "order.1"), ("account_id", .str "acct.paper"),
    ("instrument_id", .str "aapl"), ("side", .str "BUY"),
    ("quantity", .str "1"), ("limit_price", .null)]

def request : SubmitRequest where
  clientOrderId := "order.1"
  contract := ⟨265598, "AAPL", "STK", "SMART", "NASDAQ", "USD"⟩
  side := "BUY"
  quantity := "1"
  limitPrice := none

theorem validateSubmit_payload : validateSubmit config payload = .ok request := by
  decide

def ready : Session :=
  ({ start with isConnected := true } : Session).receive config
    (.nextValidId 9101)

theorem submit_ready : ready.submit config payload = ready.allocate request 9101 := by
  have hnone : ready.app.orderByClient[request.clientOrderId]? = none := by
    decide
  unfold Session.submit
  rw [validateSubmit_payload]
  dsimp only
  rw [hnone]
  rfl

def awaiting : Session :=
  ((ready.allocate request 9101).log (.placed request.clientOrderId 9101)).goOn
      (.awaiting request.clientOrderId 9101)

theorem distinctStep_of_quiet {session next : Session}
    (hstep : Step config session next) (hquiet : next.callbacks = session.callbacks)
    (hidle : session.work = .idle →
      placedIn session.trace = [] ∧ session.app.orders = ∅) :
    session.DistinctStep config next := by
  refine ⟨hstep, ?_, ?_⟩
  · rintro callback rfl
    rw [callbacks_receive] at hquiet
    exact absurd hquiet (List.cons_ne_self _ _)
  · intro payload hwork _
    obtain ⟨hplaced, horders⟩ := hidle hwork
    constructor
    · intro clientOrderId hmem
      rw [hplaced] at hmem
      exact absurd hmem not_mem_nil
    · intro request _ _ state hstate
      unfold App.stateOf at hstate
      rw [horders] at hstate
      contradiction

theorem awaiting_run : Reachable (· = start) (DistinctStep config) awaiting := by
  have hconnect : start.DistinctStep config
      { start with isConnected := true } :=
    distinctStep_of_quiet (.connection _ true) rfl fun _ => ⟨rfl, rfl⟩
  have hready : ({ start with isConnected := true } : Session).DistinctStep
      config ready := by
    refine ⟨.callback _ _, ?_, ?_⟩
    · intro callback heq
      exact receive_inj heq ▸ trivial
    · intro payload _ _
      constructor
      · exact fun _ hmem => absurd hmem not_mem_nil
      · intro _ _ _ state hstate
        contradiction
  have hstep : Step config ready (ready.allocate request 9101) := by
    rw [← submit_ready]
    exact .submit rfl payload
  have hsubmit : ready.DistinctStep config (ready.allocate request 9101) :=
    distinctStep_of_quiet hstep rfl fun _ => ⟨rfl, rfl⟩
  have hsent : Step config (ready.allocate request 9101) awaiting := .place rfl
  have hplace : (ready.allocate request 9101).DistinctStep config awaiting :=
    distinctStep_of_quiet hsent rfl fun hwork => by contradiction
  exact .step (.step (.step (.step (.init rfl) hconnect) hready) hsubmit) hplace

def ended : Session :=
  awaiting.receive config
    (.error .order 9101 [.number 201, .text "Order rejected"])

theorem ended_run : Reachable (· = start) (DistinctStep config) ended := by
  apply awaiting_run.step
  refine ⟨.callback _ _, ?_, fun _ hwork => by contradiction⟩
  intro callback heq
  rw [← receive_inj heq]
  intro _ clientOrderId _ _ _
  refine ⟨rfl, ?_⟩
  rintro ⟨order, status, hmem, _⟩
  change _ ∈ [Callback.nextValidId 9101] at hmem
  rw [mem_singleton] at hmem
  contradiction

/-- A submission that IBKR rejects. -/
theorem ended_honestly : (∃ reason, .rejected "order.1" reason ∈ ended.app.events.all) ∧
      ((placedIn ended.trace).map (·.1)).Nodup ∧
      RejectsHonestly config ended.trace := by
  refine ⟨⟨"IBKR_ERROR_201", ?_⟩, bridge_rejects_honestly ended_run⟩
  decide

/-! A request of the bridge fails under the number of a working order. -/

def placed : Session := awaiting.answer (.submit (some "order.1") outcomeUnknown)

def summaryRequested : Session :=
  (placed.snapshot config [("account_id", .str "acct.paper")]).requestSummary
    9101

def summaryRefused : Session :=
  summaryRequested.receive config
    (.error .request 9101 [.number 322, .text "Error processing request"])

theorem summaryRefused_run : Run config summaryRefused := by
  have hawaiting : Run config awaiting := by
    apply awaiting_run.mono
    exact fun _ _ hstep => hstep.1
  have hplaced : Run config placed := hawaiting.step (.submitTimeout rfl)
  have hsnapshot := hplaced.step
    (.snapshot rfl [("account_id", .str "acct.paper")])
  have hwork : (placed.snapshot config
      [("account_id", .str "acct.paper")]).work = .snapshotCleared 9101 := by
    unfold Session.snapshot
    rw [if_neg (by decide)]
    rfl
  exact .step (hsnapshot.step (.requestSummary hwork)) (.callback _ _)

theorem summaryRequested_trace : summaryRequested.trace = placed.trace := by
  change (placed.snapshot config [("account_id", .str "acct.paper")]).trace = _
  unfold Session.snapshot
  rw [if_neg (by decide)]

theorem summaryRefused_trace : summaryRefused.trace =
      .put (.rejected "order.1" "IBKR_ERROR_322") ::
        .reported (.error .request 9101
          [.number 322, .text "Error processing request"]) ::
          placed.trace := by
  have hevents : summaryRefused.app.events.all
      = [.rejected "order.1" "IBKR_ERROR_322"] := by
    decide
  have hbefore : summaryRequested.app.events.all = [] := by
    decide
  change summaryRequested.newEvents summaryRefused.app ++
    _ :: summaryRequested.trace = _
  unfold newEvents
  rw [hevents, hbefore, summaryRequested_trace]
  rfl

/-- The error of a request is put as the rejection of a working order. -/
theorem summary_rejects_order : Run config summaryRefused ∧
      ¬RejectsHonestly config summaryRefused.trace := by
  refine ⟨summaryRefused_run, ?_⟩
  rw [summaryRefused_trace]
  rintro ⟨hhonest, _⟩
  cases hhonest "order.1" rfl with
  | inl hnew => exact hnew (by decide)
  | inr hended =>
    obtain ⟨callback, hmem, hends⟩ := hended
    change callback ∈ [.error .request 9101
      [.number 322, .text "Error processing request"],
      .nextValidId 9101] at hmem
    rw [List.mem_pair] at hmem
    cases hmem with
    | inl heq =>
      rw [heq] at hends
      cases hends
    | inr heq =>
      rw [heq] at hends
      cases hends

end RejectionRun

end Follon.Ibkr
