import Follon.Ibkr.Session

/-!
# What the bridge was told of an order

IBKR ends an order by reporting it inactive or cancelled, or by an error about
its number.  The numbers and end states the bridge keeps are those it was told,
as long as numbers of requests, permanent numbers and made-up identifiers of
foreign orders do not meet those of orders that were sent.
-/

namespace Follon.Ibkr

open Foundation Domain

/-! ## What IBKR has said -/

def IsFinalStatus (status : String) : Prop :=
  status = "Inactive" ∨ status = "ApiCancelled" ∨ status = "Cancelled"

def IsRejection (code : Int) : Prop :=
  code ∉ [1100, 2110, 1101, 1102] ∧ App.isNotice code = false ∧
    App.isCancelFailure code = false

inductive Callback.Names (config : BridgeConfiguration) (orderId : Int)
    (clientOrderId : String) : Callback → Prop
  | openOrder {order : OrderReport} {status : String}
      (haccount : order.account = config.brokerAccount)
      (howned : order.isOwned config = true)
      (hreference : order.orderRef = clientOrderId) :
      Names config orderId clientOrderId (.openOrder orderId order status)
  | completedOrder {order : OrderReport} {status : String}
      (haccount : order.account = config.brokerAccount)
      (howned : order.isOwned config = true)
      (hreference : order.orderRef = clientOrderId)
      (hnumber : order.orderId = orderId) (hnonzero : orderId ≠ 0) :
      Names config orderId clientOrderId (.completedOrder order status)
  | execDetails {reqId conId : Int} {execution : Execution}
      (haccount : execution.acctNumber = config.brokerAccount)
      (hclient : execution.clientId = config.clientId)
      (hreference : execution.orderRef = clientOrderId)
      (hnumber : execution.orderId = orderId) :
      Names config orderId clientOrderId (.execDetails reqId conId execution)

def NumberOf (config : BridgeConfiguration) (sent : List (String × Int))
    (callbacks : List Callback) (orderId : Int) (clientOrderId : String) : Prop :=
  (clientOrderId, orderId) ∈ sent ∨
    ∃ callback ∈ callbacks, callback.Names config orderId clientOrderId

def IsPermanent (callbacks : List Callback) (orderId : Int) : Prop :=
  ∃ order status, Callback.completedOrder order status ∈ callbacks ∧
    order.orderId = 0 ∧ order.permId = orderId

inductive Callback.Ends (config : BridgeConfiguration)
    (sent : List (String × Int)) (callbacks : List Callback)
    (clientOrderId : String) : Callback → Prop
  | openOrder {orderId : Int} {order : OrderReport} {status : String}
      (haccount : order.account = config.brokerAccount)
      (howned : order.isOwned config = true)
      (hreference : order.orderRef = clientOrderId)
      (hstatus : IsFinalStatus status) :
      Ends config sent callbacks clientOrderId (.openOrder orderId order status)
  | completedOrder {order : OrderReport} {status : String}
      (haccount : order.account = config.brokerAccount)
      (howned : order.isOwned config = true)
      (hreference : order.orderRef = clientOrderId)
      (hstatus : IsFinalStatus status) :
      Ends config sent callbacks clientOrderId (.completedOrder order status)
  | orderStatus {orderId : Int} {status filled remaining : String}
      (hnumber : NumberOf config sent callbacks orderId clientOrderId)
      (hstatus : IsFinalStatus status) :
      Ends config sent callbacks clientOrderId
        (.orderStatus orderId status filled remaining config.clientId)
  | error {orderId : Int} {details : List App.ErrorDetail}
      (hnumber : NumberOf config sent callbacks orderId clientOrderId)
      (hcode : IsRejection (App.errorCodeOf details)) :
      Ends config sent callbacks clientOrderId (.error .order orderId details)

def IsEnded (config : BridgeConfiguration) (sent : List (String × Int))
    (callbacks : List Callback) (clientOrderId : String) : Prop :=
  ∃ callback ∈ callbacks, callback.Ends config sent callbacks clientOrderId

section
variable {config : BridgeConfiguration} {sent more : List (String × Int)}
  {callbacks later : List Callback} {orderId : Int} {clientOrderId : String}

theorem NumberOf.mono (hsent : sent ⊆ more) (hcallbacks : callbacks ⊆ later)
    (h : NumberOf config sent callbacks orderId clientOrderId) :
    NumberOf config more later orderId clientOrderId := by
  cases h with
  | inl hmem => exact .inl (hsent hmem)
  | inr hnamed =>
    obtain ⟨callback, hcallback, hnames⟩ := hnamed
    exact .inr ⟨callback, hcallbacks hcallback, hnames⟩

theorem IsEnded.mono (hsent : sent ⊆ more) (hcallbacks : callbacks ⊆ later)
    (h : IsEnded config sent callbacks clientOrderId) :
    IsEnded config more later clientOrderId := by
  obtain ⟨callback, hcallback, hends⟩ := h
  refine ⟨callback, hcallbacks hcallback, ?_⟩
  cases hends with
  | openOrder haccount howned hreference hstatus =>
    exact .openOrder haccount howned hreference hstatus
  | completedOrder haccount howned hreference hstatus =>
    exact .completedOrder haccount howned hreference hstatus
  | orderStatus hnumber hstatus =>
    exact .orderStatus (hnumber.mono hsent hcallbacks) hstatus
  | error hnumber hcode =>
    exact .error (hnumber.mono hsent hcallbacks) hcode

theorem IsPermanent.mono (hcallbacks : callbacks ⊆ later)
    (h : IsPermanent callbacks orderId) : IsPermanent later orderId := by
  obtain ⟨order, status, hmem, hzero, hperm⟩ := h
  exact ⟨order, status, hcallbacks hmem, hzero, hperm⟩

end

/-! ## States that end an order -/

def BridgeState.IsEnd (state : BridgeState) : Prop :=
  state = .rejected ∨ state = .cancelled

instance (state : BridgeState) : Decidable state.IsEnd :=
  inferInstanceAs (Decidable (_ ∨ _))

variable {status : String}

theorem BridgeState.isFinalStatus_of_ofStatus (h : (ofStatus status).IsEnd)
    : IsFinalStatus status := by
  unfold ofStatus at h
  unfold IsFinalStatus
  by_cases hinactive : status = "Inactive"
  · exact .inl hinactive
  · by_cases hapi : status = "ApiCancelled"
    · exact .inr (.inl hapi)
    · by_cases hcancelled : status = "Cancelled"
      · exact .inr (.inr hcancelled)
      · rw [if_neg hapi, if_neg hcancelled, if_neg hinactive] at h
        exfalso
        revert h
        split
        · decide
        · split
          · decide
          · split
            · decide
            · split <;> decide

theorem isFinalStatus_of_normalize {filled remaining : String} {state : BridgeState}
    (h : normalizeOrderState status filled remaining = some state)
    (hend : state.IsEnd) : IsFinalStatus status := by
  have hfilled : ¬BridgeState.filled.IsEnd := by decide
  have hpartly : ¬BridgeState.partiallyFilled.IsEnd := by decide
  unfold normalizeOrderState at h
  generalize readQuantities filled remaining = quantities at h
  dsimp only at h
  split at h
  · obtain rfl := Option.some.inj h
    exact absurd hend hfilled
  · simp only [bind_eq_bind, bind_eq_some_iff] at h
    obtain ⟨above, _, h⟩ := h
    split at h
    · rw [bind_eq_some_iff] at h
      obtain ⟨empty, _, h⟩ := h
      split at h
      · obtain rfl := Option.some.inj h
        exact absurd hend hfilled
      · obtain rfl := Option.some.inj h
        exact absurd hend hpartly
    · obtain rfl := Option.some.inj h
      exact BridgeState.isFinalStatus_of_ofStatus hend

/-! ## The bridge tells what it was told -/

namespace App

/-- The numbers and the end states of orders that were sent are those IBKR has
reported. -/
structure Truthful (config : BridgeConfiguration) (sent : List (String × Int))
    (callbacks : List Callback) (app : App) : Prop where
  numbers : ∀ orderId clientOrderId, app.clientByOrder[orderId]? = some clientOrderId →
      NumberOf config sent callbacks orderId clientOrderId ∨ IsPermanent callbacks orderId
  states : ∀ clientOrderId ∈ sent.map (·.1), ∀ state,
    app.stateOf clientOrderId = some state → state.IsEnd →
      IsEnded config sent callbacks clientOrderId
  held : ∀ clientOrderId ∈ sent.map (·.1),
    (app.orderByClient[clientOrderId]?).isSome = true

def IsTold (config : BridgeConfiguration) (sent : List (String × Int))
    (callbacks : List Callback) (event : BridgeEvent) : Prop :=
  ∀ clientOrderId reason, event = .rejected clientOrderId reason →
    clientOrderId ∈ sent.map (·.1) →
      IsEnded config sent callbacks clientOrderId

structure Tells (config : BridgeConfiguration) (sent : List (String × Int))
    (callbacks : List Callback) (app app' : App) : Prop where
  truthful : app'.Truthful config sent callbacks
  puts : ∃ events, app'.events.all = app.events.all ++ events ∧
    ∀ event ∈ events, IsTold config sent callbacks event

variable {config : BridgeConfiguration} {sent : List (String × Int)}
  {callbacks : List Callback} {app app' app'' : App}

theorem Truthful.mono {more : List (String × Int)} {later : List Callback}
    (hids : more.map (·.1) = sent.map (·.1)) (hsent : sent ⊆ more)
    (hcallbacks : callbacks ⊆ later) (h : app.Truthful config sent callbacks) :
    app.Truthful config more later where
  numbers := by
    intro orderId clientOrderId hfound
    cases h.numbers orderId clientOrderId hfound with
    | inl hnumber => exact .inl (hnumber.mono hsent hcallbacks)
    | inr hpermanent => exact .inr (hpermanent.mono hcallbacks)
  states := by
    rw [hids]
    intro clientOrderId hmem state hstate hend
    exact (h.states clientOrderId hmem state hstate hend).mono hsent hcallbacks
  held := by
    rw [hids]
    exact h.held

namespace Tells

theorem refl (h : app.Truthful config sent callbacks) :
    app.Tells config sent callbacks app :=
  ⟨h, [], by rw [append_nil], fun _ hmem => absurd hmem not_mem_nil⟩

theorem trans (h : app.Tells config sent callbacks app')
    (h' : app'.Tells config sent callbacks app'') :
    app.Tells config sent callbacks app'' := by
  refine ⟨h'.truthful, ?_⟩
  obtain ⟨events, heq, htold⟩ := h.puts
  obtain ⟨events', heq', htold'⟩ := h'.puts
  refine ⟨events ++ events', by rw [heq', heq, append_assoc], ?_⟩
  intro event hmem
  cases mem_append.mp hmem with
  | inl hmem => exact htold event hmem
  | inr hmem => exact htold' event hmem

theorem same (h : app.Truthful config sent callbacks)
    (hclients : app'.clientByOrder = app.clientByOrder)
    (hnumbers : app'.orderByClient = app.orderByClient)
    (horders : app'.orders = app.orders) (hevents : app'.events = app.events) :
    app.Tells config sent callbacks app' where
  truthful :=
    { numbers := by
        rw [hclients]
        exact h.numbers
      states := by
        unfold stateOf
        rw [horders]
        exact h.states
      held := by
        rw [hnumbers]
        exact h.held }
  puts :=
    ⟨[], by rw [hevents, append_nil],
      fun _ hmem => absurd hmem not_mem_nil⟩

theorem put (h : app.Truthful config sent callbacks) {event : BridgeEvent}
    (htold : IsTold config sent callbacks event) :
    app.Tells config sent callbacks (app.put event) where
  truthful := ⟨h.numbers, h.states, h.held⟩
  puts := by
    refine ⟨[event], EventQueue.all_put _ _, ?_⟩
    intro other hmem
    rw [mem_singleton] at hmem
    exact hmem ▸ htold

variable {clientOrderId : String}

theorem mapOrder (h : app.Truthful config sent callbacks) {orderId : Int}
    (hnumber : NumberOf config sent callbacks orderId clientOrderId ∨
      IsPermanent callbacks orderId) :
    app.Tells config sent callbacks (app.mapOrder orderId clientOrderId) where
  truthful :=
    { numbers := by
        intro other found hfound
        change (app.clientByOrder.insert orderId clientOrderId)[other]? = _
          at hfound
        by_cases hsame : orderId = other
        · subst hsame
          rw [getElem?_insert_self] at hfound
          exact Option.some.inj hfound ▸ hnumber
        · rw [getElem?_insert_of_ne _ _ hsame] at hfound
          exact h.numbers other found hfound
      states := h.states
      held := by
        intro other hmem
        change ((app.orderByClient.insert clientOrderId orderId)[other]?).isSome = true
        by_cases hsame : clientOrderId = other
        · rw [hsame, getElem?_insert_self]
          rfl
        · rw [getElem?_insert_of_ne _ _ hsame]
          exact h.held other hmem }
  puts :=
    ⟨[], by rw [append_nil]; rfl,
      fun _ hmem => absurd hmem not_mem_nil⟩

theorem stateOf_setOrder_self (app : App) (clientOrderId : String)
    (orderId : Int) (state : BridgeState) (filledQuantity : String) :
    (app.setOrder clientOrderId orderId state filledQuantity).stateOf
      clientOrderId = some state := by
  simp [stateOf, App.setOrder]

theorem stateOf_setOrder_of_ne (app : App) {other : String}
    (hne : clientOrderId ≠ other) (orderId : Int) (state : BridgeState)
    (filledQuantity : String) :
    (app.setOrder clientOrderId orderId state filledQuantity).stateOf other
      = app.stateOf other := by
  unfold stateOf App.setOrder
  dsimp only
  rw [getElem?_insert_of_ne _ _ hne]

theorem setOrder (h : app.Truthful config sent callbacks) {state : BridgeState}
    (hstate : clientOrderId ∈ sent.map (·.1) → state.IsEnd →
      IsEnded config sent callbacks clientOrderId) (orderId : Int)
    (filledQuantity : String) : app.Tells config sent callbacks
      (app.setOrder clientOrderId orderId state filledQuantity) where
  truthful :=
    { numbers := h.numbers
      states := by
        intro other hmem found hfound hend
        by_cases hsame : clientOrderId = other
        · subst hsame
          rw [stateOf_setOrder_self] at hfound
          obtain rfl := Option.some.inj hfound
          exact hstate hmem hend
        · rw [stateOf_setOrder_of_ne _ hsame] at hfound
          exact h.states other hmem found hfound hend
      held := h.held }
  puts :=
    ⟨[], by rw [append_nil]; rfl,
      fun _ hmem => absurd hmem not_mem_nil⟩

end Tells

/-! ## Callbacks -/

theorem raiseNextOrderId_tells (h : app.Truthful config sent callbacks) (orderId : Int) :
    app.Tells config sent callbacks (app.raiseNextOrderId orderId) := by
  unfold raiseNextOrderId
  split
  · exact .same h rfl rfl rfl rfl
  · exact .refl h

variable {clientOrderId status : String} {orderId reqId : Int}

theorem recordOpen_tells (h : app.Truthful config sent callbacks)
    (hended : clientOrderId ∈ sent.map (·.1) → IsFinalStatus status →
      IsEnded config sent callbacks clientOrderId) (orderId : Int) :
    app.Tells config sent callbacks
      (app.recordOpen orderId clientOrderId status) := by
  unfold recordOpen
  split
  · next state hnormalize =>
      apply Tells.setOrder h
      intro hmem hend
      exact hended hmem (isFinalStatus_of_normalize hnormalize hend)
  · exact .refl h

theorem openOrder_tells (h : app.Truthful config sent callbacks) {order : OrderReport}
    (hnumber : order.account = config.brokerAccount → order.isOwned config = true →
        NumberOf config sent callbacks orderId order.orderRef ∨
          IsPermanent callbacks orderId) (hended : order.account = config.brokerAccount →
      order.isOwned config = true → IsFinalStatus status →
        IsEnded config sent callbacks order.orderRef)
    (hforeign : order.account = config.brokerAccount →
      order.isOwned config = false → IsFinalStatus status →
        foreignOrderId orderId order ∉ sent.map (·.1)) : app.Tells config sent callbacks
      (app.openOrder config orderId order status) := by
  have hraised := raiseNextOrderId_tells h orderId
  unfold openOrder
  apply hraised.trans
  dsimp only
  split
  · exact .refl hraised.truthful
  · next haccount =>
      rw [not_not] at haccount
      split
      · next howned =>
          have hmapped := Tells.mapOrder hraised.truthful (hnumber haccount howned)
          apply hmapped.trans
          apply recordOpen_tells hmapped.truthful
          intro _ hstatus
          exact hended haccount howned hstatus
      · next howned =>
          rw [not_eq_true] at howned
          apply recordOpen_tells hraised.truthful
          intro hmem hstatus
          exact absurd hmem (hforeign haccount howned hstatus)

theorem changeState_tells (h : app.Truthful config sent callbacks)
    {normalized : BridgeState}
    (hended : clientOrderId ∈ sent.map (·.1) → normalized.IsEnd →
      IsEnded config sent callbacks clientOrderId) (orderId : Int)
    (filled : String) : app.Tells config sent callbacks
      (app.changeState clientOrderId orderId normalized filled) := by
  unfold changeState
  dsimp only
  split
  · exact .refl h
  · have hset := Tells.setOrder h hended orderId filled
    apply hset.trans
    unfold announce
    split
    · exact .put hset.truthful (fun _ _ heq => by contradiction)
    · split
      · exact .put hset.truthful (fun _ _ heq => by contradiction)
      · split
        · next hrejected =>
            apply Tells.put hset.truthful
            intro other reason heq hmem
            obtain ⟨rfl, _⟩ := BridgeEvent.rejected.inj heq
            exact hended hmem (.inl hrejected.1)
        · exact .refl hset.truthful

theorem orderStatus_tells (h : app.Truthful config sent callbacks)
    {clientId : Int} {filled remaining : String}
    (hended : clientId = config.clientId → IsFinalStatus status →
      ∀ clientOrderId ∈ sent.map (·.1),
        app.clientByOrder[orderId]? = some clientOrderId →
          IsEnded config sent callbacks clientOrderId) : app.Tells config sent callbacks
      (app.orderStatus config orderId status filled remaining clientId) := by
  unfold orderStatus
  split
  · exact .refl h
  · next hclient =>
      rw [not_not] at hclient
      split
      · exact .refl h
      · next clientOrderId hfound =>
          split
          · exact .refl h
          · next normalized hnormalize =>
              dsimp only
              have hdiscard : app.Tells config sent callbacks
                  (if normalized.isTerminal = true then
                    app.discardCancel clientOrderId else app) := by
                split
                · exact .same h rfl rfl rfl rfl
                · exact .refl h
              apply hdiscard.trans
              apply changeState_tells hdiscard.truthful
              intro hmem hend
              exact hended hclient (isFinalStatus_of_normalize hnormalize hend)
                clientOrderId hmem hfound

theorem error_tells (h : app.Truthful config sent callbacks)
    {details : List ErrorDetail} (hended : IsRejection (errorCodeOf details) →
      ∀ clientOrderId ∈ sent.map (·.1),
        app.clientByOrder[reqId]? = some clientOrderId →
        (app.stateOf clientOrderId).any BridgeState.isTerminal = false →
          IsEnded config sent callbacks clientOrderId) :
    app.Tells config sent callbacks (app.error reqId details) := by
  unfold error
  dsimp only
  split
  · exact .same h rfl rfl rfl rfl
  · next hlost =>
      split
      · exact .same h rfl rfl rfl rfl
      · next hback =>
          split
          · exact .refl h
          · next hnotice =>
              split
              · exact .refl h
              · next clientOrderId hfound =>
                  split
                  · unfold failCancel
                    split
                    · have hdiscard : app.Tells config sent callbacks
                          (app.discardCancel clientOrderId) :=
                        .same h rfl rfl rfl rfl
                      exact hdiscard.trans (.put hdiscard.truthful
                        (fun _ _ heq => by contradiction))
                    · exact .refl h
                  · next hcancel =>
                      rw [not_eq_true] at hnotice hcancel
                      have hcode : IsRejection (errorCodeOf details) := by
                        refine ⟨?_, hnotice, hcancel⟩
                        simp only [mem_cons, not_mem_nil, or_false]
                        tauto
                      unfold rejectOrder
                      split
                      · exact .refl h
                      · next hopen =>
                          rw [not_eq_true] at hopen
                          have hset : app.Tells config sent callbacks
                              (app.setOrder clientOrderId reqId .rejected
                                (app.filledOf clientOrderId)) := by
                            apply Tells.setOrder h
                            intro hmem _
                            exact hended hcode clientOrderId hmem hfound hopen
                          apply hset.trans
                          apply Tells.put hset.truthful
                          intro other reason heq hmem
                          obtain ⟨rfl, _⟩ := BridgeEvent.rejected.inj heq
                          exact hended hcode _ hmem hfound hopen

theorem emitExecutionIfComplete_tells
    (h : app.Truthful config sent callbacks) (executionId : String) :
    app.Tells config sent callbacks
      (app.emitExecutionIfComplete config executionId) := by
  have hput : ∀ {event : BridgeEvent} {commission clientOrderId : String}
      {conId : Int} {execution : Execution},
      executionEvent config executionId conId execution commission
        clientOrderId = some event →
      IsTold config sent callbacks event := by
    intro event commission clientOrderId conId execution hevent other reason heq
    unfold executionEvent at hevent
    split at hevent
    · contradiction
    · simp only [bind_eq_bind, bind_eq_some_iff,
        Option.some.injEq] at hevent
      obtain ⟨_, _, _, _, _, _, _, _, _, _, hevent⟩ := hevent
      rw [heq] at hevent
      contradiction
  unfold emitExecutionIfComplete
  split
  · exact .refl h
  · split
    · split
      · next hevent =>
          have htells := Tells.put h (hput hevent)
          exact htells.trans (.same htells.truthful rfl rfl rfl rfl)
      · exact .refl h
    · exact .refl h

theorem recordCumulative_tells (h : app.Truthful config sent callbacks)
    (clientOrderId : String) (orderId : Int) (cumulative : PythonDecimal) :
    app.Tells config sent callbacks
      (app.recordCumulative clientOrderId orderId cumulative) := by
  unfold recordCumulative
  dsimp only
  apply Tells.setOrder h
  intro hmem hend
  split at hend
  · exfalso
    revert hend
    decide
  · cases hstate : app.stateOf clientOrderId with
    | none =>
      rw [hstate] at hend
      exfalso
      revert hend
      decide
    | some state =>
      rw [hstate] at hend
      exact h.states clientOrderId hmem state hstate hend

theorem execDetails_tells (h : app.Truthful config sent callbacks)
    {conId : Int} {execution : Execution}
    (hnumber : execution.acctNumber = config.brokerAccount →
      execution.clientId = config.clientId →
        NumberOf config sent callbacks execution.orderId execution.orderRef) :
    app.Tells config sent callbacks
      (app.execDetails config reqId conId execution) := by
  unfold execDetails
  split
  · exact .refl h
  · next hown =>
      rw [not_or, not_not, not_not] at hown
      have hkept : app.Tells config sent callbacks
          (app.keepExecution reqId conId execution) :=
        .same h rfl rfl rfl rfl
      apply hkept.trans
      generalize app.keepExecution reqId conId execution = kept at hkept
      dsimp only
      split
      · next hcanonical =>
          have hmapped : kept.Tells config sent callbacks
              (kept.mapOrder execution.orderId
                (kept.orderReference execution)) := by
            apply Tells.mapOrder hkept.truthful
            unfold orderReference at hcanonical ⊢
            split
            · exact .inl (hnumber hown.1 hown.2)
            · next hempty =>
                rw [if_neg hempty] at hcanonical
                cases hfound : kept.clientByOrder[execution.orderId]? with
                | none =>
                  rw [hfound] at hcanonical
                  exfalso
                  revert hcanonical
                  decide
                | some clientOrderId =>
                  exact hkept.truthful.numbers _ _ hfound
          split
          · exact hmapped
          · exact hmapped.trans
              (emitExecutionIfComplete_tells hmapped.truthful _)
          · next cumulative _ =>
              have hrecorded := hmapped.trans
                (recordCumulative_tells hmapped.truthful
                  (kept.orderReference execution) execution.orderId cumulative)
              exact hrecorded.trans
                (emitExecutionIfComplete_tells hrecorded.truthful _)
      · exact emitExecutionIfComplete_tells hkept.truthful _

end App

/-- A callback whose number or identifier the bridge cannot take for that of
another order that was sent. -/
def Callback.IsDistinct (config : BridgeConfiguration)
    (sent : List (String × Int)) (callbacks : List Callback) (app : App) : Callback → Prop
  | .openOrder orderId order status =>
    order.account = config.brokerAccount → order.isOwned config = false →
      IsFinalStatus status → foreignOrderId orderId order ∉ sent.map (·.1)
  | .completedOrder order status =>
    order.account = config.brokerAccount → order.isOwned config = false →
      IsFinalStatus status →
        foreignOrderId (App.completedOrderId order) order ∉ sent.map (·.1)
  | .orderStatus orderId status _ _ _ =>
    IsFinalStatus status → IsPermanent callbacks orderId →
      ∀ clientOrderId ∈ sent.map (·.1),
        app.clientByOrder[orderId]? = some clientOrderId →
          NumberOf config sent callbacks orderId clientOrderId
  | .error subject reqId details =>
    IsRejection (App.errorCodeOf details) → ∀ clientOrderId ∈ sent.map (·.1),
        app.clientByOrder[reqId]? = some clientOrderId →
        (app.stateOf clientOrderId).any BridgeState.isTerminal = false →
          subject = .order ∧ (IsPermanent callbacks reqId →
            NumberOf config sent callbacks reqId clientOrderId)
  | _ => True

namespace App

variable {config : BridgeConfiguration} {sent : List (String × Int)}
  {callbacks : List Callback} {app : App}

theorem Truthful.numberOf (h : app.Truthful config sent callbacks)
    {orderId : Int} {clientOrderId : String}
    (hfound : app.clientByOrder[orderId]? = some clientOrderId)
    (hpermanent : IsPermanent callbacks orderId →
      NumberOf config sent callbacks orderId clientOrderId) :
    NumberOf config sent callbacks orderId clientOrderId := by
  cases h.numbers orderId clientOrderId hfound with
  | inl hnumber => exact hnumber
  | inr hold => exact hpermanent hold

theorem Truthful.apply (h : app.Truthful config sent callbacks) {callback : Callback}
    (hdistinct : callback.IsDistinct config sent callbacks app) :
    app.Tells config sent (callback :: callbacks)
      (callback.apply config app) := by
  have hsub : callbacks ⊆ callback :: callbacks := List.subset_cons_self _ _
  have hmem : callback ∈ callback :: callbacks := mem_cons_self
  have hlater := h.mono rfl (List.Subset.refl sent) hsub
  cases callback with
  | nextValidId orderId => exact .same hlater rfl rfl rfl rfl
  | managedAccounts accountsList => exact .same hlater rfl rfl rfl rfl
  | connectionClosed => exact .same hlater rfl rfl rfl rfl
  | openOrder orderId order status =>
    apply openOrder_tells hlater
    · intro haccount howned
      exact .inl (.inr ⟨_, hmem, .openOrder haccount howned rfl⟩)
    · intro haccount howned hstatus
      exact ⟨_, hmem, .openOrder haccount howned rfl hstatus⟩
    · exact hdistinct
  | orderStatus orderId status filled remaining clientId =>
    apply orderStatus_tells hlater
    rintro rfl hstatus clientOrderId hsent hfound
    have hnumber := h.numberOf hfound
      (fun hold => hdistinct hstatus hold clientOrderId hsent hfound)
    exact ⟨_, hmem, .orderStatus (hnumber.mono (List.Subset.refl sent) hsub) hstatus⟩
  | completedOrder order status =>
    change app.Tells config sent _ (app.completedOrder config order status)
    unfold App.completedOrder
    split
    · apply openOrder_tells hlater
      · intro haccount howned
        unfold completedOrderId
        split
        · next hnonzero =>
            exact .inl (.inr ⟨_, hmem, .completedOrder haccount howned rfl rfl hnonzero⟩)
        · next hzero =>
            rw [not_not] at hzero
            exact .inr ⟨order, status, hmem, hzero, rfl⟩
      · intro haccount howned hstatus
        exact ⟨_, hmem, .completedOrder haccount howned rfl hstatus⟩
      · exact hdistinct
    · exact .refl hlater
  | completedOrdersEnd => exact .same hlater rfl rfl rfl rfl
  | openOrderEnd => exact .same hlater rfl rfl rfl rfl
  | position account conId held =>
    change app.Tells config sent _ (app.position config account conId held)
    unfold App.position
    split
    · exact .refl hlater
    · exact .same hlater rfl rfl rfl rfl
  | positionEnd => exact .same hlater rfl rfl rfl rfl
  | accountSummary reqId account tag value currency =>
    change app.Tells config sent _
      (app.accountSummary config reqId account tag value currency)
    unfold App.accountSummary
    split
    · exact .same hlater rfl rfl rfl rfl
    · exact .refl hlater
  | accountSummaryEnd reqId =>
    unfold Callback.apply
    dsimp only
    split
    · exact .same hlater rfl rfl rfl rfl
    · exact .refl hlater
  | execDetails reqId conId execution =>
    apply execDetails_tells hlater
    intro haccount hclient
    exact .inr ⟨_, hmem, .execDetails haccount hclient rfl rfl⟩
  | execDetailsEnd reqId =>
    unfold Callback.apply
    dsimp only
    split
    · exact .same hlater rfl rfl rfl rfl
    · exact .refl hlater
  | commissionReport execId commission =>
    have hkept : app.Tells config sent
        (.commissionReport execId commission :: callbacks)
        ({ app with
          commissions := app.commissions.insert execId commission } : App) :=
      .same hlater rfl rfl rfl rfl
    exact hkept.trans (emitExecutionIfComplete_tells hkept.truthful execId)
  | error subject reqId details =>
    apply error_tells hlater
    intro hcode clientOrderId hsent hfound hopen
    obtain ⟨rfl, hold⟩ := hdistinct hcode clientOrderId hsent hfound hopen
    have hnumber := h.numberOf hfound hold
    exact ⟨_, hmem, .error (hnumber.mono (List.Subset.refl sent) hsub) hcode⟩

end App

end Follon.Ibkr
