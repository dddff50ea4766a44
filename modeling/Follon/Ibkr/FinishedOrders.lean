import Follon.Ibkr.Rejections

/-!
# Finished orders

What callbacks do to an order the bridge holds as filled, cancelled or
rejected, and which of them leave it finished.
-/

namespace Follon.Ibkr

open Foundation Domain

/-! ## Quantities -/

def decimalValue (d : PythonDecimal) : ℚ :=
  (if d.negative = true then -1 else 1) * d.coefficient * (10 : ℚ) ^ d.exponent

def quantityOf (text : String) : Option ℚ :=
  match PythonNumber.ofText text with
  | some (.finite d) => some (decimalValue d)
  | _ => none

def NotBelow (text text' : String) : Prop :=
  ∀ quantity, quantityOf text = some quantity →
    ∃ quantity', quantityOf text' = some quantity' ∧ quantity ≤ quantity'

theorem NotBelow.refl (text : String) : NotBelow text text :=
  fun quantity h => ⟨quantity, h, le_refl _⟩

theorem NotBelow.trans {text text' text'' : String} (h : NotBelow text text')
    (h' : NotBelow text' text'') : NotBelow text text'' := by
  intro quantity hquantity
  obtain ⟨quantity', hquantity', hle⟩ := h quantity hquantity
  obtain ⟨quantity'', hquantity'', hle'⟩ := h' quantity' hquantity'
  exact ⟨quantity'', hquantity'', le_trans hle hle'⟩

/-! ## An order that stays finished -/

def BridgeEvent.Reports (clientOrderId : String) : BridgeEvent → Prop
  | .acknowledged other _ => other = clientOrderId
  | .cancelled other _ => other = clientOrderId
  | .rejected other _ => other = clientOrderId
  | _ => False

namespace App

def IsFinished (app : App) (clientOrderId : String) : Prop :=
  ∃ state, app.stateOf clientOrderId = some state ∧ state.isTerminal = true

structure StaysFinished (clientOrderId : String) (app app' : App) : Prop where
  state : app'.stateOf clientOrderId = app.stateOf clientOrderId
  filled : NotBelow (app.filledOf clientOrderId) (app'.filledOf clientOrderId)
  events : ∃ more, app'.events.all = app.events.all ++ more ∧
    ∀ event ∈ more, ¬event.Reports clientOrderId

end App

def runCallbacks (config : BridgeConfiguration) (app : App)
    (callbacks : List Callback) : App :=
  callbacks.foldl (Callback.apply config) app

def NeverReopened (config : BridgeConfiguration) (app : App)
    (callbacks : List Callback) : Prop :=
  ∀ before after rest, callbacks = before ++ (after ++ rest) →
    ∀ clientOrderId, (runCallbacks config app before).IsFinished clientOrderId →
      App.StaysFinished clientOrderId (runCallbacks config app before)
        (runCallbacks config app (before ++ after))

/-! ## Callbacks that spare a finished order -/

def OrderReport.heldAs (config : BridgeConfiguration) (orderId : Int)
    (order : OrderReport) : String :=
  if order.isOwned config = true then order.orderRef
  else foreignOrderId orderId order

def SparesOpen (config : BridgeConfiguration) (app : App)
    (clientOrderId : String) (orderId : Int) (order : OrderReport)
    (status : String) : Prop :=
  order.account = config.brokerAccount → order.heldAs config orderId = clientOrderId →
      ∀ state, normalizeOrderState status "0" "0" = some state →
        app.stateOf clientOrderId = some state

def Callback.Spares (config : BridgeConfiguration) (app : App)
    (clientOrderId : String) : Callback → Prop
  | .openOrder orderId order status =>
    SparesOpen config app clientOrderId orderId order status
  | .completedOrder order status =>
    0 < App.completedOrderId order →
      SparesOpen config app clientOrderId (App.completedOrderId order) order
        status
  | .orderStatus orderId status filled remaining clientId =>
    clientId = config.clientId → app.clientByOrder[orderId]? = some clientOrderId →
        normalizeOrderState status filled remaining = app.stateOf clientOrderId →
          NotBelow (app.filledOf clientOrderId) filled
  | .execDetails _ _ execution =>
    execution.acctNumber = config.brokerAccount → execution.clientId = config.clientId →
        app.orderReference execution = clientOrderId →
          isCanonicalId clientOrderId = true → ∀ cumulative,
              safeNonnegativeDecimal execution.cumQty = .value cumulative →
                NotBelow (app.filledOf clientOrderId) cumulative.plain
  | _ => True

namespace App

variable {config : BridgeConfiguration} {app app' app'' : App}
  {clientOrderId : String}

namespace StaysFinished

theorem refl (clientOrderId : String) (app : App) :
    StaysFinished clientOrderId app app where
  state := rfl
  filled := .refl _
  events := ⟨[], by simp, by simp⟩

theorem trans (h : StaysFinished clientOrderId app app')
    (h' : StaysFinished clientOrderId app' app'') :
    StaysFinished clientOrderId app app'' where
  state := h'.state.trans h.state
  filled := h.filled.trans h'.filled
  events := by
    obtain ⟨more, hmore, hreports⟩ := h.events
    obtain ⟨more', hmore', hreports'⟩ := h'.events
    refine ⟨more ++ more', by rw [hmore', hmore, append_assoc], ?_⟩
    intro event hevent
    cases mem_append.mp hevent with
    | inl hfirst => exact hreports event hfirst
    | inr hsecond => exact hreports' event hsecond

theorem of_same (horders : app'.orders = app.orders)
    (hevents : app'.events = app.events) : StaysFinished clientOrderId app app' where
  state := by rw [stateOf, stateOf, horders]
  filled := by
    rw [filledOf, filledOf, horders]
    exact .refl _
  events := ⟨[], by rw [hevents, append_nil], by simp⟩

theorem put {event : BridgeEvent} (h : ¬event.Reports clientOrderId) :
    StaysFinished clientOrderId app (app.put event) where
  state := rfl
  filled := .refl _
  events := ⟨[event], by simp [App.put], by simpa using h⟩

theorem filledOf_setOrder_self (app : App) (clientOrderId : String)
    (orderId : Int) (state : BridgeState) (filledQuantity : String) :
    (app.setOrder clientOrderId orderId state filledQuantity).filledOf
      clientOrderId = filledQuantity := by
  simp [App.filledOf, App.setOrder]

theorem setOrder_of_ne {other : String} (hne : other ≠ clientOrderId)
    (orderId : Int) (state : BridgeState) (filledQuantity : String) :
    StaysFinished clientOrderId app
      (app.setOrder other orderId state filledQuantity) where
  state := Tells.stateOf_setOrder_of_ne _ hne _ _ _
  filled := by
    have hsame : (app.setOrder other orderId state filledQuantity).filledOf
        clientOrderId = app.filledOf clientOrderId := by
      unfold App.filledOf App.setOrder
      dsimp only
      rw [getElem?_insert_of_ne _ _ hne]
    rw [hsame]
    exact .refl _
  events := ⟨[], by simp [App.setOrder], by simp⟩

theorem setOrder_self {state : BridgeState}
    (hstate : app.stateOf clientOrderId = some state) {filledQuantity : String}
    (hfilled : NotBelow (app.filledOf clientOrderId) filledQuantity)
    (orderId : Int) : StaysFinished clientOrderId app
      (app.setOrder clientOrderId orderId state filledQuantity) where
  state := by rw [Tells.stateOf_setOrder_self, hstate]
  filled := by rwa [filledOf_setOrder_self]
  events := ⟨[], by simp [App.setOrder], by simp⟩

end StaysFinished

/-! ## Callbacks about orders -/

variable {orderId reqId conId : Int} {other status filled : String}
  {execution : Execution} {callback : Callback}

theorem recordOpen_spares (hspares : other = clientOrderId → ∀ state,
      normalizeOrderState status "0" "0" = some state →
        app.stateOf clientOrderId = some state) :
    StaysFinished clientOrderId app (app.recordOpen orderId other status) := by
  unfold recordOpen
  split
  · next state hstate =>
      by_cases hsame : other = clientOrderId
      · subst hsame
        exact .setOrder_self (hspares rfl state hstate) (.refl _) orderId
      · exact .setOrder_of_ne hsame _ _ _
  · exact .refl _ _

theorem openOrder_spares {order : OrderReport}
    (hspares : SparesOpen config app clientOrderId orderId order status) :
    StaysFinished clientOrderId app
      (app.openOrder config orderId order status) := by
  have hraise : (app.raiseNextOrderId orderId).orders = app.orders ∧
      (app.raiseNextOrderId orderId).events = app.events := by
    unfold raiseNextOrderId
    split <;> exact ⟨rfl, rfl⟩
  have hstate : (app.raiseNextOrderId orderId).stateOf clientOrderId
      = app.stateOf clientOrderId := by
    rw [stateOf, stateOf, hraise.1]
  unfold SparesOpen OrderReport.heldAs at hspares
  unfold openOrder
  dsimp only
  refine StaysFinished.trans (.of_same hraise.1 hraise.2) ?_
  split
  · exact .refl _ _
  · next haccount =>
      have hreported := hspares (not_not.mp haccount)
      split
      · next howned =>
          rw [if_pos howned] at hreported
          have hmapped : StaysFinished clientOrderId
              (app.raiseNextOrderId orderId)
              ((app.raiseNextOrderId orderId).mapOrder orderId
                order.orderRef) := .of_same rfl rfl
          apply hmapped.trans
          apply recordOpen_spares
          intro hsame state hnormalized
          exact hstate.trans (hreported hsame state hnormalized)
      · next howned =>
          rw [if_neg howned] at hreported
          apply recordOpen_spares
          intro hsame state hnormalized
          exact hstate.trans (hreported hsame state hnormalized)

theorem announce_of_ne (hne : other ≠ clientOrderId) (orderId : Int)
    (previous : Option BridgeState) (normalized : BridgeState) :
    StaysFinished clientOrderId app
      (app.announce other orderId previous normalized) := by
  unfold announce
  split
  · exact .put hne
  · split
    · exact .put hne
    · split
      · exact .put hne
      · exact .refl _ _

theorem announce_finished {state : BridgeState} (h : state.isTerminal = true)
    (orderId : Int) : app.announce clientOrderId orderId (some state) state = app := by
  cases state <;> simp [BridgeState.isTerminal] at h <;>
    simp [announce, isWorking]

theorem changeState_spares {normalized : BridgeState}
    (hfinished : app.IsFinished clientOrderId) (hspares : other = clientOrderId →
      some normalized = app.stateOf clientOrderId →
        NotBelow (app.filledOf clientOrderId) filled) : StaysFinished clientOrderId app
      (app.changeState other orderId normalized filled) := by
  obtain ⟨state, hstate, hterminal⟩ := hfinished
  unfold changeState
  dsimp only
  by_cases hsame : other = clientOrderId
  · subst hsame
    rw [hstate, Option.any_some, hterminal]
    split
    · exact .refl _ _
    · next hother =>
        have heq : state = normalized := by simpa using hother
        subst heq
        rw [announce_finished hterminal]
        exact .setOrder_self hstate (hspares rfl hstate.symm) orderId
  · split
    · exact .refl _ _
    · exact StaysFinished.trans (.setOrder_of_ne hsame _ _ _)
        (announce_of_ne hsame _ _ _)

theorem orderStatus_spares {clientId : Int} {remaining : String}
    (hfinished : app.IsFinished clientOrderId)
    (hspares : (Callback.orderStatus orderId status filled remaining
      clientId).Spares config app clientOrderId) : StaysFinished clientOrderId app
      (app.orderStatus config orderId status filled remaining clientId) := by
  unfold Callback.Spares at hspares
  unfold orderStatus
  split
  · exact .refl _ _
  · next hclient =>
      split
      · exact .refl _ _
      · next other hother =>
          split
          · exact .refl _ _
          · next normalized hnormalized =>
              have hreported : other = clientOrderId →
                  some normalized = app.stateOf clientOrderId →
                    NotBelow (app.filledOf clientOrderId) filled := by
                rintro rfl hstate
                exact hspares (not_not.mp hclient) hother
                  (hnormalized.trans hstate)
              have hdiscarded : StaysFinished clientOrderId app
                  (app.discardCancel other) := .of_same rfl rfl
              dsimp only
              split
              · apply hdiscarded.trans
                exact changeState_spares hfinished hreported
              · exact changeState_spares hfinished hreported

theorem error_spares {details : List ErrorDetail}
    (hfinished : app.IsFinished clientOrderId) :
    StaysFinished clientOrderId app (app.error reqId details) := by
  obtain ⟨state, hstate, hterminal⟩ := hfinished
  unfold error
  dsimp only
  split
  · exact .of_same rfl rfl
  · split
    · exact .of_same rfl rfl
    · split
      · exact .refl _ _
      · split
        · exact .refl _ _
        · next other hother =>
            split
            · unfold failCancel
              split
              · have hdiscarded : StaysFinished clientOrderId app
                    (app.discardCancel other) := .of_same rfl rfl
                exact hdiscarded.trans (.put id)
              · exact .refl _ _
            · unfold rejectOrder
              split
              · exact .refl _ _
              · next hopen =>
                  have hne : other ≠ clientOrderId := by
                    rintro rfl
                    exact hopen (by rw [hstate]; exact hterminal)
                  exact StaysFinished.trans (.setOrder_of_ne hne _ _ _)
                    (.put hne)

/-! ## Callbacks about executions -/

theorem executionEvent_reports {executionId commission : String} {event : BridgeEvent}
    (h : executionEvent config executionId conId execution commission other
      = some event) : ¬event.Reports clientOrderId := by
  unfold executionEvent at h
  split at h
  · contradiction
  · simp only [bind_eq_bind, bind_eq_some_iff,
      Option.some.injEq] at h
    obtain ⟨_, _, _, _, _, _, _, _, _, _, rfl⟩ := h
    exact id

theorem emitExecutionIfComplete_spares (executionId : String) :
    StaysFinished clientOrderId app
      (app.emitExecutionIfComplete config executionId) := by
  unfold emitExecutionIfComplete
  split
  · exact .refl _ _
  · split
    · split
      · next hevent =>
          exact StaysFinished.trans (.put (executionEvent_reports hevent))
            (.of_same rfl rfl)
      · exact .refl _ _
    · exact .refl _ _

theorem recordCumulative_spares {cumulative : PythonDecimal}
    (hfinished : app.IsFinished clientOrderId) (hspares : other = clientOrderId →
      NotBelow (app.filledOf clientOrderId) cumulative.plain) :
    StaysFinished clientOrderId app
      (app.recordCumulative other orderId cumulative) := by
  obtain ⟨state, hstate, hterminal⟩ := hfinished
  unfold recordCumulative
  dsimp only
  by_cases hsame : other = clientOrderId
  · subst hsame
    rw [hstate, getD_some, hterminal]
    exact .setOrder_self hstate (hspares rfl) orderId
  · exact .setOrder_of_ne hsame _ _ _

theorem execDetails_spares (hfinished : app.IsFinished clientOrderId)
    (hspares : (Callback.execDetails reqId conId execution).Spares config app
      clientOrderId) : StaysFinished clientOrderId app
      (app.execDetails config reqId conId execution) := by
  unfold Callback.Spares at hspares
  unfold execDetails
  split
  · exact .refl _ _
  · next howner =>
      rw [not_or, not_not, not_not] at howner
      have hreported := hspares howner.1 howner.2
      have hkept : StaysFinished clientOrderId app
          (app.keepExecution reqId conId execution) := .of_same rfl rfl
      have hmapped : StaysFinished clientOrderId app
          ((app.keepExecution reqId conId execution).mapOrder
            execution.orderId (app.orderReference execution)) := .of_same rfl rfl
      dsimp only
      split
      · next hcanonical =>
          apply hmapped.trans
          split
          · exact .of_same rfl rfl
          · exact emitExecutionIfComplete_spares _
          · next cumulative hcumulative =>
              refine StaysFinished.trans (recordCumulative_spares hfinished ?_)
                (emitExecutionIfComplete_spares _)
              intro hsame
              exact hreported hsame (hsame ▸ hcanonical) cumulative hcumulative
      · exact hkept.trans (emitExecutionIfComplete_spares _)

/-! ## Runs -/

theorem apply_spares (hfinished : app.IsFinished clientOrderId)
    (hspares : callback.Spares config app clientOrderId) :
    StaysFinished clientOrderId app (callback.apply config app) := by
  cases callback with
  | nextValidId => exact .of_same rfl rfl
  | managedAccounts => exact .of_same rfl rfl
  | connectionClosed => exact .of_same rfl rfl
  | completedOrdersEnd => exact .of_same rfl rfl
  | openOrderEnd => exact .of_same rfl rfl
  | positionEnd => exact .of_same rfl rfl
  | openOrder => exact openOrder_spares hspares
  | orderStatus => exact orderStatus_spares hfinished hspares
  | completedOrder order status =>
    change StaysFinished clientOrderId app
      (app.completedOrder config order status)
    unfold completedOrder
    split
    · next hpositive => exact openOrder_spares (hspares hpositive)
    · exact .refl _ _
  | position account conId held =>
    change StaysFinished clientOrderId app
      (app.position config account conId held)
    unfold position
    split <;> exact .of_same rfl rfl
  | accountSummary reqId account tag value currency =>
    change StaysFinished clientOrderId app
      (app.accountSummary config reqId account tag value currency)
    unfold accountSummary
    split <;> exact .of_same rfl rfl
  | accountSummaryEnd =>
    simp only [Callback.apply]
    split <;> exact .of_same rfl rfl
  | execDetails => exact execDetails_spares hfinished hspares
  | execDetailsEnd =>
    simp only [Callback.apply]
    split <;> exact .of_same rfl rfl
  | commissionReport execId commission =>
    have hkept : StaysFinished clientOrderId app
        { app with commissions := app.commissions.insert execId commission } :=
      .of_same rfl rfl
    exact hkept.trans (emitExecutionIfComplete_spares _)
  | error => exact error_spares hfinished

theorem spares_of_staysFinished (hfinished : app.IsFinished clientOrderId)
    (h : StaysFinished clientOrderId app (callback.apply config app)) :
    callback.Spares config app clientOrderId := by
  have hopen : ∀ {orderId : Int} {order : OrderReport} {status : String},
      StaysFinished clientOrderId app
          (app.openOrder config orderId order status) →
        SparesOpen config app clientOrderId orderId order status := by
    intro orderId order status hstays haccount hheld state hnormalized
    rw [← hstays.state]
    unfold OrderReport.heldAs at hheld
    unfold openOrder
    dsimp only
    rw [if_neg (not_not.mpr haccount)]
    split
    · next howned =>
        rw [if_pos howned] at hheld
        unfold recordOpen
        rw [hnormalized, hheld]
        exact Tells.stateOf_setOrder_self _ _ _ _ _
    · next howned =>
        rw [if_neg howned] at hheld
        unfold recordOpen
        rw [hnormalized, hheld]
        exact Tells.stateOf_setOrder_self _ _ _ _ _
  cases callback with
  | openOrder => exact hopen h
  | completedOrder order status =>
    intro hpositive
    apply hopen
    change StaysFinished clientOrderId app
      (app.completedOrder config order status) at h
    unfold completedOrder at h
    rwa [if_pos hpositive] at h
  | orderStatus orderId status filled remaining clientId =>
    intro hclient hother hnormalized
    obtain ⟨state, hstate, hterminal⟩ := hfinished
    have hfilled := h.filled
    change NotBelow _ ((app.orderStatus config orderId status filled remaining
      clientId).filledOf clientOrderId) at hfilled
    unfold orderStatus at hfilled
    rw [if_neg (not_not.mpr hclient), hother] at hfilled
    dsimp only at hfilled
    rw [hnormalized, hstate] at hfilled
    dsimp only at hfilled
    rw [if_pos hterminal] at hfilled
    have hdiscard : (app.discardCancel clientOrderId).stateOf clientOrderId
        = some state := hstate
    unfold changeState at hfilled
    rw [hdiscard, if_neg (fun hother => hother.2 rfl),
      announce_finished hterminal, StaysFinished.filledOf_setOrder_self]
      at hfilled
    exact hfilled
  | execDetails reqId conId execution =>
    intro haccount hclient hreference hcanonical cumulative hcumulative
    have hfilled := h.filled
    change NotBelow _ ((app.execDetails config reqId conId
      execution).filledOf clientOrderId) at hfilled
    have hemit : ∀ (app' : App) (executionId : String),
        (app'.emitExecutionIfComplete config executionId).filledOf
          clientOrderId = app'.filledOf clientOrderId := by
      intro app' executionId
      unfold emitExecutionIfComplete
      split
      · rfl
      · split
        · split <;> rfl
        · rfl
    have hkept : (app.keepExecution reqId conId execution).orderReference
        execution = clientOrderId := hreference
    unfold execDetails at hfilled
    rw [if_neg (by simp [haccount, hclient])] at hfilled
    dsimp only at hfilled
    rw [hkept, if_pos hcanonical, hcumulative] at hfilled
    dsimp only at hfilled
    rw [hemit] at hfilled
    unfold recordCumulative at hfilled
    dsimp only at hfilled
    rwa [StaysFinished.filledOf_setOrder_self] at hfilled
  | _ => trivial

end App

theorem runCallbacks_append (config : BridgeConfiguration) (app : App)
    (callbacks callbacks' : List Callback) :
    runCallbacks config app (callbacks ++ callbacks')
      = runCallbacks config (runCallbacks config app callbacks) callbacks' :=
  List.foldl_append

theorem staysFinished_run {config : BridgeConfiguration} {app : App}
    {clientOrderId : String} {callbacks : List Callback}
    (hfinished : app.IsFinished clientOrderId) (hspares : ∀ before callback after,
      callbacks = before ++ callback :: after →
        (runCallbacks config app before).IsFinished clientOrderId →
          callback.Spares config (runCallbacks config app before)
            clientOrderId) :
    App.StaysFinished clientOrderId app (runCallbacks config app callbacks) := by
  induction callbacks generalizing app with
  | nil => exact .refl _ _
  | cons callback callbacks ih =>
    have hstep := App.apply_spares hfinished
      (hspares [] callback callbacks rfl hfinished)
    have hfinished' : (callback.apply config app).IsFinished clientOrderId := by
      obtain ⟨state, hstate, hterminal⟩ := hfinished
      exact ⟨state, hstep.state.trans hstate, hterminal⟩
    refine hstep.trans (ih hfinished' ?_)
    intro before callback' after hsplit
    exact hspares (callback :: before) callback' after (by rw [hsplit]; rfl)

/-- Finished orders are never reopened exactly in the runs whose callbacks
spare them. -/
theorem neverReopened_iff (config : BridgeConfiguration) (app : App)
    (callbacks : List Callback) : NeverReopened config app callbacks ↔
      ∀ before callback after, callbacks = before ++ callback :: after →
        ∀ clientOrderId, (runCallbacks config app before).IsFinished clientOrderId →
            callback.Spares config (runCallbacks config app before)
              clientOrderId := by
  constructor
  · intro h before callback after hsplit clientOrderId hfinished
    apply App.spares_of_staysFinished hfinished
    have hstays := h before [callback] after (by simpa using hsplit)
      clientOrderId hfinished
    rw [runCallbacks_append] at hstays
    exact hstays
  · intro h before after rest hsplit clientOrderId hfinished
    rw [runCallbacks_append]
    apply staysFinished_run hfinished
    intro before' callback after' hsplit' hfinished'
    rw [← runCallbacks_append] at hfinished' ⊢
    exact h (before ++ before') callback (after' ++ rest)
      (by rw [hsplit, hsplit']; simp) clientOrderId hfinished'

namespace ReopeningRun

def config : BridgeConfiguration where
  accountId := "paper"
  brokerAccount := "DU1"
  accountCurrency := "USD"
  clientId := 7
  twsTimezone := "UTC"
  instruments := []
  instantText := fun _ _ _ => none

def order : OrderReport where
  account := "DU1"
  orderRef := "order-1"
  clientId := 7
  permId := 0
  orderId := 1

def cancelled : List Callback :=
  [.openOrder 1 order "Submitted", .orderStatus 1 "Cancelled" "0" "5" 7]

def repeated : List Callback :=
  [.openOrder 1 order "Submitted", .orderStatus 1 "Cancelled" "0" "5" 7]

theorem cancelled_reopened : ¬NeverReopened config .new (cancelled ++ repeated) ∧
      (runCallbacks config .new (cancelled ++ repeated)).events.all
        = [.cancelled "order-1" "IBKR_PAPER_CANCELLED",
          .cancelled "order-1" "IBKR_PAPER_CANCELLED"] := by
  have hbefore : (runCallbacks config .new cancelled).stateOf "order-1"
      = some .cancelled := by
    decide
  have hafter : (runCallbacks config .new (cancelled ++
      [.openOrder 1 order "Submitted"])).stateOf "order-1"
        = some .acknowledged := by
    decide
  constructor
  · intro h
    have hstays := h cancelled [.openOrder 1 order "Submitted"]
      [.orderStatus 1 "Cancelled" "0" "5" 7] rfl "order-1"
      ⟨.cancelled, hbefore, rfl⟩
    have hstate := hstays.state
    rw [hbefore, hafter] at hstate
    exact absurd hstate (by decide)
  · decide

end ReopeningRun

end Follon.Ibkr
