import Follon.Ibkr.Session

/-!
# Executions pass once

Every execution the bridge accepts has one event once its two reports are
there, whatever else is reported in between.  Two executions keep apart unless
their identifiers are rewritten alike.
-/

namespace Follon.Ibkr

open Foundation Domain

/-! ## Execution events -/

def BridgeEvent.isExecution : BridgeEvent → Bool
  | .execution .. => true
  | _ => false

def BridgeEvent.executionId : BridgeEvent → String
  | .execution executionId .. => executionId
  | _ => ""

def executionEvents (events : List BridgeEvent) : List BridgeEvent :=
  events.filter BridgeEvent.isExecution

structure App.SameExecutions (app app' : App) : Prop where
  data : app'.executionData = app.executionData
  commissions : app'.commissions = app.commissions
  emitted : app'.emittedExecutions = app.emittedExecutions
  events : executionEvents app'.events.all = executionEvents app.events.all

namespace App.SameExecutions

theorem refl (app : App) : app.SameExecutions app := ⟨rfl, rfl, rfl, rfl⟩

theorem trans {a b c : App} (h : a.SameExecutions b)
    (h' : b.SameExecutions c) : a.SameExecutions c where
  data := h'.data.trans h.data
  commissions := h'.commissions.trans h.commissions
  emitted := h'.emitted.trans h.emitted
  events := h'.events.trans h.events

end App.SameExecutions

namespace App

variable {config : BridgeConfiguration}

theorem put_same (app : App) {event : BridgeEvent}
    (h : event.isExecution = false) : app.SameExecutions (app.put event) where
  data := rfl
  commissions := rfl
  emitted := rfl
  events := by
    simp [put, executionEvents, h]

theorem recordOpen_same (orderId : Int) (clientOrderId status : String) (app : App) :
    app.SameExecutions (app.recordOpen orderId clientOrderId status) := by
  unfold recordOpen
  split
  · exact ⟨rfl, rfl, rfl, rfl⟩
  · exact .refl app

theorem openOrder_same (orderId : Int) (order : OrderReport) (status : String)
    (app : App) : app.SameExecutions (app.openOrder config orderId order status) := by
  have hraise : app.SameExecutions (app.raiseNextOrderId orderId) := by
    unfold raiseNextOrderId
    split
    · exact ⟨rfl, rfl, rfl, rfl⟩
    · exact .refl app
  unfold openOrder
  apply hraise.trans
  dsimp only
  split
  · exact .refl _
  · split
    · have hmap : (app.raiseNextOrderId orderId).SameExecutions
          ((app.raiseNextOrderId orderId).mapOrder orderId order.orderRef) :=
        ⟨rfl, rfl, rfl, rfl⟩
      exact hmap.trans (recordOpen_same _ _ _ _)
    · exact recordOpen_same _ _ _ _

theorem completedOrder_same (order : OrderReport) (status : String) (app : App) :
    app.SameExecutions (app.completedOrder config order status) := by
  unfold completedOrder
  split
  · exact openOrder_same _ _ _ _
  · exact .refl app

theorem announce_same (clientOrderId : String) (orderId : Int)
    (previous : Option BridgeState) (normalized : BridgeState) (app : App) :
    app.SameExecutions
      (app.announce clientOrderId orderId previous normalized) := by
  unfold announce
  split
  · exact put_same app rfl
  · split
    · exact put_same app rfl
    · split
      · exact put_same app rfl
      · exact .refl app

theorem discardCancel_same (clientOrderId : String) (app : App) :
    app.SameExecutions (app.discardCancel clientOrderId) :=
  ⟨rfl, rfl, rfl, rfl⟩

theorem setOrder_same (clientOrderId : String) (orderId : Int)
    (state : BridgeState) (filledQuantity : String) (app : App) : app.SameExecutions
      (app.setOrder clientOrderId orderId state filledQuantity) :=
  ⟨rfl, rfl, rfl, rfl⟩

theorem changeState_same (clientOrderId : String) (orderId : Int)
    (normalized : BridgeState) (filled : String) (app : App) : app.SameExecutions
      (app.changeState clientOrderId orderId normalized filled) := by
  unfold changeState
  dsimp only
  split
  · exact .refl app
  · exact (setOrder_same _ _ _ _ _).trans (announce_same _ _ _ _ _)

theorem orderStatus_same (orderId : Int) (status filled remaining : String)
    (clientId : Int) (app : App) : app.SameExecutions
      (app.orderStatus config orderId status filled remaining clientId) := by
  unfold orderStatus
  split
  · exact .refl app
  · split
    · exact .refl app
    · next clientOrderId _ =>
        split
        · exact .refl app
        · next normalized _ =>
            dsimp only
            have hdiscard : app.SameExecutions
                (if normalized.isTerminal = true then
                  app.discardCancel clientOrderId else app) := by
              split
              · exact discardCancel_same _ _
              · exact .refl app
            exact hdiscard.trans (changeState_same _ _ _ _ _)

theorem error_same (reqId : Int) (details : List ErrorDetail) (app : App) :
    app.SameExecutions (app.error reqId details) := by
  unfold error
  dsimp only
  split
  · exact ⟨rfl, rfl, rfl, rfl⟩
  · split
    · exact ⟨rfl, rfl, rfl, rfl⟩
    · split
      · exact .refl app
      · split
        · exact .refl app
        · next clientOrderId _ =>
            split
            · unfold failCancel
              split
              · exact (discardCancel_same _ _).trans (put_same _ rfl)
              · exact .refl app
            · unfold rejectOrder
              split
              · exact .refl app
              · exact (setOrder_same _ _ _ _ _).trans (put_same _ rfl)

end App

/-! ## Reports -/

def Callback.execution? (config : BridgeConfiguration) (executionId : String) :
    Callback → Option (Int × Execution)
  | .execDetails _ conId execution =>
    if execution.execId = executionId ∧
        execution.acctNumber = config.brokerAccount ∧
        execution.clientId = config.clientId then
      some (conId, execution)
    else none
  | _ => none

def Callback.commission? (executionId : String) : Callback → Option String
  | .commissionReport execId commission =>
    if execId = executionId then some commission else none
  | _ => none

def lastExecution (config : BridgeConfiguration) (callbacks : List Callback)
    (executionId : String) : Option (Int × Execution) :=
  callbacks.findSome? (Callback.execution? config executionId)

def lastCommission (callbacks : List Callback) (executionId : String) : Option String :=
  callbacks.findSome? (Callback.commission? executionId)

def Arrived (config : BridgeConfiguration) (callbacks : List Callback)
    (executionId : String) : Prop :=
  ∃ conId execution commission event,
    lastExecution config callbacks executionId = some (conId, execution) ∧
    lastCommission callbacks executionId = some commission ∧
    App.executionEvent config executionId conId execution commission
      execution.orderRef = some event

def IsEventOf (config : BridgeConfiguration) (callbacks : List Callback)
    (executionId : String) (event : BridgeEvent) : Prop :=
  ∃ report ∈ callbacks, ∃ fee ∈ callbacks, ∃ conId execution commission clientOrderId,
      report.execution? config executionId = some (conId, execution) ∧
      fee.commission? executionId = some commission ∧
      App.executionEvent config executionId conId execution commission
        clientOrderId = some event

variable {callbacks : List Callback} {event : BridgeEvent}

theorem IsEventOf.mono {config : BridgeConfiguration} {more : List Callback}
    (hsub : callbacks ⊆ more) {executionId : String}
    (h : IsEventOf config callbacks executionId event) :
    IsEventOf config more executionId event := by
  obtain ⟨report, hreport, fee, hfee, hevent⟩ := h
  exact ⟨report, hsub hreport, fee, hsub hfee, hevent⟩

namespace App

variable {config : BridgeConfiguration}

variable {commission clientOrderId : String} {conId : Int}
  {event : BridgeEvent}

theorem executionEvent_isExecution {executionId : String} {execution : Execution}
    (h : executionEvent config executionId conId execution commission
      clientOrderId = some event) : event.isExecution = true ∧
      event.executionId = canonicalExecutionId executionId := by
  unfold executionEvent at h
  split at h
  · simp at h
  · simp only [bind_eq_bind, bind_eq_some_iff,
      Option.some.injEq] at h
    obtain ⟨_, _, _, _, _, _, _, _, _, _, _, _, rfl⟩ := h
    exact ⟨rfl, rfl⟩

theorem isCanonicalId_of_executionEvent {executionId : String} {execution : Execution}
    (h : executionEvent config executionId conId execution commission
      clientOrderId = some event) : isCanonicalId clientOrderId = true := by
  unfold executionEvent at h
  split at h
  · simp at h
  · next hcanonical => rwa [not_eq_false] at hcanonical

theorem orderReference_of_canonical {execution : Execution}
    (h : isCanonicalId execution.orderRef = true) (app : App) :
    app.orderReference execution = execution.orderRef := by
  apply if_pos
  intro hempty
  rw [hempty] at h
  revert h
  decide

def dueEvent (config : BridgeConfiguration) (executionId : String)
    (app : App) : Option BridgeEvent :=
  match app.executionData[executionId]?, app.commissions[executionId]? with
  | some (conId, execution), some commission =>
    executionEvent config executionId conId execution commission
      (app.orderReference execution)
  | _, _ => none

theorem emitExecutionIfComplete_eq (executionId : String) (app : App) :
    app.emitExecutionIfComplete config executionId =
      if executionId ∈ app.emittedExecutions then app
      else
        match app.dueEvent config executionId with
        | some event =>
          { app with
            emittedExecutions := app.emittedExecutions ++ [executionId]
            events := app.events.put event }
        | none => app := by
  unfold emitExecutionIfComplete dueEvent
  split
  · rfl
  · cases app.executionData[executionId]? with
    | none => rfl
    | some report =>
      cases app.commissions[executionId]? with
      | none => rfl
      | some commission => rfl

def Collides (config : BridgeConfiguration) (executionId : String) (app : App) : Prop :=
  executionId ∉ app.emittedExecutions ∧ (app.dueEvent config executionId).isSome = true ∧
    ∃ other ∈ app.emittedExecutions, Confusable executionId other

def Overflows (config : BridgeConfiguration) (execution : Execution) (app : App) : Prop :=
  execution.execId ∉ app.emittedExecutions ∧
    (app.dueEvent config execution.execId).isSome = true ∧
    safeDecimal execution.cumQty = .raises

end App

/-- A callback that neither completes an execution whose identifier is rewritten
like that of another with an event, nor comes with a number that is too
large. -/
def Callback.IsCareful (config : BridgeConfiguration) (app : App) : Callback → Prop
  | .execDetails reqId conId execution =>
    execution.acctNumber = config.brokerAccount →
    execution.clientId = config.clientId →
      ¬(app.keepExecution reqId conId execution).Collides config
        execution.execId ∧
      ¬(app.keepExecution reqId conId execution).Overflows config execution
  | .commissionReport execId commission =>
    ¬({ app with
      commissions := app.commissions.insert execId commission } :
        App).Collides config execId
  | _ => True

/-! ## What the bridge keeps of the reports -/

/-- The bridge after some callbacks, the last first.  The executions that are
missing may lack their event. -/
structure App.Kept (config : BridgeConfiguration) (callbacks : List Callback)
    (missing : List String) (app : App) : Prop where
  data : ∀ executionId,
    app.executionData[executionId]? = lastExecution config callbacks executionId
  commissions : ∀ executionId,
    app.commissions[executionId]? = lastCommission callbacks executionId
  nodup : app.emittedExecutions.Nodup
  events : List.Forall₂ (IsEventOf config callbacks) app.emittedExecutions
    (executionEvents app.events.all)
  complete : ∀ executionId, executionId ∉ missing →
    Arrived config callbacks executionId → executionId ∈ app.emittedExecutions
  distinct : (app.emittedExecutions.map canonicalExecutionId).Nodup

namespace App

variable {config : BridgeConfiguration} {callbacks : List Callback}
  {missing : List String} {app app' : App}

theorem Kept.same (h : app.Kept config callbacks missing)
    (hsame : app.SameExecutions app') : app'.Kept config callbacks missing where
  data := by
    rw [hsame.data]
    exact h.data
  commissions := by
    rw [hsame.commissions]
    exact h.commissions
  nodup := by
    rw [hsame.emitted]
    exact h.nodup
  events := by
    rw [hsame.emitted, hsame.events]
    exact h.events
  complete := by
    rw [hsame.emitted]
    exact h.complete
  distinct := by
    rw [hsame.emitted]
    exact h.distinct

theorem Kept.cons {callback : Callback} (h : app.Kept config callbacks missing)
    (hexecution : ∀ executionId, callback.execution? config executionId = none)
    (hcommission : ∀ executionId, callback.commission? executionId = none) :
    app.Kept config (callback :: callbacks) missing := by
  have hdata : ∀ executionId, lastExecution config (callback :: callbacks)
      executionId = lastExecution config callbacks executionId := by
    intro executionId
    rw [lastExecution, List.findSome?_cons, hexecution]
    rfl
  have hfees : ∀ executionId, lastCommission (callback :: callbacks)
      executionId = lastCommission callbacks executionId := by
    intro executionId
    rw [lastCommission, List.findSome?_cons, hcommission]
    rfl
  constructor
  · intro executionId
    rw [hdata]
    exact h.data executionId
  · intro executionId
    rw [hfees]
    exact h.commissions executionId
  · exact h.nodup
  · apply h.events.imp
    intro executionId event hevent
    exact hevent.mono (List.subset_cons_self _ _)
  · rintro executionId hpresent
      ⟨conId, execution, commission, event, hlast, hfee, hevent⟩
    rw [hdata] at hlast
    rw [hfees] at hfee
    exact h.complete executionId hpresent
      ⟨conId, execution, commission, event, hlast, hfee, hevent⟩
  · exact h.distinct

theorem Kept.dueEvent_of_arrived
    (h : app.Kept config callbacks missing) {executionId : String}
    (harrived : Arrived config callbacks executionId) :
    (app.dueEvent config executionId).isSome = true := by
  obtain ⟨conId, execution, commission, event, hlast, hfee, hevent⟩ := harrived
  have hreference : app.orderReference execution = execution.orderRef :=
    orderReference_of_canonical (isCanonicalId_of_executionEvent hevent) app
  simp [dueEvent, h.data, hlast, h.commissions, hfee, hreference, hevent]

theorem Kept.isEventOf (h : app.Kept config callbacks missing) {executionId : String}
    {event : BridgeEvent} (hdue : app.dueEvent config executionId = some event) :
    IsEventOf config callbacks executionId event := by
  unfold dueEvent at hdue
  rw [h.data, h.commissions] at hdue
  split at hdue
  · next conId execution commission hlast hfee =>
      obtain ⟨report, hreport, hfound⟩ :=
        List.exists_of_findSome?_eq_some hlast
      obtain ⟨fee, hfeeMem, hfeeFound⟩ :=
        List.exists_of_findSome?_eq_some hfee
      exact ⟨report, hreport, fee, hfeeMem, conId, execution, commission, _,
        hfound, hfeeFound, hdue⟩
  · contradiction

theorem Kept.emit {reported : String} (h : app.Kept config callbacks [reported])
    (hcollides : ¬app.Collides config reported) :
    (app.emitExecutionIfComplete config reported).Kept config callbacks [] := by
  rw [emitExecutionIfComplete_eq]
  have hothers : ∀ executionId, executionId ≠ reported →
      Arrived config callbacks executionId →
        executionId ∈ app.emittedExecutions := by
    intro executionId hne
    apply h.complete
    rwa [mem_singleton]
  split
  · next hemitted =>
      refine ⟨h.data, h.commissions, h.nodup, h.events, ?_, h.distinct⟩
      intro executionId _ harrived
      by_cases hsame : executionId = reported
      · exact hsame ▸ hemitted
      · exact hothers executionId hsame harrived
  · next hemitted =>
      split
      · next event hdue =>
          have hevent := h.isEventOf hdue
          have hkind : event.isExecution = true := by
            obtain ⟨_, _, _, _, _, _, _, _, _, _, hevent⟩ := hevent
            exact (executionEvent_isExecution hevent).1
          constructor
          · exact h.data
          · exact h.commissions
          · apply h.nodup.append (List.nodup_singleton _)
            rw [List.disjoint_singleton]
            exact hemitted
          · have hevents : executionEvents (app.events.put event).all
                = executionEvents app.events.all ++ [event] := by
              simp [executionEvents, hkind]
            dsimp only
            rw [hevents]
            exact List.rel_append h.events (.cons hevent .nil)
          · intro executionId _ harrived
            rw [mem_append, mem_singleton]
            by_cases hsame : executionId = reported
            · exact .inr hsame
            · exact .inl (hothers executionId hsame harrived)
          · rw [map_append]
            apply h.distinct.append (List.nodup_singleton _)
            rw [List.disjoint_singleton]
            intro hmem
            obtain ⟨other, hother, heq⟩ := mem_map.mp hmem
            apply hcollides
            refine ⟨hemitted, by rw [hdue]; rfl, other, hother, ?_⟩
            exact canonicalExecutionId_eq_iff.mp heq.symm
      · next hdue =>
          refine ⟨h.data, h.commissions, h.nodup, h.events, ?_, h.distinct⟩
          intro executionId _ harrived
          by_cases hsame : executionId = reported
          · subst hsame
            have hsome := h.dueEvent_of_arrived harrived
            rw [hdue] at hsome
            contradiction
          · exact hothers executionId hsame harrived

/-! ## Reports of executions -/

variable {reqId conId : Int}

theorem Kept.keepExecution (h : app.Kept config callbacks []) {execution : Execution}
    (haccount : execution.acctNumber = config.brokerAccount)
    (hclient : execution.clientId = config.clientId) :
    (app.keepExecution reqId conId execution).Kept config
      (.execDetails reqId conId execution :: callbacks)
      [execution.execId] := by
  have hlast : ∀ executionId, lastExecution config
      (.execDetails reqId conId execution :: callbacks) executionId =
        if execution.execId = executionId then some (conId, execution)
        else lastExecution config callbacks executionId := by
    intro executionId
    simp only [lastExecution, List.findSome?_cons, Callback.execution?]
    by_cases hsame : execution.execId = executionId
    · simp [hsame, haccount, hclient]
    · simp [hsame]
  constructor
  · intro executionId
    rw [hlast]
    change (app.executionData.insert execution.execId (conId, execution))[_]? = _
    split
    · next hsame => rw [hsame, getElem?_insert_self]
    · next hne => rw [getElem?_insert_of_ne _ _ hne, h.data]
  · exact h.commissions
  · exact h.nodup
  · apply h.events.imp
    intro executionId event hevent
    exact hevent.mono (List.subset_cons_self _ _)
  · intro executionId hother harrived
    rw [mem_singleton] at hother
    obtain ⟨conId', execution', commission, event, hfound, hfee, hevent⟩ :=
      harrived
    rw [hlast, if_neg fun hsame => hother hsame.symm] at hfound
    exact h.complete executionId not_mem_nil
      ⟨conId', execution', commission, event, hfound, hfee, hevent⟩
  · exact h.distinct

theorem Kept.keepCommission (h : app.Kept config callbacks [])
    (execId commission : String) :
    ({ app with commissions := app.commissions.insert execId commission } :
      App).Kept config (.commissionReport execId commission :: callbacks)
        [execId] := by
  have hlast : ∀ executionId,
      lastCommission (.commissionReport execId commission :: callbacks)
        executionId =
        if execId = executionId then some commission
        else lastCommission callbacks executionId := by
    intro executionId
    simp only [lastCommission, List.findSome?_cons, Callback.commission?]
    by_cases hsame : execId = executionId
    · simp [hsame]
    · simp [hsame]
  constructor
  · exact h.data
  · intro executionId
    rw [hlast]
    change (app.commissions.insert execId commission)[_]? = _
    split
    · next hsame => rw [hsame, getElem?_insert_self]
    · next hne => rw [getElem?_insert_of_ne _ _ hne, h.commissions]
  · exact h.nodup
  · apply h.events.imp
    intro executionId event hevent
    exact hevent.mono (List.subset_cons_self _ _)
  · intro executionId hother harrived
    rw [mem_singleton] at hother
    obtain ⟨conId, execution, fee, event, hfound, hfee, hevent⟩ := harrived
    rw [hlast, if_neg fun hsame => hother hsame.symm] at hfee
    exact h.complete executionId not_mem_nil
      ⟨conId, execution, fee, event, hfound, hfee, hevent⟩
  · exact h.distinct

theorem dueEvent_mapOrder {execution : Execution}
    (hdata : app.executionData[execution.execId]? = some (conId, execution)) :
    (app.mapOrder execution.orderId (app.orderReference execution)).dueEvent
        config execution.execId
      = app.dueEvent config execution.execId := by
  have hreference : (app.mapOrder execution.orderId
      (app.orderReference execution)).orderReference execution
        = app.orderReference execution := by
    by_cases href : execution.orderRef = ""
    · simp [orderReference, href, mapOrder]
    · simp [orderReference, href]
  have hmapped : (app.mapOrder execution.orderId
      (app.orderReference execution)).executionData[execution.execId]?
        = some (conId, execution) := hdata
  have hcommissions : (app.mapOrder execution.orderId
      (app.orderReference execution)).commissions = app.commissions := rfl
  rw [dueEvent, dueEvent, hmapped, hdata, hcommissions]
  cases app.commissions[execution.execId]? with
  | none => rfl
  | some commission =>
    dsimp only
    rw [hreference]

theorem dueEvent_recordCumulative (executionId clientOrderId : String)
    (orderId : Int) (cumulative : PythonDecimal) :
    (app.recordCumulative clientOrderId orderId cumulative).dueEvent config
        executionId
      = app.dueEvent config executionId :=
  rfl

theorem safeDecimal_raises {value : String}
    (h : safeNonnegativeDecimal value = .raises) : safeDecimal value = .raises := by
  unfold safeNonnegativeDecimal at h
  cases hsafe : safeDecimal value with
  | value parsed =>
    rw [hsafe] at h
    simp only [Safe.filter] at h
    split at h <;> contradiction
  | refused =>
    rw [hsafe] at h
    contradiction
  | raises => rfl

theorem Kept.execDetails (h : app.Kept config callbacks [])
    {execution : Execution} (hcareful : Callback.IsCareful config app
      (.execDetails reqId conId execution)) :
    (app.execDetails config reqId conId execution).Kept config
      (.execDetails reqId conId execution :: callbacks) [] := by
  unfold App.execDetails
  split
  · next hforeign =>
      apply h.cons
      · intro executionId
        apply if_neg
        rintro ⟨_, haccount, hclient⟩
        cases hforeign with
        | inl hne => exact hne haccount
        | inr hne => exact hne hclient
      · exact fun _ => rfl
  · next hown =>
      rw [not_or, not_not, not_not] at hown
      obtain ⟨haccount, hclient⟩ := hown
      obtain ⟨hcollides, hoverflows⟩ := hcareful haccount hclient
      have hkept : (app.keepExecution reqId conId execution).Kept config
          (.execDetails reqId conId execution :: callbacks)
          [execution.execId] := h.keepExecution haccount hclient
      generalize hreport :
        app.keepExecution reqId conId execution = kept at *
      dsimp only
      split
      · next hcanonical =>
          have hfound : kept.executionData[execution.execId]?
              = some (conId, execution) := by
            rw [← hreport]
            exact getElem?_insert_self _ _ _
          have hdue : (kept.mapOrder execution.orderId
              (kept.orderReference execution)).dueEvent config execution.execId
                = kept.dueEvent config execution.execId :=
            dueEvent_mapOrder hfound
          have hmapped : kept.SameExecutions
              (kept.mapOrder execution.orderId (kept.orderReference execution)) :=
            ⟨rfl, rfl, rfl, rfl⟩
          split
          · next hraises =>
              have hmap := hkept.same hmapped
              refine ⟨hmap.data, hmap.commissions, hmap.nodup, hmap.events, ?_,
                hmap.distinct⟩
              intro executionId _ harrived
              by_cases hsame : executionId = execution.execId
              · subst hsame
                by_contra hmissing
                exact hoverflows ⟨hmissing, hkept.dueEvent_of_arrived harrived,
                  safeDecimal_raises hraises⟩
              · apply hmap.complete executionId _ harrived
                rwa [mem_singleton]
          · apply (hkept.same hmapped).emit
            unfold Collides
            rw [hdue]
            exact hcollides
          · next cumulative _ =>
            have hrecorded : (kept.mapOrder execution.orderId
                (kept.orderReference execution)).SameExecutions
                  ((kept.mapOrder execution.orderId
                    (kept.orderReference execution)).recordCumulative
                      (kept.orderReference execution) execution.orderId
                      cumulative) := setOrder_same _ _ _ _ _
            apply (hkept.same (hmapped.trans hrecorded)).emit
            unfold Collides
            rw [dueEvent_recordCumulative, hdue]
            exact hcollides
      · exact hkept.emit hcollides

theorem Kept.apply (h : app.Kept config callbacks []) {callback : Callback}
    (hcareful : callback.IsCareful config app) :
    (callback.apply config app).Kept config (callback :: callbacks) [] := by
  have hplain : ∀ {app' : App}, app.SameExecutions app' →
      (∀ executionId, callback.execution? config executionId = none) →
      (∀ executionId, callback.commission? executionId = none) →
        app'.Kept config (callback :: callbacks) [] := by
    intro app' hsame hexecution hcommission
    exact (h.cons hexecution hcommission).same hsame
  cases callback with
  | nextValidId orderId =>
    exact hplain ⟨rfl, rfl, rfl, rfl⟩ (fun _ => rfl) fun _ => rfl
  | managedAccounts accountsList =>
    exact hplain ⟨rfl, rfl, rfl, rfl⟩ (fun _ => rfl) fun _ => rfl
  | connectionClosed =>
    exact hplain ⟨rfl, rfl, rfl, rfl⟩ (fun _ => rfl) fun _ => rfl
  | openOrder orderId order status =>
    exact hplain (openOrder_same _ _ _ _) (fun _ => rfl) fun _ => rfl
  | orderStatus orderId status filled remaining clientId =>
    exact hplain (orderStatus_same _ _ _ _ _ _) (fun _ => rfl) fun _ => rfl
  | completedOrder order status =>
    exact hplain (completedOrder_same _ _ _) (fun _ => rfl) fun _ => rfl
  | completedOrdersEnd =>
    exact hplain ⟨rfl, rfl, rfl, rfl⟩ (fun _ => rfl) fun _ => rfl
  | openOrderEnd =>
    exact hplain ⟨rfl, rfl, rfl, rfl⟩ (fun _ => rfl) fun _ => rfl
  | position account conId held =>
    apply hplain _ (fun _ => rfl) fun _ => rfl
    change app.SameExecutions (app.position config account conId held)
    unfold App.position
    split
    · exact .refl app
    · exact ⟨rfl, rfl, rfl, rfl⟩
  | positionEnd =>
    exact hplain ⟨rfl, rfl, rfl, rfl⟩ (fun _ => rfl) fun _ => rfl
  | accountSummary reqId account tag value currency =>
    apply hplain _ (fun _ => rfl) fun _ => rfl
    change app.SameExecutions
      (app.accountSummary config reqId account tag value currency)
    unfold App.accountSummary
    split
    · exact ⟨rfl, rfl, rfl, rfl⟩
    · exact .refl app
  | accountSummaryEnd reqId =>
    apply hplain _ (fun _ => rfl) fun _ => rfl
    unfold Callback.apply
    dsimp only
    split
    · exact ⟨rfl, rfl, rfl, rfl⟩
    · exact .refl app
  | execDetails reqId conId execution => exact h.execDetails hcareful
  | execDetailsEnd reqId =>
    apply hplain _ (fun _ => rfl) fun _ => rfl
    unfold Callback.apply
    dsimp only
    split
    · exact ⟨rfl, rfl, rfl, rfl⟩
    · exact .refl app
  | commissionReport execId commission =>
    exact (h.keepCommission execId commission).emit hcareful
  | error subject reqId details =>
    exact hplain (error_same _ _ _) (fun _ => rfl) fun _ => rfl

end App

/-! ## Runs -/

namespace Session

variable {config : BridgeConfiguration}

def IsQuiet (session next : Session) : Prop :=
  next.callbacks = session.callbacks ∧ session.app.SameExecutions next.app

theorem isQuiet_refuseCancel (session : Session) (clientOrderId code : String) :
    session.IsQuiet (session.refuseCancel clientOrderId code) :=
  ⟨callbacks_moveTo session _, App.put_same _ rfl⟩

theorem isQuiet_submit (session : Session) (payload : Payload) :
    session.IsQuiet (session.submit config payload) := by
  unfold submit
  split
  · exact ⟨rfl, .refl _⟩
  · split
    · exact ⟨rfl, .refl _⟩
    · split
      · exact ⟨rfl, .refl _⟩
      · split
        · exact ⟨rfl, .refl _⟩
        · exact ⟨rfl, rfl, rfl, rfl, rfl⟩

theorem isQuiet_cancel (session : Session) (payload : Payload) :
    session.IsQuiet (session.cancel payload) := by
  unfold cancel
  split
  · split
    · exact isQuiet_refuseCancel _ _ _
    · split
      · exact isQuiet_refuseCancel _ _ _
      · exact ⟨rfl, rfl, rfl, rfl, rfl⟩
  · exact ⟨rfl, .refl _⟩

theorem isQuiet_poll (session : Session) (payload : Payload) :
    session.IsQuiet (session.poll payload) := by
  unfold poll
  split
  · exact ⟨rfl, .refl _⟩
  · refine ⟨rfl, rfl, rfl, rfl, ?_⟩
    exact congrArg executionEvents (EventQueue.all_drain _)

theorem isQuiet_snapshot (session : Session) (payload : Payload) :
    session.IsQuiet (session.snapshot config payload) := by
  unfold snapshot
  split
  · exact ⟨rfl, .refl _⟩
  · exact ⟨rfl, rfl, rfl, rfl, rfl⟩

theorem isQuiet_answerSnapshot (session : Session) :
    session.IsQuiet session.answerSnapshot := by
  unfold answerSnapshot
  split
  · exact ⟨rfl, rfl, rfl, rfl, rfl⟩
  · exact ⟨rfl, rfl, rfl, rfl, rfl⟩

theorem isQuiet_reconnect (session : Session) (payload : Payload) :
    session.IsQuiet (session.reconnect payload) := by
  unfold reconnect
  split
  · exact ⟨rfl, .refl _⟩
  · exact ⟨rfl, rfl, rfl, rfl, rfl⟩

variable {session : Session}

theorem Step.callback_or_quiet {next : Session} (h : Step config session next) :
    (∃ callback, next = session.receive config callback) ∨
      session.IsQuiet next := by
  cases h with
  | callback callback => exact .inl ⟨callback, rfl⟩
  | connection isConnected => exact .inr ⟨rfl, .refl _⟩
  | submit h payload => exact .inr (isQuiet_submit session payload)
  | place h => exact .inr ⟨rfl, .refl _⟩
  | settle h hstate => exact .inr ⟨rfl, .refl _⟩
  | answerSubmit h => exact .inr ⟨rfl, .refl _⟩
  | submitTimeout h => exact .inr ⟨rfl, .refl _⟩
  | cancel h payload => exact .inr (isQuiet_cancel session payload)
  | poll h payload => exact .inr (isQuiet_poll session payload)
  | snapshot h payload => exact .inr (isQuiet_snapshot session payload)
  | requestSummary h => exact .inr ⟨rfl, rfl, rfl, rfl, rfl⟩
  | requestExecutions h => exact .inr ⟨rfl, rfl, rfl, rfl, rfl⟩
  | refreshed h hdone => exact .inr ⟨rfl, rfl, rfl, rfl, rfl⟩
  | answerSnapshot h hdone => exact .inr (isQuiet_answerSnapshot session)
  | refreshTimeout h => exact .inr ⟨rfl, rfl, rfl, rfl, rfl⟩
  | snapshotTimeout h => exact .inr ⟨rfl, rfl, rfl, rfl, rfl⟩
  | reconnect h payload => exact .inr (isQuiet_reconnect session payload)
  | connect h hready => exact .inr ⟨rfl, rfl, rfl, rfl, rfl⟩
  | reconnected h hdone => exact .inr ⟨rfl, rfl, rfl, rfl, rfl⟩
  | connectTimeout h => exact .inr ⟨rfl, .refl _⟩
  | reconnectTimeout h => exact .inr ⟨rfl, .refl _⟩

def CarefulStep (config : BridgeConfiguration) (session next : Session) : Prop :=
  Step config session next ∧
    ∀ callback, next = session.receive config callback →
      callback.IsCareful config session.app

theorem CarefulStep.callback {callback : Callback}
    (h : callback.IsCareful config session.app) :
    session.CarefulStep config (session.receive config callback) :=
  ⟨.callback session callback, fun _ heq => receive_inj heq ▸ h⟩

end Session

/-- Each execution whose two reports have arrived has exactly one event, and
the events carry different identifiers. -/
structure ExecutionsPass (config : BridgeConfiguration)
    (callbacks : List Callback) (events : List BridgeEvent) : Prop where
  once : ∃ executions : List String, executions.Nodup ∧
    List.Forall₂ (IsEventOf config callbacks) executions
      (executionEvents events) ∧
    ∀ executionId, Arrived config callbacks executionId → executionId ∈ executions
  distinct : ((executionEvents events).map BridgeEvent.executionId).Nodup

theorem IsEventOf.executionId_eq {config : BridgeConfiguration}
    {executionId : String} (h : IsEventOf config callbacks executionId event) :
    event.executionId = canonicalExecutionId executionId := by
  obtain ⟨_, _, _, _, _, _, _, _, _, _, hevent⟩ := h
  exact (App.executionEvent_isExecution hevent).2

theorem map_executionId_eq {config : BridgeConfiguration}
    {executions : List String} {events : List BridgeEvent}
    (h : List.Forall₂ (IsEventOf config callbacks) executions events) :
    events.map BridgeEvent.executionId
      = executions.map canonicalExecutionId := by
  induction h with
  | nil => rfl
  | cons hevent _ ih =>
    rw [map_cons, map_cons, hevent.executionId_eq, ih]

theorem App.Kept.executionsPass {config : BridgeConfiguration} {app : App}
    (h : app.Kept config callbacks []) :
    ExecutionsPass config callbacks app.events.all where
  once :=
    ⟨app.emittedExecutions, h.nodup, h.events,
      fun executionId => h.complete executionId not_mem_nil⟩
  distinct := by
    rw [map_executionId_eq h.events]
    exact h.distinct

theorem App.kept_new (config : BridgeConfiguration) : App.new.Kept config [] [] where
  data _ := rfl
  commissions _ := rfl
  nodup := List.nodup_nil
  events := .nil
  complete := by
    rintro executionId _ ⟨conId, execution, _, _, hlast, _⟩
    contradiction
  distinct := List.nodup_nil

theorem Session.CarefulStep.kept {config : BridgeConfiguration}
    {session next : Session} (h : session.CarefulStep config next)
    (hkept : session.app.Kept config session.callbacks []) :
    next.app.Kept config next.callbacks [] := by
  obtain ⟨hstep, hcareful⟩ := h
  cases hstep.callback_or_quiet with
  | inl hcallback =>
    obtain ⟨callback, rfl⟩ := hcallback
    rw [callbacks_receive]
    exact hkept.apply (hcareful callback rfl)
  | inr hquiet =>
    obtain ⟨hcallbacks, hsame⟩ := hquiet
    rw [hcallbacks]
    exact hkept.same hsame

/-- In every run of careful steps, executions pass exactly once and stay
distinct. -/
theorem executions_pass_of_careful_run {config : BridgeConfiguration} {session : Session}
    (h : Reachable (· = Session.start) (Session.CarefulStep config) session) :
    ExecutionsPass config session.callbacks session.app.events.all := by
  apply App.Kept.executionsPass
  apply h.invariant
  · rintro _ rfl
    exact App.kept_new config
  · exact fun _ _ _ hkept hstep => hstep.kept hkept

namespace ExecutionRun

def config : BridgeConfiguration where
  accountId := "acct.paper"
  brokerAccount := "DU1"
  accountCurrency := "USD"
  clientId := 7
  twsTimezone := "UTC"
  instruments := [("aapl", ⟨265598, "AAPL", "STK", "SMART", "NASDAQ", "USD"⟩)]
  instantText _ _ _ := some "2026-01-02T14:31:00Z"

def execution (execId : String) : Execution where
  execId
  acctNumber := "DU1"
  clientId := 7
  orderId := 1
  orderRef := "order.1"
  shares := "1"
  cumQty := "1"
  price := "10.5"
  time := "20260102 14:31:00"

def details (execId : String) : Callback := .execDetails (-1) 265598 (execution execId)

/-- Two executions whose identifiers differ in the case of a letter. -/
def twoFills : Session :=
  (((Session.start.receive config (details "0001f4e8.65.01")).receive config
    (.commissionReport "0001f4e8.65.01" "1.0")).receive config
      (details "0001F4E8.65.01")).receive config
        (.commissionReport "0001F4E8.65.01" "1.0")

theorem twoFills_run : Session.Run config twoFills :=
  .step (.step (.step (.step (.init rfl) (.callback _ _)) (.callback _ _))
    (.callback _ _)) (.callback _ _)

def oneFill : Session :=
  (Session.start.receive config (details "0001f4e8.65.01")).receive config
    (.commissionReport "0001f4e8.65.01" "1.0")

/-- The two reports of one execution. -/
theorem oneFill_passes :
    ExecutionsPass config oneFill.callbacks oneFill.app.events.all := by
  apply executions_pass_of_careful_run
  have hdetails : (details "0001f4e8.65.01").IsCareful config
      Session.start.app := by
    intro _ _
    constructor
    · rintro ⟨_, _, other, hother, _⟩
      exact absurd hother not_mem_nil
    · rintro ⟨_, hdue, _⟩
      revert hdue
      decide
  have hfee : (Callback.commissionReport "0001f4e8.65.01" "1.0").IsCareful
      config (Session.start.receive config (details "0001f4e8.65.01")).app := by
    rintro ⟨_, _, other, hother, _⟩
    have hnone : (Session.start.receive config
        (details "0001f4e8.65.01")).app.emittedExecutions = [] := by
      decide
    change other ∈ (Session.start.receive config
      (details "0001f4e8.65.01")).app.emittedExecutions at hother
    rw [hnone] at hother
    exact absurd hother not_mem_nil
  exact .step (.step (.init rfl) (.callback hdetails)) (.callback hfee)

theorem twoFills_ids :
    (executionEvents twoFills.app.events.all).map BridgeEvent.executionId
      = ["ibkr-paper-execution-0001f4e8-65-01",
        "ibkr-paper-execution-0001f4e8-65-01"] := by
  decide

/-- The events of two executions carry one identifier. -/
theorem twoFills_confused : Session.Run config twoFills ∧
      ¬ExecutionsPass config twoFills.callbacks twoFills.app.events.all := by
  refine ⟨twoFills_run, ?_⟩
  intro hpass
  have hdistinct := hpass.distinct
  rw [twoFills_ids] at hdistinct
  revert hdistinct
  decide

end ExecutionRun

end Follon.Ibkr
