import Follon.ControlPlane.ReplayMoves

/-!
# Portfolios and their events

The events a bar returns and the portfolios it leaves determine each other:
every fill is booked in the portfolio of its instrument and answered at once by
the position it leaves, and nothing else touches a portfolio.
-/

namespace Follon.ControlPlane

open Foundation Domain

abbrev Holdings : Type :=
  OrderedMap (String × String) Portfolio

/-- The portfolio of an account; one that never traded is flat. -/
def Holdings.portfolioOf (holdings : Holdings)
    (accountId instrumentId : String) : Portfolio :=
  holdings[(accountId, instrumentId)]?.getD
    (Portfolio.new accountId instrumentId)

def EventPayload.isPosition : EventPayload → Bool
  | position _ => true
  | _ => false

def EventPayload.isFill : EventPayload → Bool
  | fill _ => true
  | _ => false

def EventPayload.isSilent (payload : EventPayload) : Bool :=
  !payload.isFill && !payload.isPosition

inductive Reports (accountId : String) :
    Holdings → List EventEnvelope → Holdings → Prop
  | nil {holdings : Holdings} : Reports accountId holdings [] holdings
  | silent {holdings holdings' : Holdings} {event : EventEnvelope}
      {events : List EventEnvelope} (hsilent : event.payload.isSilent = true)
      (rest : Reports accountId holdings events holdings') :
      Reports accountId holdings (event :: events) holdings'
  | filled {holdings holdings' : Holdings}
      {fillEvent positionEvent : EventEnvelope} {fill : Fill}
      {portfolio : Portfolio} {events : List EventEnvelope}
      (hfill : fillEvent.payload = .fill fill)
      (happly : (Holdings.portfolioOf holdings accountId
        fill.instrumentId).applyFill fill = .ok portfolio)
      (hposition : positionEvent.payload = .position portfolio.positionSnapshot)
      (rest : Reports accountId (holdings.insert (accountId,
        fill.instrumentId) portfolio) events holdings') :
      Reports accountId holdings (fillEvent :: positionEvent :: events)
        holdings'

theorem Reports.append {accountId : String}
    {holdings holdings' holdings'' : Holdings} {events events' : List EventEnvelope}
    (h : Reports accountId holdings events holdings')
    (h' : Reports accountId holdings' events' holdings'') :
    Reports accountId holdings (events ++ events') holdings'' := by
  induction h with
  | nil => exact h'
  | silent hsilent _ ih => exact .silent hsilent (ih h')
  | filled hfill happly hposition _ ih =>
    exact .filled hfill happly hposition (ih h')

/-! ## Reported positions -/

def EventPayload.positionIn (accountId instrumentId : String) :
    EventPayload → Option PositionSnapshot
  | position snapshot =>
    if snapshot.accountId = accountId ∧ snapshot.instrumentId = instrumentId
    then some snapshot else none
  | _ => none

def lastPosition (accountId : String) (events : List EventEnvelope)
    (instrumentId : String) : Option PositionSnapshot :=
  (events.filterMap fun event =>
    event.payload.positionIn accountId instrumentId).getLast?

theorem lastPosition_snoc (accountId : String) (events : List EventEnvelope)
    (event : EventEnvelope) (instrumentId : String) :
    lastPosition accountId (events ++ [event]) instrumentId
      = (event.payload.positionIn accountId instrumentId).or
          (lastPosition accountId events instrumentId) := by
  unfold lastPosition
  rw [filterMap_append]
  cases hreported : event.payload.positionIn accountId instrumentId with
  | none => simp [hreported]
  | some snapshot => simp [hreported]

theorem EventPayload.positionIn_eq_none {payload : EventPayload}
    (h : payload.isPosition = false) (accountId instrumentId : String) :
    payload.positionIn accountId instrumentId = none := by
  cases payload with
  | position _ => contradiction
  | _ => rfl

variable {portfolio portfolio' : Portfolio} {fill : Fill}

theorem Portfolio.applyFill_names (h : portfolio.applyFill fill = .ok portfolio') :
    portfolio'.accountId = portfolio.accountId ∧
      portfolio'.instrumentId = portfolio.instrumentId := by
  simp only [applyFill, bind_eq_ok] at h
  obtain ⟨_, -, h⟩ := h
  cases hside : fill.side with
  | buy =>
    simp only [hside, bind_eq_ok, pure_eq_ok] at h
    obtain ⟨_, -, _, -, _, -, _, -, _, -, _, -, rfl⟩ := h
    exact ⟨rfl, rfl⟩
  | sell =>
    simp only [hside, bind_eq_ok, pure_eq_ok] at h
    obtain ⟨_, -, _, -, _, -, _, -, _, -, _, -, rfl⟩ := h
    exact ⟨rfl, rfl⟩

theorem Portfolio.applySplit_names {ratio : Decimal}
    (h : portfolio.applySplit ratio = .ok portfolio') :
    portfolio'.accountId = portfolio.accountId ∧
      portfolio'.instrumentId = portfolio.instrumentId := by
  simp only [applySplit, bind_eq_ok, pure, Except.pure, Except.ok.injEq] at h
  obtain ⟨_, -, quantity, -, averageCost, -, _, -, rfl⟩ := h
  exact ⟨rfl, rfl⟩

namespace Holdings

def Named (holdings : Holdings) : Prop :=
  ∀ (account instrumentId : String) (portfolio : Portfolio),
    holdings[(account, instrumentId)]? = some portfolio →
      portfolio.accountId = account ∧ portfolio.instrumentId = instrumentId

def Reported (accountId : String) (holdings : Holdings)
    (events : List EventEnvelope) : Prop :=
  ∀ instrumentId : String, lastPosition accountId events instrumentId
    = holdings[(accountId, instrumentId)]?.map Portfolio.positionSnapshot

def writeAll (instrumentId : String) (holdings : Holdings)
    (written : List (String × Portfolio)) : Holdings :=
  written.foldl (fun holdings entry =>
    holdings.insert (entry.1, instrumentId) entry.2) holdings

variable {accountId instrumentId : String} {holdings : Holdings}
  {events : List EventEnvelope} {portfolio : Portfolio}

theorem getElem?_insert (account other : String) :
    (holdings.insert (accountId, instrumentId) portfolio)[(account, other)]?
      = if accountId = account ∧ instrumentId = other then some portfolio
        else holdings[(account, other)]? := by
  simp only [Std.ExtTreeMap.getElem?_insert,
    Std.LawfulEqCmp.compare_eq_iff_eq, Prod.mk.injEq]

theorem portfolioOf_insert (other : String) :
    portfolioOf (holdings.insert (accountId, instrumentId) portfolio) accountId
        other
      = if instrumentId = other then portfolio
        else portfolioOf holdings accountId other := by
  rw [portfolioOf, getElem?_insert]
  by_cases hother : instrumentId = other
  · simp [hother]
  · simp [hother, portfolioOf]

theorem portfolioOf_named (h : Named holdings) (accountId instrumentId : String) :
    (portfolioOf holdings accountId instrumentId).accountId = accountId ∧
      (portfolioOf holdings accountId instrumentId).instrumentId
        = instrumentId := by
  unfold portfolioOf
  cases hfound : holdings[(accountId, instrumentId)]? with
  | none => exact ⟨rfl, rfl⟩
  | some found => exact h accountId instrumentId found hfound

theorem Named.insert (h : Named holdings) (haccount : portfolio.accountId = accountId)
    (hinstrument : portfolio.instrumentId = instrumentId) :
    Named (holdings.insert (accountId, instrumentId) portfolio) := by
  intro account other found hfound
  rw [getElem?_insert] at hfound
  by_cases hkey : accountId = account ∧ instrumentId = other
  · rw [if_pos hkey] at hfound
    obtain rfl := Option.some.inj hfound
    exact ⟨haccount.trans hkey.1, hinstrument.trans hkey.2⟩
  · rw [if_neg hkey] at hfound
    exact h account other found hfound

variable {event : EventEnvelope}

theorem Reported.silent (h : Reported accountId holdings events)
    (hsilent : event.payload.isPosition = false) :
    Reported accountId holdings (events ++ [event]) := by
  intro other
  rw [lastPosition_snoc, EventPayload.positionIn_eq_none hsilent, h other]
  rfl

theorem Reported.insert {account : String} (h : Reported account holdings events)
    (haccount : portfolio.accountId = accountId)
    (hinstrument : portfolio.instrumentId = instrumentId)
    (hposition : event.payload = .position portfolio.positionSnapshot) :
    Reported account (holdings.insert (accountId, instrumentId) portfolio)
      (events ++ [event]) := by
  intro other
  rw [lastPosition_snoc, hposition, getElem?_insert, h other]
  have hnames : EventPayload.positionIn account other
      (.position portfolio.positionSnapshot)
        = if accountId = account ∧ instrumentId = other
          then some portfolio.positionSnapshot else none := by
    rw [← haccount, ← hinstrument]
    rfl
  rw [hnames]
  split
  · rfl
  · rfl

end Holdings

theorem DeterministicFillModel.instrumentId_of_fillQuantity
    {model : DeterministicFillModel} {order : OmsOrder} {bar : Bar}
    {replayTime : String} {quantity : Decimal} {executionId : String}
    {tickSize : Option Decimal}
    (h : model.fillQuantity order bar replayTime quantity executionId tickSize
      = .ok (some fill)) : fill.instrumentId = order.intent.instrumentId := by
  simp only [fillQuantity, bind_eq_ok] at h
  obtain ⟨_, -, base?, -, h⟩ := h
  cases base? with
  | none => cases h
  | some base =>
    simp only [bind_eq_ok, pure_eq_ok] at h
    obtain ⟨adverse, -, price, -, _, -, h⟩ := h
    split at h
    · contradiction
    · obtain rfl := Option.some.inj h
      rfl

namespace Replay

variable {K S α β : Type} {accountId : String} {s : Replay K S}
  {events : List EventEnvelope}

def Reporting (accountId : String) (s : Replay K S)
    (events : List EventEnvelope) (x : ReplayM K S α)
    (eventsOf : α → List EventEnvelope) : Prop :=
  ∀ a t, x.run s = (.ok a, t) → ∃ new, eventsOf a = events ++ new ∧
    Reports accountId s.engine.portfolios new t.engine.portfolios

namespace Reporting

variable {x : ReplayM K S α} {f : α → ReplayM K S β}
  {eventsOf : α → List EventEnvelope} {eventsOf' : β → List EventEnvelope}

theorem pure {a : α} (h : eventsOf a = events) :
    Reporting accountId s events (Pure.pure a) eventsOf := by
  intro a' t hrun
  obtain ⟨hvalue, rfl⟩ := Prod.mk.inj hrun
  obtain rfl := Except.ok.inj hvalue
  exact ⟨[], by rw [h, append_nil], .nil⟩

theorem bind (hx : Reporting accountId s events x eventsOf)
    (hf : ∀ a t, x.run s = (.ok a, t) →
      Reporting accountId t (eventsOf a) (f a) eventsOf') :
    Reporting accountId s events (x >>= f) eventsOf' := by
  intro b u hrun
  obtain ⟨a, t, hfirst, hsecond⟩ := run_bind_eq_ok.mp hrun
  obtain ⟨new, hnew, hreports⟩ := hx a t hfirst
  obtain ⟨new', hnew', hreports'⟩ := hf a t hfirst b u hsecond
  refine ⟨new ++ new', ?_, hreports.append hreports'⟩
  rw [hnew', hnew, append_assoc]

theorem read {f : Replay K S → ReplayM K S β}
    (h : Reporting accountId s events (f s) eventsOf') :
    Reporting accountId s events (Fallible.read >>= f) eventsOf' :=
  h

theorem lift {result : Result α}
    (h : ∀ a, result = .ok a → Reporting accountId s events (f a) eventsOf') :
    Reporting accountId s events (Fallible.lift result >>= f) eventsOf' := by
  intro b t hrun
  obtain ⟨a, hresult, hrest⟩ := run_lift_bind_eq_ok.mp hrun
  exact h a hresult b t hrest

theorem update {g : Replay K S → Replay K S} {f : Unit → ReplayM K S β}
    (hsame : (g s).engine.portfolios = s.engine.portfolios)
    (h : Reporting accountId (g s) events (f ()) eventsOf') :
    Reporting accountId s events (Fallible.update g >>= f) eventsOf' := by
  intro b t hrun
  obtain ⟨new, hnew, hreports⟩ := h b t hrun
  rw [hsame] at hreports
  exact ⟨new, hnew, hreports⟩

theorem quiet (h : ∀ a t, x.run s = (.ok a, t) →
      t.engine.portfolios = s.engine.portfolios) (hevents : ∀ a, eventsOf a = events) :
    Reporting accountId s events x eventsOf := by
  intro a t hrun
  refine ⟨[], by rw [hevents, append_nil], ?_⟩
  rw [h a t hrun]
  exact .nil

end Reporting

/-! ## Events -/

section

variable [EventSink K]

variable {payload : EventPayload}
  {eventTime actor source account causationId decisionEventId : String}
  {t : Replay K S} {intent : OrderIntent} {working : SimulatedWorkingOrder}
  {fill : Fill} {bar : Bar} {reference : Option Instrument}
  {latest : Option Projection} {flow : IntentFlow}

variable {correlationId orderId resting : String}
  {strategyId instrumentId : Option String} {event : EventEnvelope} {u : Unit}
  {remaining : Decimal} {projection : Projection} {next : Nat}
  {order : OmsOrder} {decision : RiskDecision}

theorem emit_portfolios {causationId : Option String} {account : Option String}
    (h : (emit payload eventTime correlationId causationId actor source account
      strategyId instrumentId).run s = (.ok event, t)) :
    event.payload = payload ∧ t.engine.portfolios = s.engine.portfolios := by
  obtain ⟨sink, rfl, -, rfl⟩ := emit_returns h
  exact ⟨rfl, rfl⟩

theorem emit_reporting {causationId : Option String} {account : Option String}
    (hsilent : payload.isSilent = true) : Reporting accountId s events
      (emit payload eventTime correlationId causationId actor source account
        strategyId instrumentId) fun event => events ++ [event] := by
  intro event t hrun
  obtain ⟨hpayload, hsame⟩ := emit_portfolios hrun
  refine ⟨[event], rfl, ?_⟩
  rw [hsame]
  exact .silent (by rw [hpayload, hsilent]) .nil

theorem emitFor_portfolios
    (h : (emitFor intent account payload causationId actor source).run s
      = (.ok event, t)) :
    event.payload = payload ∧ t.engine.portfolios = s.engine.portfolios :=
  emit_portfolios h

theorem emitFor_reporting (hsilent : payload.isSilent = true) :
    Reporting accountId s events
      (emitFor intent account payload causationId actor source)
      fun event => events ++ [event] :=
  .read (emit_reporting hsilent)

theorem auditEvent_reporting {audited : List EventEnvelope} {summary : String} :
    Reporting accountId s events (auditEvent intent causationId audited summary)
      fun event => events ++ [event] :=
  emitFor_reporting rfl

theorem emitOrderChange_reporting {change : OrderStateChange} :
    Reporting accountId s events (emitOrderChange intent causationId change)
      fun event => events ++ [event] :=
  emitFor_reporting rfl

omit [EventSink K] in
theorem consult_reporting {call : S → Result α × S} :
    Reporting accountId s events (consult call : ReplayM K S α)
      fun _ => events := by
  refine .quiet ?_ fun _ => rfl
  intro a t hrun
  obtain ⟨-, rfl⟩ := Prod.mk.inj hrun
  rfl

omit [EventSink K] in
theorem keepWorking_reporting :
    Reporting accountId s events (keepWorking orderId working : ReplayM K S Unit)
      fun _ => events := by
  refine .quiet ?_ fun _ => rfl
  intro a t hrun
  obtain ⟨-, rfl⟩ := Prod.mk.inj hrun
  dsimp only
  split
  · rfl
  · rfl

omit [EventSink K] in
theorem advanceTo_portfolios {time : String} (h : (advanceTo time).run s = (.ok u, t)) :
    t.engine.portfolios = s.engine.portfolios := by
  simp only [advanceTo, run_read_bind, run_lift_bind_eq_ok,
    run_update, Prod.mk.injEq] at h
  obtain ⟨_, -, _, -, -, rfl⟩ := h
  rfl

omit [EventSink K] in
theorem countBar_portfolios (h : countBar.run s = (.ok u, t)) :
    t.engine.portfolios = s.engine.portfolios := by
  simp only [countBar, run_read_bind, run_lift_bind_eq_ok,
    run_update, Prod.mk.injEq] at h
  obtain ⟨_, -, -, rfl⟩ := h
  rfl

/-! ## Fills -/

theorem restUnfilled_reporting :
    Reporting accountId s events (restUnfilled events working)
      Attempt.events := by
  refine .bind auditEvent_reporting ?_
  intro audit t _
  exact .pure rfl

theorem recordMove_reporting {state : OrderState} :
    Reporting accountId s events (recordMove events working state)
      Prod.snd := by
  refine .lift ?_
  rintro ⟨order, change⟩ _
  refine .bind emitOrderChange_reporting ?_
  intro event t _
  exact .pure rfl

theorem moveForFill_reporting :
    Reporting accountId s events (moveForFill events working remaining)
      Prod.snd := by
  unfold moveForFill
  cases targetState working remaining with
  | some state => exact recordMove_reporting
  | none => exact .pure rfl

theorem moveForFill_intent {working' : SimulatedWorkingOrder}
    {events' : List EventEnvelope} (h : (moveForFill events working remaining).run s
      = (.ok (working', events'), t)) : working'.order.intent = working.order.intent := by
  unfold moveForFill at h
  cases htarget : targetState working remaining with
  | some state =>
    simp only [htarget, recordMove, run_lift_bind_eq_ok,
      Prod.exists] at h
    obtain ⟨order, change, htransition, h⟩ := h
    obtain ⟨event, _, -, h⟩ := run_bind_eq_ok.mp h
    obtain ⟨hvalue, -⟩ := Prod.mk.inj h
    obtain ⟨rfl, -⟩ := Prod.mk.inj (Except.ok.inj hvalue)
    obtain ⟨-, rfl, -⟩ := OmsOrder.transition_eq_ok.mp htransition
    rfl
  | none =>
    rw [htarget] at h
    obtain ⟨hvalue, -⟩ := Prod.mk.inj h
    obtain ⟨rfl, -⟩ := Prod.mk.inj (Except.ok.inj hvalue)
    rfl

omit [EventSink K] in
theorem bookFill_portfolios {instrumentId : String} {mark : Decimal}
    (h : (bookFill account instrumentId fill mark).run s = (.ok projection, t)) :
    ∃ portfolio : Portfolio, (Holdings.portfolioOf s.engine.portfolios account
        instrumentId).applyFill fill = .ok portfolio ∧
      projection.1 = portfolio.positionSnapshot ∧
      t.engine.portfolios
        = s.engine.portfolios.insert (account, instrumentId) portfolio := by
  simp only [bookFill, run_read_bind, run_update_bind,
    run_lift_bind_eq_ok, run_pure, Prod.mk.injEq] at h
  obtain ⟨portfolio, happly, pnl, -, hvalue, rfl⟩ := h
  obtain rfl := Except.ok.inj hvalue
  refine ⟨portfolio, happly, rfl, ?_⟩
  simp only [setPortfolio, edit]
  rw [OrderedMap.insert_insert]

theorem publishFill_reports {fillEventId : String} {attempt : Attempt}
    (h : (publishFill events account working fillEventId projection).run s
      = (.ok attempt, t)) : ∃ position rest, attempt.events = events ++ position :: rest ∧
      position.payload = .position projection.1 ∧
      (∀ event ∈ rest, event.payload.isSilent = true) ∧
      t.engine.portfolios = s.engine.portfolios := by
  obtain ⟨position, s₁, hposition, h⟩ := run_bind_eq_ok.mp h
  obtain ⟨pnl, s₂, hpnl, h⟩ := run_bind_eq_ok.mp h
  obtain ⟨audit, s₃, haudit, h⟩ := run_bind_eq_ok.mp h
  obtain ⟨hvalue, rfl⟩ := Prod.mk.inj h
  obtain rfl := Except.ok.inj hvalue
  obtain ⟨hfirst, hsame₁⟩ := emitFor_portfolios hposition
  obtain ⟨hsecond, hsame₂⟩ := emitFor_portfolios hpnl
  obtain ⟨hthird, hsame₃⟩ := emitFor_portfolios haudit
  refine ⟨position, [pnl, audit], by simp, hfirst, ?_, ?_⟩
  · intro event hevent
    simp only [mem_cons, not_mem_nil, or_false] at hevent
    rcases hevent with rfl | rfl
    · rw [hsecond]
      rfl
    · rw [hthird]
      rfl
  · rw [hsame₃, hsame₂, hsame₁]

theorem reports_of_silent {holdings : Holdings} {quiet : List EventEnvelope}
    (h : ∀ event ∈ quiet, event.payload.isSilent = true) :
    Reports accountId holdings quiet holdings := by
  induction quiet with
  | nil => exact .nil
  | cons event quiet ih =>
    exact .silent (h event mem_cons_self)
      (ih fun other hother => h other (mem_cons_of_mem _ hother))

variable [Strategy S]

theorem settleFill_reporting {left : Decimal}
    (hinstrument : fill.instrumentId = working.order.intent.instrumentId) :
    Reporting accountId s events
      (settleFill events accountId bar working fill left next)
      Attempt.events := by
  intro attempt t h
  obtain ⟨fillEvent, s₁, hfill, h⟩ := run_bind_eq_ok.mp h
  obtain ⟨projection, s₂, hbook, h⟩ := run_bind_eq_ok.mp h
  obtain ⟨_, s₃, hconsult, h⟩ := run_bind_eq_ok.mp h
  obtain ⟨hpayload, hsame₁⟩ := emitFor_portfolios hfill
  obtain ⟨portfolio, happly, hprojection, hinsert⟩ := bookFill_portfolios hbook
  obtain ⟨-, rfl⟩ := Prod.mk.inj hconsult
  obtain ⟨position, rest, hevents, hposition, hrest, hsame⟩ :=
    publishFill_reports h
  refine ⟨fillEvent :: position :: rest, ?_, ?_⟩
  · rw [hevents, append_assoc]
    rfl
  · rw [hsame₁] at happly hinsert
    rw [← hinstrument] at happly hinsert
    refine .filled hpayload happly (by rw [hposition, hprojection]) ?_
    rw [hsame, ← hinsert]
    exact reports_of_silent hrest

theorem executeFill_reporting
    (hinstrument : fill.instrumentId = working.order.intent.instrumentId) :
    Reporting accountId s events
      (executeFill events accountId bar working fill next)
      Attempt.events := by
  refine .lift ?_
  intro left _
  refine .bind moveForFill_reporting ?_
  rintro ⟨working', events'⟩ t hmove
  refine settleFill_reporting ?_
  rw [moveForFill_intent hmove]
  exact hinstrument

theorem attemptSimulatedFill_reporting : Reporting accountId s events
      (attemptSimulatedFill events accountId bar working reference)
      Attempt.events := by
  refine .read (.lift ?_)
  intro _ _
  refine .lift ?_
  intro next _
  refine .lift ?_
  intro fill? hfill?
  cases fill? with
  | none => exact restUnfilled_reporting
  | some fill =>
    exact executeFill_reporting
      (DeterministicFillModel.instrumentId_of_fillQuantity hfill?)

/-! ## Orders -/

theorem matchOrder_reporting : Reporting accountId s events
      (matchOrder accountId bar reference events orderId working)
      Attempt.events := by
  refine .update rfl ?_
  refine .bind attemptSimulatedFill_reporting ?_
  intro attempt t _
  refine .bind keepWorking_reporting ?_
  intro _ u _
  exact .pure rfl

theorem matchOrders_reporting {orderIds : List String} : Reporting accountId s events
      (matchOrders accountId bar reference orderIds events latest)
      Prod.fst := by
  induction orderIds generalizing s events latest with
  | nil => exact .pure rfl
  | cons orderId rest ih =>
    refine .read ?_
    cases s.engine.workingOrders[orderId]? with
    | none => exact fun _ _ hrun => nomatch hrun
    | some working =>
      refine .bind matchOrder_reporting ?_
      intro attempt t _
      exact ih

omit [Strategy S] in
theorem takeThrough_reporting {path : List (OrderState × String)}
    : Reporting accountId s events
      (takeThrough intent causationId path order events) Prod.snd := by
  induction path generalizing s events order with
  | nil => exact .pure rfl
  | cons state rest ih =>
    refine .lift ?_
    rintro ⟨order', change⟩ _
    refine .bind emitOrderChange_reporting ?_
    intro event t _
    exact ih

omit [Strategy S] in
theorem announceOrder_reporting {reason : String} :
    Reporting accountId s events (announceOrder intent decisionEventId reason)
      fun event => events ++ [event] := by
  refine .bind emitOrderChange_reporting ?_
  intro event t _
  exact .update rfl (.pure rfl)

omit [Strategy S] in
theorem createOrder_reporting {created approved : String} : Reporting accountId s events
      (createOrder events intent decision decisionEventId created approved)
      Prod.snd := by
  refine .lift ?_
  intro order _
  refine .bind announceOrder_reporting ?_
  intro event t _
  exact takeThrough_reporting

omit [Strategy S] in
theorem restNew_reporting : Reporting accountId s events (restNew events working resting)
      Attempt.events := by
  refine .bind auditEvent_reporting ?_
  intro audit t _
  exact .pure rfl

theorem startWorking_reporting {immediate : Bool} : Reporting accountId s events
      (startWorking immediate events accountId bar working reference resting)
      Attempt.events := by
  unfold startWorking
  cases immediate with
  | true => exact attemptSimulatedFill_reporting
  | false => exact restNew_reporting

omit [Strategy S] in
theorem decideIntent_reporting {decide : String → Result RiskDecision} :
    Reporting accountId s events
      (decideIntent accountId intent causationId decide)
      fun decided => events ++ [decided.2.1, decided.2.2] := by
  refine .bind (emitFor_reporting rfl) ?_
  intro intentEvent t _
  refine .read (.lift ?_)
  intro decision _
  refine .bind (emitFor_reporting rfl) ?_
  intro decisionEvent u _
  refine .pure ?_
  rw [append_assoc]
  rfl

omit [Strategy S] in
theorem rejectIntent_reporting : Reporting accountId s events
      (rejectIntent events intent decisionEventId latest flow)
      ReplayResult.events := by
  refine .bind auditEvent_reporting ?_
  intro audit t _
  exact .pure rfl

theorem workOrder_reporting : Reporting accountId s events
      (workOrder events accountId bar reference order intent latest flow)
      ReplayResult.events := by
  refine .read (.lift ?_)
  intro eligibleOnBar _
  refine .bind startWorking_reporting ?_
  intro attempt t _
  refine .bind keepWorking_reporting ?_
  intro _ u _
  exact .pure rfl

theorem concludeIntent_reporting : Reporting accountId s events
      (concludeIntent events accountId bar reference intent decision
        decisionEventId latest flow) ReplayResult.events := by
  unfold concludeIntent
  by_cases hrejected : decision.approved = false
  · rw [if_pos hrejected]
    exact rejectIntent_reporting
  · rw [if_neg hrejected]
    refine .bind createOrder_reporting ?_
    rintro ⟨order, events'⟩ t _
    exact workOrder_reporting

theorem processIntent_reporting {decide : RiskPolicy → String → Result RiskDecision} :
    Reporting accountId s events
      (processIntent events accountId bar reference causationId intent decide
        latest flow) ReplayResult.events := by
  refine .read (.lift ?_)
  intro _ _
  refine .bind decideIntent_reporting ?_
  rintro ⟨decision, intentEvent, decisionEvent⟩ t _
  exact concludeIntent_reporting

/-! ## Bars -/

theorem answerBar_reporting {marketEventId : String} : Reporting accountId s events
      (answerBar events accountId bar reference marketEventId latest)
      ReplayResult.events := by
  refine .read ?_
  refine .bind consult_reporting ?_
  intro intent? t _
  cases intent? with
  | none => exact .pure rfl
  | some intent => exact processIntent_reporting

theorem matchBar_reporting :
    Reporting accountId s [] (matchBar accountId eventTime bar reference)
      fun matched => matched.2.1 := by
  refine .lift ?_
  intro _ _
  refine .bind (.quiet (fun _ _ => advanceTo_portfolios) fun _ => rfl) ?_
  intro _ t _
  refine .bind (.quiet (fun _ _ => countBar_portfolios) fun _ => rfl) ?_
  intro _ u _
  refine .bind (.read (emit_reporting rfl)) ?_
  intro marketEvent v _
  refine .read ?_
  refine .bind matchOrders_reporting ?_
  rintro ⟨events, latest⟩ w _
  exact .pure rfl

theorem replayBar_reporting :
    Reporting accountId s [] (replayBar accountId eventTime bar reference)
      ReplayResult.events := by
  refine .bind matchBar_reporting ?_
  rintro ⟨marketEvent, events, latest⟩ t _
  exact answerBar_reporting

theorem processBar_reports {market : MarketPreconditions} {result : ReplayResult}
    (h : (processBarWithMarketPreconditions accountId eventTime bar market).run
      s = (.ok result, t)) : Reports accountId s.engine.portfolios result.events
      t.engine.portfolios := by
  simp only [processBarWithMarketPreconditions,
    run_lift_bind_eq_ok] at h
  obtain ⟨reference, -, h⟩ := h
  obtain ⟨new, hnew, hreports⟩ := replayBar_reporting result t h
  rw [nil_append] at hnew
  rw [hnew]
  exact hreports

end

/-! ## Splits -/

section

variable [EventSink K] {ratio : Decimal} {instrumentId : String}

structure ScaledBy (ratio : Decimal) (instrumentId : String)
    (holdings : Holdings) (scaled : List (String × Portfolio)) : Prop where
  sound : ∀ account after, (account, after) ∈ scaled → ∃ portfolio : Portfolio,
      holdings[(account, instrumentId)]? = some portfolio ∧
      portfolio.quantity ≠ Decimal.zero ∧
      portfolio.applySplit ratio = .ok after
  complete : ∀ (account : String) (portfolio : Portfolio),
    holdings[(account, instrumentId)]? = some portfolio →
      portfolio.quantity ≠ Decimal.zero →
      ∃ after, (account, after) ∈ scaled

variable {scaled : List (String × Portfolio)}

omit [EventSink K] in
theorem scaleHoldings_mem {holdings : List ((String × String) × Portfolio)}
    (h : scaleHoldings ratio instrumentId holdings = .ok scaled) :
    (∀ account after, (account, after) ∈ scaled → ∃ portfolio : Portfolio,
        ((account, instrumentId), portfolio) ∈ holdings ∧
        portfolio.quantity ≠ Decimal.zero ∧
        portfolio.applySplit ratio = .ok after) ∧
    ∀ (account : String) (portfolio : Portfolio),
      ((account, instrumentId), portfolio) ∈ holdings →
      portfolio.quantity ≠ Decimal.zero →
      ∃ after, (account, after) ∈ scaled := by
  induction holdings generalizing scaled with
  | nil =>
    obtain rfl := Except.ok.inj h
    simp
  | cons holding rest ih =>
    obtain ⟨⟨account, held⟩, portfolio⟩ := holding
    simp only [scaleHoldings] at h
    by_cases hheld : held = instrumentId ∧ portfolio.quantity ≠ Decimal.zero
    · simp only [if_pos hheld, bind_eq_ok, pure_eq_ok] at h
      obtain ⟨after, hafter, scaled', hscaled', rfl⟩ := h
      obtain ⟨hsound, hcomplete⟩ := ih hscaled'
      constructor
      · intro other after' hmem
        rcases mem_cons.mp hmem with heq | hmem
        · obtain ⟨rfl, rfl⟩ := Prod.mk.inj heq
          exact ⟨portfolio, by rw [hheld.1]; exact mem_cons_self,
            hheld.2, hafter⟩
        · obtain ⟨found, hfound, hrest⟩ := hsound other after' hmem
          exact ⟨found, mem_cons_of_mem _ hfound, hrest⟩
      · intro other found hmem hquantity
        rcases mem_cons.mp hmem with heq | hmem
        · obtain ⟨hkey, -⟩ := Prod.mk.inj heq
          obtain ⟨rfl, -⟩ := Prod.mk.inj hkey
          exact ⟨after, mem_cons_self⟩
        · obtain ⟨after', hafter'⟩ := hcomplete other found hmem hquantity
          exact ⟨after', mem_cons_of_mem _ hafter'⟩
    · rw [if_neg hheld] at h
      obtain ⟨hsound, hcomplete⟩ := ih h
      constructor
      · intro other after hmem
        obtain ⟨found, hfound, hrest⟩ := hsound other after hmem
        exact ⟨found, mem_cons_of_mem _ hfound, hrest⟩
      · intro other found hmem hquantity
        rcases mem_cons.mp hmem with heq | hmem
        · obtain ⟨hkey, rfl⟩ := Prod.mk.inj heq
          obtain ⟨-, rfl⟩ := Prod.mk.inj hkey
          exact absurd ⟨rfl, hquantity⟩ hheld
        · exact hcomplete other found hmem hquantity

variable {actionId account : String} {t : Replay K S}

theorem admitSplit_scaledBy {engine : ReplayEngine}
    (h : admitSplit engine actionId instrumentId ratio = .ok scaled) :
    ScaledBy ratio instrumentId engine.portfolios scaled := by
  simp only [admitSplit, bind_eq_ok] at h
  obtain ⟨_, -, _, -, _, -, _, -, _, -, h⟩ := h
  obtain ⟨hsound, hcomplete⟩ := scaleHoldings_mem h
  constructor
  · intro account after hmem
    obtain ⟨portfolio, hfound, hrest⟩ := hsound account after hmem
    exact ⟨portfolio, mem_toList_iff_getElem?_eq_some.mp hfound, hrest⟩
  · intro account portfolio hfound hquantity
    exact hcomplete account portfolio
      (mem_toList_iff_getElem?_eq_some.mpr hfound) hquantity

structure Rescaled (account instrumentId : String) (ratio : Decimal)
    (holdings : Holdings) (events : List EventEnvelope) (holdings' : Holdings) :
    Prop where
  named : holdings'.Named
  reported : ∀ before, holdings.Reported account before →
    holdings'.Reported account (before ++ events)
  fills : ∀ event ∈ events, event.payload.isFill = false
  split : (holdings.portfolioOf account instrumentId).quantity = Decimal.zero ∧
      holdings'.portfolioOf account instrumentId
        = holdings.portfolioOf account instrumentId ∨
    (holdings.portfolioOf account instrumentId).quantity ≠ Decimal.zero ∧
      (holdings.portfolioOf account instrumentId).applySplit ratio
        = .ok (holdings'.portfolioOf account instrumentId)
  frame : ∀ other, instrumentId ≠ other →
    holdings'.portfolioOf account other = holdings.portfolioOf account other

omit [EventSink K] in
theorem writeAll_getElem? {after : Portfolio} (holdings : Holdings)
    (hsame : ∀ entry ∈ scaled, entry.1 = account → entry.2 = after)
    (h : holdings[(account, instrumentId)]? = some after ∨
      account ∈ scaled.map Prod.fst) :
    (holdings.writeAll instrumentId scaled)[(account, instrumentId)]?
      = some after := by
  induction scaled generalizing holdings with
  | nil =>
    rcases h with h | h
    · exact h
    · contradiction
  | cons entry rest ih =>
    refine ih _ (fun entry hmem => hsame entry (mem_cons_of_mem _ hmem))
      ?_
    rw [Holdings.getElem?_insert]
    by_cases haccount : entry.1 = account
    · left
      rw [if_pos ⟨haccount, rfl⟩, hsame entry mem_cons_self haccount]
    · rw [if_neg fun hkey => haccount hkey.1]
      refine h.imp_right fun hmem => ?_
      rw [map_cons, mem_cons] at hmem
      exact hmem.resolve_left (Ne.symm haccount)

omit [EventSink K] in
theorem writeAll_frame {other : String} (holdings : Holdings)
    (h : instrumentId = other → account ∉ scaled.map Prod.fst) :
    (holdings.writeAll instrumentId scaled)[(account, other)]?
      = holdings[(account, other)]? := by
  induction scaled generalizing holdings with
  | nil => rfl
  | cons entry rest ih =>
    have hrest : instrumentId = other → account ∉ rest.map Prod.fst := by
      intro hother hmem
      exact h hother (mem_cons_of_mem _ hmem)
    refine (ih _ hrest).trans ?_
    rw [Holdings.getElem?_insert, if_neg]
    rintro ⟨haccount, hother⟩
    refine h hother ?_
    rw [← haccount]
    exact mem_cons_self

theorem publishScaled_reports {correlationId : String}
    (h : (publishScaled correlationId instrumentId scaled).run s
      = (.ok events, t)) (hnames : ∀ entry ∈ scaled, entry.2.accountId = entry.1 ∧
      entry.2.instrumentId = instrumentId) : t.engine.portfolios
        = Holdings.writeAll instrumentId s.engine.portfolios scaled ∧
      (Holdings.Named s.engine.portfolios → Holdings.Named t.engine.portfolios) ∧
      (∀ account before, Holdings.Reported account s.engine.portfolios before →
        Holdings.Reported account t.engine.portfolios (before ++ events)) ∧
      ∀ event ∈ events, event.payload.isFill = false := by
  induction scaled generalizing s events with
  | nil =>
    obtain ⟨hvalue, rfl⟩ := Prod.mk.inj h
    obtain rfl := Except.ok.inj hvalue
    refine ⟨rfl, id, fun account before hbefore => ?_, by simp⟩
    rw [append_nil]
    exact hbefore
  | cons entry rest ih =>
    obtain ⟨account, after⟩ := entry
    simp only [publishScaled, run_update_bind,
      run_read_bind] at h
    obtain ⟨event, u, hemit, h⟩ := run_bind_eq_ok.mp h
    obtain ⟨events', v, hrest, h⟩ := run_bind_eq_ok.mp h
    obtain ⟨hvalue, rfl⟩ := Prod.mk.inj h
    obtain rfl := Except.ok.inj hvalue
    obtain ⟨hpayload, hsame⟩ := emit_portfolios hemit
    obtain ⟨haccount, hinstrument⟩ := hnames _ mem_cons_self
    obtain ⟨hwritten, hnamed, hreported, hfills⟩ :=
      ih hrest fun entry hmem => hnames entry (mem_cons_of_mem _ hmem)
    rw [hsame] at hwritten hnamed hreported
    refine ⟨hwritten, fun hbefore => ?_, fun other before hbefore => ?_, ?_⟩
    · exact hnamed (hbefore.insert haccount hinstrument)
    · have hfirst := Holdings.Reported.insert hbefore haccount hinstrument
        hpayload
      have hall := hreported other _ hfirst
      rw [append_assoc] at hall
      exact hall
    · intro reported hmem
      rcases mem_cons.mp hmem with rfl | hmem
      · rw [hpayload]
        rfl
      · exact hfills reported hmem

omit [EventSink K] in
theorem ScaledBy.split {holdings : Holdings} {scaled : List (String × Portfolio)}
    (h : ScaledBy ratio instrumentId holdings scaled) (account : String) :
    (holdings.portfolioOf account instrumentId).quantity = Decimal.zero ∧
      (holdings.writeAll instrumentId scaled).portfolioOf account instrumentId
        = holdings.portfolioOf account instrumentId ∨
    (holdings.portfolioOf account instrumentId).quantity ≠ Decimal.zero ∧
      (holdings.portfolioOf account instrumentId).applySplit ratio
        = .ok ((holdings.writeAll instrumentId scaled).portfolioOf account
            instrumentId) := by
  by_cases hholds : account ∈ scaled.map Prod.fst
  · right
    obtain ⟨⟨holder, after⟩, hmem, hholder⟩ := mem_map.mp hholds
    obtain rfl : holder = account := hholder
    obtain ⟨portfolio, hfound, hquantity, hsplit⟩ := h.sound _ _ hmem
    have hsame : ∀ entry ∈ scaled, entry.1 = holder → entry.2 = after := by
      rintro ⟨other, after'⟩ hmem' (rfl : other = holder)
      obtain ⟨portfolio', hfound', -, hsplit'⟩ := h.sound _ _ hmem'
      have hportfolio : portfolio' = portfolio :=
        Option.some.inj (hfound'.symm.trans hfound)
      rw [hportfolio, hsplit] at hsplit'
      exact (Except.ok.inj hsplit').symm
    have hwritten : (holdings.writeAll instrumentId scaled)[(holder,
        instrumentId)]? = some after :=
      writeAll_getElem? holdings hsame (.inr hholds)
    simp only [Holdings.portfolioOf, hwritten, hfound, getD_some]
    exact ⟨hquantity, hsplit⟩
  · left
    have hframe : (holdings.writeAll instrumentId scaled)[(account,
        instrumentId)]? = holdings[(account, instrumentId)]? :=
      writeAll_frame holdings fun _ => hholds
    constructor
    · cases hfound : holdings[(account, instrumentId)]? with
      | none =>
        rw [Holdings.portfolioOf, hfound]
        rfl
      | some portfolio =>
        rw [Holdings.portfolioOf, hfound, getD_some]
        by_contra hquantity
        obtain ⟨after, hmem⟩ := h.complete _ _ hfound hquantity
        exact hholds (mem_map_of_mem (f := Prod.fst) hmem)
    · simp only [Holdings.portfolioOf, hframe]

theorem applySplit_rescaled {appliedAt : String}
    (h : (applySplit actionId instrumentId ratio appliedAt).run s
      = (.ok events, t)) (hnamed : Holdings.Named s.engine.portfolios)
    (account : String) : Rescaled account instrumentId ratio s.engine.portfolios events
      t.engine.portfolios := by
  simp only [applySplit, run_read_bind,
    run_lift_bind_eq_ok] at h
  obtain ⟨scaled, hadmitted, h⟩ := h
  obtain ⟨_, u, hadvance, h⟩ := run_bind_eq_ok.mp h
  have hscaled := admitSplit_scaledBy hadmitted
  have hnames : ∀ entry ∈ scaled, entry.2.accountId = entry.1 ∧
      entry.2.instrumentId = instrumentId := by
    intro entry hmem
    obtain ⟨portfolio, hfound, -, hsplit⟩ := hscaled.sound _ _ hmem
    obtain ⟨haccount, hinstrument⟩ := Portfolio.applySplit_names hsplit
    obtain ⟨haccount', hinstrument'⟩ := hnamed _ _ _ hfound
    exact ⟨haccount.trans haccount', hinstrument.trans hinstrument'⟩
  rw [run_update_bind] at h
  obtain ⟨hwritten, hstill, hreported, hfills⟩ := publishScaled_reports h hnames
  have hsame : (noteAction actionId u).engine.portfolios
      = s.engine.portfolios :=
    (rfl : _ = u.engine.portfolios).trans (advanceTo_portfolios hadvance)
  rw [hsame] at hwritten hstill hreported
  refine ⟨hstill hnamed, hreported account, hfills, ?_, fun other hother => ?_⟩
  · rw [hwritten]
    exact hscaled.split account
  · simp only [Holdings.portfolioOf, hwritten]
    rw [writeAll_frame _ fun hsame => absurd hsame hother]

end

end Replay

end Follon.ControlPlane
