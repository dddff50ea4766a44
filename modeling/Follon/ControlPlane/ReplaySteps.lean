import Follon.ControlPlane.ReplayMoves

/-!
# Replay operations as moves

Each public operation of the engine, traced once from its checks to its
moves.  The last theorem carries what every move keeps to every reachable
state, so later proofs about runs never unfold an operation again.
-/

namespace Follon.ControlPlane

open Foundation Domain

namespace Replay

variable {K S : Type} [EventSink K]

/-! ## Causes in the stream -/

structure Caused (b : Bench K S) : Prop where
  working : ∀ (orderId : String) working,
    b.2.engine.workingOrders[orderId]? = some working → working.causationId ∈ b.2.eventIds
  hand : ∀ orderId working, b.1 = some (orderId, working) →
    working.causationId ∈ b.2.eventIds
  headlines : ∀ (newsId : String) headline,
    b.2.engine.newsHeadlines[newsId]? = some headline → headline.eventId ∈ b.2.eventIds

variable {phase : Phase} {b c : Bench K S}

theorem Caused.move (hmove : Move phase b c) (h : Caused b) : Caused c := by
  have hgrown : ∀ eventId ∈ b.2.eventIds, eventId ∈ c.2.eventIds :=
    fun eventId => Moves.eventIds (.single hmove)
  cases hmove with
  | quiet hsame =>
    refine ⟨?_, h.hand, ?_⟩
    · intro orderId working hfind
      exact h.working orderId working (hsame.working ▸ hfind)
    · intro newsId headline hfind
      exact h.headlines newsId headline (hsame.headlines ▸ hfind)
  | consulted => exact ⟨h.working, h.hand, h.headlines⟩
  | advanced => exact ⟨h.working, h.hand, h.headlines⟩
  | refused => exact ⟨h.working, h.hand, h.headlines⟩
  | emitted =>
    exact ⟨fun orderId working hfind => hgrown _ (h.working _ _ hfind),
      fun orderId working hhand => hgrown _ (h.hand _ _ hhand),
      fun newsId headline hfind => hgrown _ (h.headlines _ _ hfind)⟩
  | @noted _ s headline eventId hevent =>
    refine ⟨h.working, h.hand, ?_⟩
    intro newsId replayed hfind
    simp only [noteHeadline, edit, getElem?_insert] at hfind
    split at hfind
    · obtain rfl := Option.some.inj hfind
      exact hevent
    · exact h.headlines newsId replayed hfind
  | @takenUp s orderId working _ hfind =>
    refine ⟨?_, ?_, h.headlines⟩
    · intro orderId' working' hother
      simp only [release, edit, getElem?_erase] at hother
      split at hother
      · contradiction
      · exact h.working orderId' working' hother
    · intro orderId' working' hhand
      obtain ⟨rfl, rfl⟩ := Prod.mk.inj (Option.some.inj hhand)
      exact h.working orderId working hfind
  | finished => exact ⟨h.working, by simp, h.headlines⟩
  | @kept s orderId working _ =>
    refine ⟨?_, by simp, h.headlines⟩
    intro orderId' working' hfind
    simp only [hold, edit, getElem?_insert] at hfind
    split at hfind
    · obtain rfl := Option.some.inj hfind
      exact h.hand orderId working rfl
    · exact h.working orderId' working' hfind
  | caused _ _ _ hevent =>
    refine ⟨h.working, ?_, h.headlines⟩
    intro orderId' working' hhand
    obtain ⟨rfl, rfl⟩ := Prod.mk.inj (Option.some.inj hhand)
    exact hevent
  | moved =>
    refine ⟨fun orderId working hfind => hgrown _ (h.working _ _ hfind), ?_,
      fun newsId headline hfind => hgrown _ (h.headlines _ _ hfind)⟩
    intro orderId' working' hhand
    obtain ⟨rfl, rfl⟩ := Prod.mk.inj (Option.some.inj hhand)
    simp [inState]
  | @filled s orderId working =>
    refine ⟨fun orderId working hfind => hgrown _ (h.working _ _ hfind), ?_,
      fun newsId headline hfind => hgrown _ (h.headlines _ _ hfind)⟩
    intro orderId' working' hhand
    obtain ⟨rfl, rfl⟩ := Prod.mk.inj (Option.some.inj hhand)
    exact hgrown _ (h.hand orderId working rfl)
  | created =>
    refine ⟨fun orderId working hfind => hgrown _ (h.working _ _ hfind), ?_,
      fun newsId headline hfind => hgrown _ (h.headlines _ _ hfind)⟩
    intro orderId' working' hhand
    obtain ⟨rfl, rfl⟩ := Prod.mk.inj (Option.some.inj hhand)
    simp [announced, noteCreated, eventIds, accept]

theorem Caused.moves (hmoves : Moves phase b c) (h : Caused b) : Caused c :=
  hmoves.keeps (fun _ _ hb hmove => hb.move hmove) h

/-! ## Matching -/

section Programs

variable {phase : Phase} {s : Replay K S} {orderId : String}
  {working : SimulatedWorkingOrder}

theorem keepWorking_follows : Follows phase (some (orderId, working), s)
      (keepWorking orderId working : ReplayM K S Unit)
      (fun _ c => c.1 = none) := by
  have hrun : (keepWorking orderId working : ReplayM K S Unit).run s
      = (.ok (), if Decimal.zero < working.remainingQuantity then
          s.hold orderId working else s) := rfl
  refine ⟨?_, fun e t h => by simp [hrun] at h⟩
  intro a t h
  obtain ⟨-, rfl⟩ := Prod.mk.inj (hrun.symm.trans h)
  split
  · next hleft => exact ⟨none, .single (.kept hleft), rfl⟩
  · next hdone => exact ⟨none, .single (.finished hdone), rfl⟩

variable [Strategy S]

theorem matchOrder_follows (accountId : String) (bar : Bar)
    (reference : Option Instrument) (events : List EventEnvelope)
    (htakes : phase.takes orderId) (hfills : phase.fills)
    (hcaused : Caused ((none, s) : Bench K S))
    (hfind : s.engine.workingOrders[orderId]? = some working) : Follows phase (none, s)
      (matchOrder accountId bar reference events orderId working)
      (fun _ c => c.1 = none) := by
  refine .update (.takenUp htakes hfind) ?_
  refine .bind (attemptSimulatedFill_follows events accountId bar reference
    hfills (hcaused.working orderId working hfind)) ?_
  rintro attempt ⟨_, s'⟩ - ⟨rfl, -⟩
  refine .bind keepWorking_follows ?_
  rintro u ⟨_, s''⟩ - rfl
  exact .pure rfl

theorem matchOrders_follows (accountId : String) (bar : Bar)
    (reference : Option Instrument) (orderIds : List String)
    (events : List EventEnvelope) (latest : Option Projection)
    (htakes : ∀ orderId ∈ orderIds, phase.takes orderId)
    (hfills : phase.fills) (hcaused : Caused ((none, s) : Bench K S)) :
    Follows phase (none, s)
      (matchOrders accountId bar reference orderIds events latest)
      (fun _ c => c.1 = none) := by
  induction orderIds generalizing s events latest with
  | nil => exact .pure rfl
  | cons orderId rest ih =>
    refine .read ?_
    dsimp only
    split
    · exact .fail
    · next working hfind =>
        refine .bind (matchOrder_follows accountId bar reference events
          (htakes orderId mem_cons_self) hfills hcaused hfind) ?_
        rintro attempt ⟨_, s'⟩ hmoves rfl
        exact ih attempt.events (attempt.projection <|> latest)
          (fun orderId hmem => htakes orderId (mem_cons_of_mem _ hmem))
          (hcaused.moves hmoves)

/-! ## New orders -/

def OnItsWay (intent : OrderIntent) (order : OmsOrder)
    (events : List EventEnvelope) (c : Bench K S) : Prop :=
  ∃ working event, c.1 = some (OmsOrder.orderIdFor intent.intentId, working) ∧
      working.order = order ∧
      order.orderId = OmsOrder.orderIdFor intent.intentId ∧
      working.remainingQuantity = intent.quantity ∧
      working.fillSequence = 0 ∧
      events.getLast? = some event ∧ event.eventId ∈ c.2.eventIds

variable {intent : OrderIntent} {decisionEventId causationId : String}
  {flow : IntentFlow} {t : Replay K S}

omit [Strategy S] in
theorem announceOrder_follows (reason : String) (hcreates : phase.creates)
    (hvalid : intent.validate = .ok ())
    (hfree : OmsOrder.orderIdFor intent.intentId ∉ s.engine.workingOrders)
    (hcause : decisionEventId ∈ s.eventIds) :
    Follows phase (none, s) (announceOrder intent decisionEventId reason)
      (fun event c => c.1 = some (OmsOrder.orderIdFor intent.intentId,
          announced intent event.eventId) ∧
        event.eventId ∈ c.2.eventIds) where
  returns := by
    intro event t hrun
    obtain ⟨event', s', hemit, hnote⟩ := run_bind_eq_ok.mp hrun
    obtain ⟨sink, hevent, happend, rfl⟩ := emit_returns hemit
    obtain ⟨hvalue, rfl⟩ := Prod.mk.inj hnote
    obtain rfl := Except.ok.inj hvalue
    have hissues : Issues s event' := by
      rw [hevent]
      refine envelope_issues ?_ (fun _ => rfl) fun bar heq =>
        absurd heq (EventPayload.ne_marketBar rfl bar)
      rintro cause hmem
      rwa [← Option.mem_some.mp hmem]
    have hpayload : event'.payload = .orderState
        ⟨OmsOrder.orderIdFor intent.intentId, none, .created, reason⟩ := by
      rw [hevent]
      rfl
    refine ⟨_, .single (.created hcreates hissues happend hvalid hfree hpayload), rfl, ?_⟩
    simp [noteCreated, eventIds, accept]
  fails := by
    intro e t hrun
    rcases run_bind_eq_error.mp hrun with hemit | ⟨_, _, -, hnote⟩
    · exact ⟨none, emit_fails none hemit⟩
    · cases hnote

variable {order : OmsOrder} {decision : RiskDecision} {b : Bench K S}
  {bar : Bar} {eventTime : String}

omit [Strategy S] in
theorem takeThrough_follows (path : List (OrderState × String))
    {events : List EventEnvelope} (hcause : causationId ∈ s.eventIds)
    (hway : OnItsWay intent order events ((some (orderId, working), s) :
      Bench K S)) : Follows phase (some (orderId, working), s)
      (takeThrough intent causationId path order events)
      (fun result c => result.1.intent = order.intent ∧
        OnItsWay intent result.1 result.2 c) := by
  induction path generalizing s working order events with
  | nil => exact .pure ⟨rfl, hway⟩
  | cons head rest ih =>
    obtain ⟨_, _, hhand, rfl, hid, hremaining, hsequence, hlast, hevent⟩ :=
      hway
    obtain ⟨rfl, rfl⟩ := Prod.mk.inj (Option.some.inj hhand)
    refine .lift fun (order', change) htransition => ?_
    obtain ⟨hvalid, rfl, hchange⟩ := OmsOrder.transition_eq_ok.mp htransition
    refine .bind (emitOrderChange_follows hvalid hchange hcause) ?_
    rintro event ⟨_, s'⟩ hmoves ⟨rfl, hevent⟩
    refine ih (hmoves.eventIds hcause) ⟨_, event, rfl, rfl, hid, hremaining,
      hsequence, ?_, hevent⟩
    simp

omit [Strategy S] in
theorem createOrder_follows (events : List EventEnvelope)
    (createdReason approvedReason : String) (hcreates : phase.creates)
    (hvalid : intent.validate = .ok ())
    (hfree : OmsOrder.orderIdFor intent.intentId ∉ s.engine.workingOrders)
    (hcause : decisionEventId ∈ s.eventIds) : Follows phase (none, s)
      (createOrder events intent decision decisionEventId createdReason approvedReason)
      (fun result c => result.1.intent = intent ∧
        OnItsWay intent result.1 result.2 c) := by
  refine .lift fun order horder => ?_
  simp only [OmsOrder.fromApprovedIntent, bind_eq_ok, pure_eq_ok] at horder
  obtain ⟨_, -, rfl⟩ := horder
  refine .bind (announceOrder_follows createdReason hcreates hvalid hfree hcause) ?_
  rintro event ⟨_, s'⟩ hmoves ⟨rfl, hevent⟩
  refine takeThrough_follows _ (hmoves.eventIds hcause)
    ⟨_, event, rfl, rfl, rfl, rfl, rfl, ?_, hevent⟩
  simp

theorem workOrder_follows (events : List EventEnvelope) (accountId : String)
    (bar : Bar) (reference : Option Instrument) (latest : Option Projection)
    (hfills : ∀ eligible, eligibleAfter b.2.engine
        (flow.latency b.2.engine.fillModel) = .ok eligible →
      flow.immediate b.2.engine eligible = true → phase.fills)
    (hway : OnItsWay intent order events b) : Follows phase b
      (workOrder events accountId bar reference order intent latest flow)
      (fun _ c => c.1 = none) := by
  obtain ⟨hand, s⟩ := b
  obtain ⟨working, event, rfl, horder, hid, hremaining, hsequence, hlast, hevent⟩ := hway
  refine .read (.lift fun eligible heligible => ?_)
  have hcaused : (newWorking order intent eligible events).causationId
      ∈ s.eventIds := by
    simp only [newWorking, hlast]
    exact hevent
  have hmove : Move phase
      (some (OmsOrder.orderIdFor intent.intentId, working), s)
      (some (OmsOrder.orderIdFor intent.intentId,
        newWorking order intent eligible events), s) :=
    .caused horder.symm hremaining.symm hsequence.symm hcaused
  have hstart : Follows phase
      (some (OmsOrder.orderIdFor intent.intentId,
        newWorking order intent eligible events), s)
      (startWorking (flow.immediate s.engine eligible) events accountId bar
        (newWorking order intent eligible events) reference flow.resting)
      (StillHeld (OmsOrder.orderIdFor intent.intentId) order) := by
    unfold startWorking
    split
    · next himmediate =>
        exact attemptSimulatedFill_follows events accountId bar reference
          (hfills eligible heligible himmediate) hcaused
    · exact restNew_follows events flow.resting hcaused
  refine .after (.single hmove) rfl (.bind hstart ?_)
  rintro attempt ⟨_, s'⟩ - ⟨rfl, hsame⟩
  rw [hsame, hid]
  refine .bind keepWorking_follows ?_
  rintro u ⟨_, s''⟩ - rfl
  exact .pure rfl

/-! ## Intents -/

omit [Strategy S] in
theorem Moves.recording {c : Bench K S} (hmoves : Moves .recording b c)
    (hhand : b.1 = none) :
    c.1 = none ∧ c.2.engine.workingOrders = b.2.engine.workingOrders := by
  induction hmoves with
  | refl => exact ⟨hhand, rfl⟩
  | tail _ hmove ih =>
    obtain ⟨ihhand, ihworking⟩ := ih
    cases hmove with
    | quiet hsame => exact ⟨ihhand, hsame.working.trans ihworking⟩
    | takenUp hphase => exact hphase.elim
    | filled hphase => exact hphase.elim
    | created hphase => exact hphase.elim
    | finished => exact absurd ihhand (by simp)
    | kept => exact absurd ihhand (by simp)
    | caused => exact absurd ihhand (by simp)
    | moved => exact absurd ihhand (by simp)
    | _ => exact ⟨ihhand, ihworking⟩

omit [Strategy S] in
theorem decideIntent_follows (accountId : String) (intent : OrderIntent)
    (decide : String → Result RiskDecision) (hcause : causationId ∈ s.eventIds) :
    Follows phase (none, s)
      (decideIntent accountId intent causationId decide)
      (fun result c => c.1 = none ∧
        c.2.engine.workingOrders = s.engine.workingOrders ∧
        result.2.2.eventId ∈ c.2.eventIds) := by
  have hrecorded : Follows .recording (none, s)
      (decideIntent accountId intent causationId decide)
      (fun result c => result.2.2.eventId ∈ c.2.eventIds) := by
    refine .bind (emitFor_follows rfl rfl hcause) ?_
    rintro intentEvent ⟨_, s'⟩ - ⟨rfl, hintent⟩
    refine .read (.lift fun decision _ => ?_)
    refine .bind (emitFor_follows rfl rfl hintent) ?_
    rintro decisionEvent ⟨_, s''⟩ - ⟨rfl, hdecision⟩
    exact .pure hdecision
  refine (hrecorded.weaken ?_).mono (Phase.recording_within phase)
  intro result c hmoves hevent
  obtain ⟨hhand, hworking⟩ := hmoves.recording rfl
  exact ⟨hhand, hworking, hevent⟩

def Starts (phase : Phase) (flow : IntentFlow) : Prop :=
  ∀ (engine : ReplayEngine) eligible,
    eligibleAfter engine (flow.latency engine.fillModel) = .ok eligible →
      flow.immediate engine eligible = true → phase.fills

theorem starts_barFlow (phase : Phase) : Starts phase barFlow := by
  intro engine eligible heligible himmediate
  simp only [eligibleAfter, bind_eq_ok, pure_eq_ok] at heligible
  obtain ⟨_, -, rfl⟩ := heligible
  simp only [barFlow, decide_eq_true_eq] at himmediate
  omega

theorem concludeIntent_follows (events : List EventEnvelope)
    (accountId : String) (bar : Bar) (reference : Option Instrument)
    (latest : Option Projection) (hcreates : phase.creates)
    (hstarts : Starts phase flow) (hvalid : intent.validate = .ok ())
    (hfree : OmsOrder.orderIdFor intent.intentId ∉ s.engine.workingOrders)
    (hcause : decisionEventId ∈ s.eventIds) : Follows phase (none, s)
      (concludeIntent events accountId bar reference intent decision
        decisionEventId latest flow)
      (fun _ c => c.1 = none) := by
  unfold concludeIntent
  split
  · refine .bind (auditEvent_follows _ _ hcause) ?_
    rintro audit ⟨_, s'⟩ - ⟨rfl, -⟩
    exact .pure rfl
  · refine .bind (createOrder_follows events flow.created flow.approved
      hcreates hvalid hfree hcause) ?_
    rintro ⟨order, events'⟩ c - ⟨-, hway⟩
    exact workOrder_follows events' accountId bar reference latest
      (fun eligible => hstarts c.2.engine eligible) hway

theorem processIntent_follows (events : List EventEnvelope)
    (accountId : String) (bar : Bar) (reference : Option Instrument)
    (intent : OrderIntent) (decide : RiskPolicy → String → Result RiskDecision)
    (latest : Option Projection) (hcreates : phase.creates)
    (hstarts : Starts phase flow) (hcause : causationId ∈ s.eventIds) :
    Follows phase (none, s)
      (processIntent events accountId bar reference causationId intent decide latest flow)
      (fun _ c => c.1 = none) := by
  refine .read (.lift fun _ hcheck => ?_)
  simp only [checkIntent, bind_eq_ok, refuseIf_eq_ok, exists_const] at hcheck
  obtain ⟨_, hvalid, -, -, _, -, hfree⟩ := hcheck
  refine .bind (decideIntent_follows accountId intent _ hcause) ?_
  rintro ⟨decision, intentEvent, decisionEvent⟩ ⟨_, s'⟩ - ⟨rfl, hworking, hdecision⟩
  exact concludeIntent_follows _ accountId bar reference latest hcreates
    hstarts hvalid (hworking ▸ hfree) hdecision

/-! ## Operations -/

theorem answerBar_follows {marketEventId : String}
    (events : List EventEnvelope) (accountId : String) (bar : Bar)
    (reference : Option Instrument) (latest : Option Projection)
    (hcreates : phase.creates) (hcause : marketEventId ∈ s.eventIds) :
    Follows phase (none, s)
      (answerBar events accountId bar reference marketEventId latest)
      (fun _ c => c.1 = none) := by
  refine .read (.bind (consult_follows _) ?_)
  rintro intent? ⟨_, s'⟩ hmoves rfl
  cases intent? with
  | none => exact .pure rfl
  | some intent =>
    exact processIntent_follows events accountId bar reference intent _
      latest hcreates (starts_barFlow phase) (hmoves.eventIds hcause)

omit [Strategy S] in
theorem advanceTo_follows (time : String) :
    Follows phase (none, s) (advanceTo time : ReplayM K S Unit)
      (fun _ c => c = (none, s.setClock time)) := by
  refine .read (.lift fun _ _ => .lift fun _ hforward => ?_)
  exact .write (.advanced (String.not_lt.mp (refuseIf_eq_ok.mp hforward))) rfl

omit [EventSink K] [Strategy S] in
def nextBar (engine : ReplayEngine) : ReplayEngine :=
  { engine with barSequence := engine.barSequence + 1 }

omit [Strategy S] in
theorem countBar_follows : Follows phase (none, s) (countBar : ReplayM K S Unit)
      (fun _ c => c = (none, s.edit nextBar)) :=
  .read (.lift fun _ _ => .write (.quiet ⟨rfl, rfl, rfl, rfl, rfl⟩) rfl)

omit [Strategy S] in
theorem emitBar_follows (hvalid : bar.validate = .ok ())
    (htime : eventTime = s.engine.clock) : Follows phase (none, s) (emitBar eventTime bar)
      (fun event c => Emitted none event c ∧
        c.2.engine = s.counted.engine) := by
  have hplain : Follows phase (none, s) (emitBar eventTime bar)
      (Emitted none) := by
    refine .read (emitPlain_follows rfl nofun (fun _ => htime) ?_)
    intro bar' heq
    obtain rfl := EventPayload.marketBar.inj heq
    exact hvalid
  refine hplain.also (Q := fun _ t => t.engine = s.counted.engine) ?_
  intro event t hrun
  obtain ⟨_, -, -, rfl⟩ := emit_returns hrun
  rfl

def Eligible (s : Replay K S) (accountId : String) (bar : Bar)
    (orderId : String) : Prop :=
  orderId ∈ eligibleOrderIds (nextBar s.engine) accountId bar

theorem matchBar_follows (accountId eventTime : String) (bar : Bar)
    (reference : Option Instrument)
    (htakes : ∀ orderId, Eligible s accountId bar orderId → phase.takes orderId)
    (hfills : phase.fills) (hcaused : Caused ((none, s) : Bench K S)) :
    Follows phase (none, s) (matchBar accountId eventTime bar reference)
      (fun result c => c.1 = none ∧ result.1.eventId ∈ c.2.eventIds) := by
  refine .lift fun _ hvalid => .bind (advanceTo_follows eventTime) ?_
  rintro _ _ hadvanced rfl
  refine .bind countBar_follows ?_
  rintro _ _ hcounted rfl
  refine .bind (emitBar_follows hvalid rfl) ?_
  rintro event ⟨_, s₃⟩ hemitted ⟨⟨rfl, hevent⟩, hengine⟩
  have hcaused₃ := ((hcaused.moves hadvanced).moves hcounted).moves hemitted
  have hids : eligibleOrderIds s₃.engine accountId bar
      = eligibleOrderIds (nextBar s.engine) accountId bar := by
    rw [show s₃.engine = _ from hengine]
    rfl
  refine .read (.bind (matchOrders_follows accountId bar reference _ _ none
    ?_ hfills hcaused₃) ?_)
  · intro orderId hmem
    rw [hids] at hmem
    exact htakes orderId hmem
  · rintro _ ⟨_, s₄⟩ hmatched rfl
    exact .pure ⟨rfl, hmatched.eventIds hevent⟩

def BarPhases (accountId : String) (bar : Bar) (s t : Replay K S) : Prop :=
  (∃ h, Moves (.matching (Eligible s accountId bar)) (none, s) (h, t)) ∨
    ∃ u h, Moves (.matching (Eligible s accountId bar)) (none, s) (none, u) ∧
      Moves .answering (none, u) (h, t)

theorem replayBar_phases {accountId : String} {reference : Option Instrument}
    {result : Except PaperError ReplayResult} (hcaused : Caused ((none, s) : Bench K S))
    (hrun : (replayBar accountId eventTime bar reference).run s = (result, t))
    : BarPhases accountId bar s t := by
  have hmatched : Follows (.matching (Eligible s accountId bar)) (none, s)
      (matchBar accountId eventTime bar reference)
      (fun result c => c.1 = none ∧ result.1.eventId ∈ c.2.eventIds) :=
    matchBar_follows accountId eventTime bar reference (fun _ => id) trivial
      hcaused
  have hanswered : ∀ (a : EventEnvelope × List EventEnvelope × Option Projection) c,
      Moves (.matching (Eligible s accountId bar)) (none, s) c →
      c.1 = none ∧ a.1.eventId ∈ c.2.eventIds →
      Follows .answering c
        (answerBar a.2.1 accountId bar reference a.1.eventId a.2.2)
        (fun _ c => c.1 = none) := by
    rintro a ⟨_, u⟩ - ⟨rfl, hevent⟩
    exact answerBar_follows a.2.1 accountId bar reference a.2.2 trivial hevent
  rcases hmatched.split hanswered hrun with
    h | ⟨a, ⟨_, u⟩, h, hmatching, ⟨rfl, -⟩, hanswering⟩
  · exact .inl h
  · exact .inr ⟨u, h, hmatching, hanswering⟩

theorem replayBar_moves (accountId eventTime : String) (bar : Bar)
    (reference : Option Instrument) (hcaused : Caused ((none, s) : Bench K S)) :
    ∃ h, Moves .any (none, s)
      (h, (replayBar accountId eventTime bar reference).final s) := by
  rcases replayBar_phases hcaused (Prod.eta _).symm with
    ⟨h, hmoves⟩ | ⟨u, h, hmatching, hanswering⟩
  · exact ⟨h, hmoves.mono (Phase.within_any _)⟩
  · exact ⟨h, (hmatching.mono (Phase.within_any _)).trans
      (hanswering.mono (Phase.within_any _))⟩

theorem processBar_moves (accountId eventTime : String) (bar : Bar)
    (market : MarketPreconditions) (hcaused : Caused ((none, s) : Bench K S)) :
    ∃ h, Moves .any (none, s)
      (h, (processBarWithMarketPreconditions accountId eventTime bar
        market).final s) := by
  unfold processBarWithMarketPreconditions
  cases market.validate bar eventTime with
  | error e => exact ⟨none, .refl⟩
  | ok reference =>
    exact replayBar_moves accountId eventTime bar (some reference) hcaused

theorem processNewsHeadline_follows (headline : NewsHeadline) :
    Follows phase (none, s) (processNewsHeadline headline : ReplayM K S _)
      (fun _ _ => True) := by
  refine .read (.lift fun (source, availability) _ =>
    .bind (advanceTo_follows availability) ?_)
  rintro _ _ - rfl
  refine .bind (emitPlain_follows rfl nofun nofun fun bar heq =>
    absurd heq (EventPayload.ne_marketBar rfl bar)) ?_
  rintro event ⟨_, s₂⟩ - ⟨rfl, hevent⟩
  refine .update (.noted hevent) (.read (.bind (consult_follows _) ?_))
  exact fun _ _ _ _ => .pure trivial

theorem answerSentiment_follows (accountId : String)
    (sentiment : SentimentVector) (market : Bar) (shock : NewsShockContext)
    (reference : Instrument) {event : EventEnvelope} (hfills : phase.fills)
    (hcreates : phase.creates) (hevent : event.eventId ∈ s.eventIds) :
    Follows phase (none, s)
      (answerSentiment accountId sentiment market shock reference event)
      (fun _ c => c.1 = none) := by
  refine .read (.bind (consult_follows _) ?_)
  rintro intent? ⟨_, s'⟩ hmoves rfl
  cases intent? with
  | none => exact .pure rfl
  | some intent =>
    exact processIntent_follows _ accountId market (some reference) intent _
      none hcreates (fun _ _ _ _ => hfills) (hmoves.eventIds hevent)

theorem processNewsSentiment_follows (accountId : String)
    (sentiment : SentimentVector) (market : Bar) (shock : NewsShockContext)
    (instruments : InstrumentRegistry) (hfills : phase.fills)
    (hcreates : phase.creates) (hcaused : Caused ((none, s) : Bench K S)) :
    Follows phase (none, s)
      (processNewsSentiment accountId sentiment market shock instruments)
      (fun _ c => c.1 = none) := by
  refine .read (.lift fun admitted hadmitted => ?_)
  have hheadline : ∃ headline,
      s.engine.newsHeadlines[sentiment.causationNewsId]? = some headline ∧
        admitted.headlineEventId = headline.eventId := by
    simp only [admitSentiment, bind_eq_ok, pure_eq_ok] at hadmitted
    obtain ⟨_, -, _, -, _, -, _, -, _, -, headline, hfind, _, -, _, -, _, -,
      _, -, rfl⟩ := hadmitted
    unfold findHeadline at hfind
    split at hfind
    · next found hlookup =>
        obtain rfl := Except.ok.inj hfind
        exact ⟨found, hlookup, rfl⟩
    · exact absurd hfind nofun
  obtain ⟨headline, hlookup, hid⟩ := hheadline
  have hcause : admitted.headlineEventId ∈ s.eventIds := by
    rw [hid]
    exact hcaused.headlines _ headline hlookup
  refine .bind (advanceTo_follows admitted.availabilityTime) ?_
  rintro _ _ hadvanced rfl
  refine .bind (emitPlain_follows rfl ?_ nofun fun bar heq =>
    absurd heq (EventPayload.ne_marketBar rfl bar)) ?_
  · rintro cause hmem
    rw [← Option.mem_some.mp hmem]
    exact hadvanced.eventIds hcause
  · rintro event ⟨_, s₂⟩ - ⟨rfl, hevent⟩
    exact .update (.quiet ⟨rfl, rfl, rfl, rfl, rfl⟩)
      (answerSentiment_follows accountId sentiment market shock _ hfills hcreates hevent)

omit [Strategy S] in
theorem publishScaled_follows (correlationId instrumentId : String)
    (scaled : List (String × Portfolio)) : Follows phase (none, s)
      (publishScaled correlationId instrumentId scaled : ReplayM K S _)
      (fun _ c => c.1 = none) := by
  induction scaled generalizing s with
  | nil => exact .pure rfl
  | cons head rest ih =>
    obtain ⟨accountId, after⟩ := head
    refine .update (.quiet ⟨rfl, rfl, rfl, rfl, rfl⟩) (.read (.bind
      (emitPlain_follows rfl nofun (fun _ => rfl) fun bar heq =>
        absurd heq (EventPayload.ne_marketBar rfl bar)) ?_))
    rintro event ⟨_, s'⟩ - ⟨rfl, -⟩
    refine .bind ih ?_
    rintro events ⟨_, s''⟩ - rfl
    exact .pure rfl

omit [Strategy S] in
theorem applySplit_follows (actionId instrumentId : String) (ratio : Decimal)
    (appliedAt : String) : Follows phase (none, s)
      (applySplit actionId instrumentId ratio appliedAt : ReplayM K S _)
      (fun _ c => c.1 = none) := by
  refine .read (.lift fun scaled _ => .bind (advanceTo_follows appliedAt) ?_)
  rintro _ _ - rfl
  exact .update (.quiet ⟨rfl, rfl, rfl, rfl, rfl⟩)
    (publishScaled_follows _ instrumentId scaled)

theorem execute_moves (operation : ReplayOperation)
    (hcaused : Caused ((none, s) : Bench K S)) :
    ∃ h, Moves .any (none, s) (h, (execute operation).final s) := by
  cases operation with
  | replayBar accountId eventTime bar reference =>
    rw [execute, final_discard]
    exact replayBar_moves accountId eventTime bar reference hcaused
  | processBar accountId eventTime bar market =>
    rw [execute, final_discard]
    exact processBar_moves accountId eventTime bar market hcaused
  | processNewsHeadline headline =>
    rw [execute, final_discard]
    exact (processNewsHeadline_follows headline).final
  | processNewsSentiment accountId sentiment market shock instruments =>
    rw [execute, final_discard]
    exact (processNewsSentiment_follows accountId sentiment market shock
      instruments trivial trivial hcaused).final
  | applySplit actionId instrumentId ratio appliedAt =>
    rw [execute, final_discard]
    exact (applySplit_follows actionId instrumentId ratio appliedAt).final

theorem Step.moves (h : Step s t) (hcaused : Caused ((none, s) : Bench K S)) :
    ∃ hand, Moves .any (none, s) (hand, t) := by
  cases h with
  | operate operation => exact execute_moves operation hcaused
  | strategyMoved strategy => exact ⟨none, .single .consulted⟩

omit [EventSink K] [Strategy S] in
theorem Caused.drop {h : Hand} (hcaused : Caused (h, t)) : Caused (none, t) :=
  ⟨hcaused.working, by simp, hcaused.headlines⟩

omit [EventSink K] [Strategy S] in
theorem Constructed.caused (hs : Constructed s) : Caused ((none, s) : Bench K S) := by
  obtain ⟨⟨_, _, _, _, _, hnew⟩, -, -⟩ := hs
  simp only [ReplayEngine.new, bind_eq_ok, pure_eq_ok] at hnew
  obtain ⟨_, -, _, -, _, -, _, -, hengine⟩ := hnew
  refine ⟨?_, by simp, ?_⟩
  · simp [← hengine]
  · simp [← hengine]

theorem Replayed.caused (hs : Replayed s) : Caused ((none, s) : Bench K S) := by
  refine Reachable.invariant (P := fun s => Caused (none, s))
    (fun s hs => hs.caused) ?_ hs
  intro s t _ hcaused hstep
  obtain ⟨hand, hmoves⟩ := hstep.moves hcaused
  exact (hcaused.moves hmoves).drop

theorem Replayed.keeps {I : Bench K S → Prop} (hinit : ∀ s, Constructed s → I (none, s))
    (hdrop : ∀ h s, I (h, s) → I (none, s))
    (hmove : ∀ b c, I b → Move .any b c → I c) (hs : Replayed s) : I (none, s) := by
  induction hs with
  | init h => exact hinit _ h
  | step hs hstep ih =>
    obtain ⟨hand, hmoves⟩ := hstep.moves (Replayed.caused hs)
    exact hdrop hand _ (hmoves.keeps hmove ih)

end Programs

end Replay

end Follon.ControlPlane
