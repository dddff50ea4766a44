import Follon.ControlPlane.Replays

/-!
# What a replay step does

Every step of the engine is a sequence of small moves.  An order the engine
has taken out of the working set is in hand until it is put back, so a move
relates two states together with what is in hand.
-/

namespace Follon.ControlPlane

open Foundation Domain

namespace EventPayload

def isNews : EventPayload → Bool
  | newsHeadline _ | newsSentiment _ => true
  | _ => false

def isBar : EventPayload → Bool
  | marketBar _ => true
  | _ => false

theorem ne_marketBar {payload : EventPayload} (h : payload.isBar = false)
    (bar : Bar) : payload ≠ .marketBar bar := by
  rintro rfl
  contradiction

def isPlain : EventPayload → Bool
  | orderState _ | fill _ => false
  | _ => true

end EventPayload

namespace Replay

abbrev Hand : Type :=
  Option (String × SimulatedWorkingOrder)

abbrev Bench (K S : Type) : Type :=
  Hand × Replay K S

structure Phase where
  takes : String → Prop
  (fills creates : Prop)

def Phase.any : Phase := ⟨fun _ => True, True, True⟩

def Phase.recording : Phase := ⟨fun _ => False, False, False⟩

def Phase.matching (takes : String → Prop) : Phase := ⟨takes, True, False⟩

def Phase.answering : Phase := ⟨fun _ => False, False, True⟩

structure Phase.Within (phase phase' : Phase) : Prop where
  takes : ∀ orderId, phase.takes orderId → phase'.takes orderId
  fills : phase.fills → phase'.fills
  creates : phase.creates → phase'.creates

theorem Phase.within_any (phase : Phase) : phase.Within .any :=
  ⟨fun _ _ => trivial, fun _ => trivial, fun _ => trivial⟩

theorem Phase.recording_within (phase : Phase) : Phase.recording.Within phase :=
  ⟨fun _ => False.elim, False.elim, False.elim⟩

variable {K S : Type}

def eventIds (s : Replay K S) : List String := s.stream.map EventEnvelope.eventId

def setEngine (engine : ReplayEngine) (s : Replay K S) : Replay K S := { s with engine }

def setSink (sink : K) (s : Replay K S) : Replay K S := { s with sink }

structure Issues (s : Replay K S) (event : EventEnvelope) : Prop where
  id : event.eventId = ReplayEngine.eventIdFor (s.engine.sequence + 1)
  received : event.receiveTime = s.engine.clock
  schema : event.schemaVersion = 1
  cause : ∀ cause ∈ event.causationId, cause ∈ s.eventIds
  time : event.payload.isNews = false → event.eventTime = s.engine.clock
  bar : ∀ bar, event.payload = .marketBar bar → bar.validate = .ok ()

structure NextFill (model : DeterministicFillModel)
    (working : SimulatedWorkingOrder) (fill : Fill) : Prop where
  order : fill.orderId = working.order.orderId
  quantity : fill.quantity = nextQuantity model working
  positive : 0 < fill.quantity.scaled
  executionId : fill.executionId
    = executionIdFor working fill.quantity (working.fillSequence + 1)

/-- Two engines that differ in nothing a stream depends on. -/
structure SameCourse (engine engine' : ReplayEngine) : Prop where
  clock : engine'.clock = engine.clock
  sequence : engine'.sequence = engine.sequence
  working : engine'.workingOrders = engine.workingOrders
  headlines : engine'.newsHeadlines = engine.newsHeadlines
  fillModel : engine'.fillModel = engine.fillModel

def announced (intent : OrderIntent) (eventId : String) : SimulatedWorkingOrder :=
  { order := ⟨OmsOrder.orderIdFor intent.intentId, intent, .created⟩
    remainingQuantity := intent.quantity, eligibleOnBar := 0, fillSequence := 0
    causationId := eventId }

def inState (working : SimulatedWorkingOrder) (state : OrderState)
    (causationId : String) : SimulatedWorkingOrder :=
  { working with order := { working.order with state }, causationId }

variable [EventSink K]

inductive Move (phase : Phase) : Bench K S → Bench K S → Prop
  | quiet {h : Hand} {s : Replay K S} {engine : ReplayEngine}
      (hsame : SameCourse s.engine engine) :
      Move phase (h, s) (h, s.setEngine engine)
  | consulted {h : Hand} {s : Replay K S} {strategy : S} :
      Move phase (h, s) (h, s.setStrategy strategy)
  | advanced {h : Hand} {s : Replay K S} {time : String}
      (htime : s.engine.clock ≤ time) : Move phase (h, s) (h, s.setClock time)
  | refused {h : Hand} {s : Replay K S} {event : EventEnvelope}
      {e : PaperError} {sink : K}
      (hrefused : EventSink.append s.sink event = (.error e, sink)) :
      Move phase (h, s) (h, s.counted.setSink sink)
  | emitted {h : Hand} {s : Replay K S} {event : EventEnvelope} {sink : K}
      (hissues : Issues s event)
      (haccepted : EventSink.append s.sink event = (.ok (), sink))
      (hplain : event.payload.isPlain = true) :
      Move phase (h, s) (h, s.counted.accept event sink)
  | noted {h : Hand} {s : Replay K S} {headline : NewsHeadline}
      {eventId : String} (hevent : eventId ∈ s.eventIds) :
      Move phase (h, s) (h, s.noteHeadline headline eventId)
  | takenUp {s : Replay K S} {orderId : String}
      {working : SimulatedWorkingOrder} (hphase : phase.takes orderId)
      (hfind : s.engine.workingOrders[orderId]? = some working) :
      Move phase (none, s) (some (orderId, working), s.release orderId)
  | finished {s : Replay K S} {orderId : String}
      {working : SimulatedWorkingOrder}
      (hdone : ¬Decimal.zero < working.remainingQuantity) :
      Move phase (some (orderId, working), s) (none, s)
  | kept {s : Replay K S} {orderId : String}
      {working : SimulatedWorkingOrder}
      (hleft : Decimal.zero < working.remainingQuantity) :
      Move phase (some (orderId, working), s) (none, s.hold orderId working)
  | caused {s : Replay K S} {orderId : String}
      {working working' : SimulatedWorkingOrder}
      (horder : working'.order = working.order)
      (hremaining : working'.remainingQuantity = working.remainingQuantity)
      (hsequence : working'.fillSequence = working.fillSequence)
      (hevent : working'.causationId ∈ s.eventIds) :
      Move phase (some (orderId, working), s) (some (orderId, working'), s)
  | moved {s : Replay K S} {orderId : String}
      {working : SimulatedWorkingOrder} {next : OrderState} {reason : String}
      {event : EventEnvelope} {sink : K} (hissues : Issues s event)
      (haccepted : EventSink.append s.sink event = (.ok (), sink))
      (hvalid : isValidTransition working.order.state next = true)
      (hpayload : event.payload = .orderState
        ⟨working.order.orderId, some working.order.state, next, reason⟩) :
      Move phase (some (orderId, working), s)
        (some (orderId, inState working next event.eventId),
          s.counted.accept event sink)
  | filled {s : Replay K S} {orderId : String}
      {working : SimulatedWorkingOrder} {fill : Fill} {left : Decimal}
      {event : EventEnvelope} {sink : K} (hphase : phase.fills)
      (hissues : Issues s event)
      (haccepted : EventSink.append s.sink event = (.ok (), sink))
      (hfill : NextFill s.engine.fillModel working fill)
      (hleft : left.scaled = working.remainingQuantity.scaled - fill.quantity.scaled)
      (hpayload : event.payload = .fill fill) :
      Move phase (some (orderId, working), s)
        (some (orderId, { working with
            remainingQuantity := left
            fillSequence := working.fillSequence + 1 }),
          s.counted.accept event sink)
  | created {s : Replay K S} {intent : OrderIntent} {reason : String}
      {event : EventEnvelope} {sink : K} (hphase : phase.creates)
      (hissues : Issues s event)
      (haccepted : EventSink.append s.sink event = (.ok (), sink))
      (hvalid : intent.validate = .ok ())
      (hfree : OmsOrder.orderIdFor intent.intentId ∉ s.engine.workingOrders)
      (hpayload : event.payload = .orderState
        ⟨OmsOrder.orderIdFor intent.intentId, none, .created, reason⟩) :
      Move phase (none, s)
        (some (OmsOrder.orderIdFor intent.intentId, announced intent event.eventId),
          (s.counted.accept event sink).noteCreated intent)

abbrev Moves (phase : Phase) : Bench K S → Bench K S → Prop :=
  Runs (Move phase)

variable {phase : Phase} {b c : Bench K S}

variable {phase' : Phase}

theorem Move.mono (hwithin : phase.Within phase') (h : Move phase b c)
    : Move phase' b c := by
  cases h with
  | quiet hsame => exact .quiet hsame
  | consulted => exact .consulted
  | advanced htime => exact .advanced htime
  | refused hrefused => exact .refused hrefused
  | emitted hissues haccepted hplain =>
    exact .emitted hissues haccepted hplain
  | noted hevent => exact .noted hevent
  | takenUp hphase hfind => exact .takenUp (hwithin.takes _ hphase) hfind
  | finished hdone => exact .finished hdone
  | kept hleft => exact .kept hleft
  | caused horder hremaining hsequence hevent =>
    exact .caused horder hremaining hsequence hevent
  | moved hissues haccepted hvalid hpayload =>
    exact .moved hissues haccepted hvalid hpayload
  | filled hphase hissues haccepted hfill hleft hpayload =>
    exact .filled (hwithin.fills hphase) hissues haccepted hfill hleft
      hpayload
  | created hphase hissues haccepted hvalid hfree hpayload =>
    exact .created (hwithin.creates hphase) hissues haccepted hvalid hfree
      hpayload

theorem Moves.mono (hwithin : phase.Within phase') (h : Moves phase b c)
    : Moves phase' b c :=
  Relation.ReflTransGen.mono (fun _ _ => Move.mono hwithin) _ _ h

/-! ## Growth -/

omit [EventSink K] in
@[simp] theorem eventIds_accept (s : Replay K S) (event : EventEnvelope)
    (sink : K) : (s.accept event sink).eventIds = s.eventIds ++ [event.eventId] := by
  simp [eventIds, accept]

theorem Move.stream (h : Move phase b c) : b.2.stream <+: c.2.stream := by
  cases h with
  | emitted => exact List.prefix_append _ _
  | moved => exact List.prefix_append _ _
  | filled => exact List.prefix_append _ _
  | created => exact List.prefix_append _ _
  | _ => exact List.prefix_rfl

theorem Moves.stream (h : Moves phase b c) : b.2.stream <+: c.2.stream := by
  induction h with
  | refl => exact List.prefix_rfl
  | tail _ hmove ih => exact ih.trans hmove.stream

theorem Moves.eventIds (h : Moves phase b c) {eventId : String}
    (hid : eventId ∈ b.2.eventIds) : eventId ∈ c.2.eventIds :=
  (h.stream.map EventEnvelope.eventId).subset hid

/-! ## Programs -/

/-- A program makes moves only, and leaves `post` where it returns. -/
structure Follows {α : Type} (phase : Phase) (b : Bench K S)
    (x : ReplayM K S α) (post : α → Bench K S → Prop) : Prop where
  returns : ∀ a t, x.run b.2 = (.ok a, t) → ∃ h, Moves phase b (h, t) ∧ post a (h, t)
  fails : ∀ e t, x.run b.2 = (.error e, t) → ∃ h, Moves phase b (h, t)

namespace Follows

variable {α β : Type} {phase : Phase} {b : Bench K S}
  {post : α → Bench K S → Prop} {rest : β → Bench K S → Prop}

theorem pure {a : α} (h : post a b) :
    Follows phase b (Pure.pure a : ReplayM K S α) post where
  returns := by
    intro a' t hrun
    obtain ⟨hvalue, rfl⟩ := Prod.mk.inj hrun
    obtain rfl := Except.ok.inj hvalue
    exact ⟨b.1, .refl, h⟩
  fails := fun _ _ hrun => nomatch hrun

theorem fail {e : PaperError} :
    Follows phase b (Fallible.fail e : ReplayM K S α) post where
  returns := fun _ _ hrun => nomatch hrun
  fails := by
    intro e' t hrun
    obtain ⟨-, rfl⟩ := Prod.mk.inj hrun
    exact ⟨b.1, .refl⟩

variable {x : ReplayM K S α}

theorem after {c : Bench K S} (hmoves : Moves phase b c) (hstate : c.2 = b.2)
    (h : Follows phase c x post) : Follows phase b x post where
  returns := by
    intro a t hrun
    rw [← hstate] at hrun
    obtain ⟨h', hafter, hpost⟩ := h.returns a t hrun
    exact ⟨h', hmoves.trans hafter, hpost⟩
  fails := by
    intro e t hrun
    rw [← hstate] at hrun
    obtain ⟨h', hafter⟩ := h.fails e t hrun
    exact ⟨h', hmoves.trans hafter⟩

variable {f : α → ReplayM K S β} {g : Replay K S → Replay K S} {h : Hand}

theorem bind (hx : Follows phase b x post)
    (hf : ∀ a c, Moves phase b c → post a c → Follows phase c (f a) rest) :
    Follows phase b (x >>= f) rest where
  returns := by
    intro a t hrun
    obtain ⟨a', s, hfirst, hsecond⟩ := run_bind_eq_ok.mp hrun
    obtain ⟨h, hmoves, hpost⟩ := hx.returns a' s hfirst
    obtain ⟨h', hafter, hrest⟩ :=
      (hf a' (h, s) hmoves hpost).returns a t hsecond
    exact ⟨h', hmoves.trans hafter, hrest⟩
  fails := by
    intro e t hrun
    rcases run_bind_eq_error.mp hrun with hfirst |
      ⟨a', s, hfirst, hsecond⟩
    · exact hx.fails e t hfirst
    · obtain ⟨h, hmoves, hpost⟩ := hx.returns a' s hfirst
      obtain ⟨h', hafter⟩ := (hf a' (h, s) hmoves hpost).fails e t hsecond
      exact ⟨h', hmoves.trans hafter⟩

theorem read {f : Replay K S → ReplayM K S β} (h : Follows phase b (f b.2) rest) :
    Follows phase b (Fallible.read >>= f) rest :=
  ⟨h.returns, h.fails⟩

theorem update {f : Unit → ReplayM K S β} (hmove : Move phase b (h, g b.2))
    (hf : Follows phase (h, g b.2) (f ()) rest) :
    Follows phase b (Fallible.update g >>= f) rest where
  returns := by
    intro a t hrun
    obtain ⟨h', hafter, hrest⟩ := hf.returns a t hrun
    exact ⟨h', .head hmove hafter, hrest⟩
  fails := by
    intro e t hrun
    obtain ⟨h', hafter⟩ := hf.fails e t hrun
    exact ⟨h', .head hmove hafter⟩

theorem write {post : Unit → Bench K S → Prop}
    (hmove : Move phase b (h, g b.2)) (hpost : post () (h, g b.2)) :
    Follows phase b (Fallible.update g) post where
  returns := by
    intro a t hrun
    obtain ⟨-, rfl⟩ := Prod.mk.inj hrun
    exact ⟨h, .single hmove, hpost⟩
  fails := fun _ _ hrun => nomatch hrun

theorem lift {result : Result α} (h : ∀ a, result = .ok a → Follows phase b (f a) rest) :
    Follows phase b (Fallible.lift result >>= f) rest := by
  cases result with
  | ok a => exact h a rfl
  | error e =>
    have hfail : Follows phase b (Fallible.fail e : ReplayM K S β) rest := fail
    exact ⟨hfail.returns, hfail.fails⟩

theorem weaken {post' : α → Bench K S → Prop} (hx : Follows phase b x post)
    (h : ∀ a c, Moves phase b c → post a c → post' a c) : Follows phase b x post' where
  returns := by
    intro a t hrun
    obtain ⟨h', hmoves, hpost⟩ := hx.returns a t hrun
    exact ⟨h', hmoves, h a (h', t) hmoves hpost⟩
  fails := hx.fails

theorem also {Q : α → Replay K S → Prop} (hx : Follows phase b x post)
    (h : ∀ a t, x.run b.2 = (.ok a, t) → Q a t) :
    Follows phase b x (fun a c => post a c ∧ Q a c.2) where
  returns := by
    intro a t hrun
    obtain ⟨h', hmoves, hpost⟩ := hx.returns a t hrun
    exact ⟨h', hmoves, hpost, h a t hrun⟩
  fails := hx.fails

theorem mono {phase' : Phase} (hwithin : phase.Within phase')
    (hx : Follows phase b x post) : Follows phase' b x post where
  returns := by
    intro a t hrun
    obtain ⟨h', hmoves, hpost⟩ := hx.returns a t hrun
    exact ⟨h', hmoves.mono hwithin, hpost⟩
  fails := by
    intro e t hrun
    obtain ⟨h', hmoves⟩ := hx.fails e t hrun
    exact ⟨h', hmoves.mono hwithin⟩

theorem split {x : ReplayM K S α} {f : α → ReplayM K S β} {phase' : Phase}
    {result : Except PaperError β} {t : Replay K S} (hx : Follows phase b x post)
    (hf : ∀ a c, Moves phase b c → post a c → Follows phase' c (f a) rest)
    (hrun : (x >>= f).run b.2 = (result, t)) : (∃ h, Moves phase b (h, t)) ∨
      ∃ a c h, Moves phase b c ∧ post a c ∧ Moves phase' c (h, t) := by
  rcases hfirst : x.run b.2 with ⟨result', s⟩
  cases result' with
  | error e => 
      rw [run_bind_error hfirst] at hrun
      obtain ⟨-, rfl⟩ := Prod.mk.inj hrun
      exact .inl (hx.fails e s hfirst)
  | ok a =>
    rw [run_bind_ok hfirst] at hrun
    obtain ⟨h, hmoves, hpost⟩ := hx.returns a s hfirst
    have hafter := hf a (h, s) hmoves hpost
    refine .inr ⟨a, (h, s), ?_⟩
    cases result with
    | ok value =>
      obtain ⟨h', hrest, -⟩ := hafter.returns value t hrun
      exact ⟨h', hmoves, hpost, hrest⟩
    | error e =>
      obtain ⟨h', hrest⟩ := hafter.fails e t hrun
      exact ⟨h', hmoves, hpost, hrest⟩

theorem final (hx : Follows phase b x post) : ∃ h, Moves phase b (h, x.final b.2) := by
  rcases hrun : x.run b.2 with ⟨result, t⟩
  rw [final_eq hrun]
  cases result with
  | ok a =>
    obtain ⟨h, hmoves, -⟩ := hx.returns a t hrun
    exact ⟨h, hmoves⟩
  | error e => exact hx.fails e t hrun

end Follows

/-! ## Emissions -/

theorem emit_run (payload : EventPayload) (eventTime correlationId : String)
    (causationId : Option String) (actor source : String)
    (accountId strategyId instrumentId : Option String) (s : Replay K S) :
    (emit payload eventTime correlationId causationId actor source accountId
        strategyId instrumentId).run s
      = if u64Max ≤ s.engine.sequence then
          (.error ⟨"attempt to add with overflow"⟩, s)
        else
          let event := s.counted.engine.envelope payload eventTime
            correlationId causationId actor source accountId strategyId
            instrumentId
          match EventSink.append s.sink event with
          | (.ok (), sink) => (.ok event, s.counted.accept event sink)
          | (.error e, sink) => (.error e, s.counted.setSink sink) := by
  by_cases hfull : u64Max ≤ s.engine.sequence
  · have hcount : (countEvent : ReplayM K S Unit).run s
        = (.error ⟨"attempt to add with overflow"⟩, s) := by
      rw [countEvent, run_read_bind, refuseIf_eq_error.mpr ⟨hfull, rfl⟩]
      rfl
    rw [if_pos hfull, emit, run_bind_error hcount]
  · have hcount : (countEvent : ReplayM K S Unit).run s
        = (.ok (), s.counted) := by
      rw [countEvent, run_read_bind, refuseIf_of_not hfull]
      rfl
    rw [if_neg hfull, emit, run_bind_ok hcount, run_read_bind, Fallible.run_bind]
    simp only [append, Fallible.run]
    cases happend : EventSink.append s.counted.sink
        (s.counted.engine.envelope payload eventTime correlationId causationId
          actor source accountId strategyId instrumentId) with
    | mk result sink =>
      cases result <;>
        simp_all [counted, edit, Pure.pure, setSink]

section Emission

variable {payload : EventPayload} {eventTime correlationId : String}
  {causationId : Option String} {actor source : String}
  {accountId strategyId instrumentId : Option String} {s t : Replay K S}

theorem emit_returns {event : EventEnvelope}
    (hrun : (emit payload eventTime correlationId causationId actor source
      accountId strategyId instrumentId).run s = (.ok event, t)) :
    ∃ sink, event = s.counted.engine.envelope payload eventTime correlationId
        causationId actor source accountId strategyId instrumentId ∧
      EventSink.append s.sink event = (.ok (), sink) ∧
      t = s.counted.accept event sink := by
  rw [emit_run] at hrun
  split at hrun
  · exact absurd hrun nofun
  · dsimp only at hrun
    split at hrun
    · next sink happend =>
        obtain ⟨hvalue, rfl⟩ := Prod.mk.inj hrun
        obtain rfl := Except.ok.inj hvalue
        exact ⟨sink, rfl, happend, rfl⟩
    · exact absurd hrun nofun

theorem emit_fails {phase : Phase} (h : Hand) {e : PaperError}
    (hrun : (emit payload eventTime correlationId causationId actor source
      accountId strategyId instrumentId).run s = (.error e, t)) :
    Moves phase (h, s) (h, t) := by
  rw [emit_run] at hrun
  split at hrun
  · obtain ⟨-, rfl⟩ := Prod.mk.inj hrun
    exact .refl
  · dsimp only at hrun
    split at hrun
    · exact absurd hrun nofun
    · next sink happend =>
        obtain ⟨-, rfl⟩ := Prod.mk.inj hrun
        exact .single (.refused happend)

theorem emit_follows {phase : Phase} {h : Hand} (h' : String → Hand)
    (hmove : ∀ event sink,
      event = s.counted.engine.envelope payload eventTime correlationId
        causationId actor source accountId strategyId instrumentId →
      EventSink.append s.sink event = (.ok (), sink) →
      Move phase (h, s) (h' event.eventId, s.counted.accept event sink)) :
    Follows phase (h, s)
      (emit payload eventTime correlationId causationId actor source accountId
        strategyId instrumentId)
      (fun event c => c.1 = h' event.eventId ∧ event.eventId ∈ c.2.eventIds) where
  returns := by
    intro event t hrun
    obtain ⟨sink, hevent, happend, rfl⟩ := emit_returns hrun
    exact ⟨_, .single (hmove event sink hevent happend), rfl, by simp⟩
  fails := fun e t hrun => ⟨h, emit_fails h hrun⟩

end Emission

omit [EventSink K] in
theorem envelope_issues {s : Replay K S} {payload : EventPayload}
    {eventTime correlationId : String} {causationId : Option String}
    {actor source : String} {accountId strategyId instrumentId : Option String}
    (hcause : ∀ cause ∈ causationId, cause ∈ s.eventIds)
    (htime : payload.isNews = false → eventTime = s.engine.clock)
    (hbar : ∀ bar, payload = .marketBar bar → bar.validate = .ok ()) :
    Issues s (s.counted.engine.envelope payload eventTime correlationId
      causationId actor source accountId strategyId instrumentId) :=
  ⟨rfl, rfl, rfl, hcause, htime, hbar⟩

def Emitted (h : Hand) (event : EventEnvelope) (c : Bench K S) : Prop :=
  c.1 = h ∧ event.eventId ∈ c.2.eventIds

section Workflow

variable {phase : Phase} {h : Hand} {s : Replay K S}

variable {payload : EventPayload} {actor source : String}

theorem emitPlain_follows {eventTime correlationId : String}
    {causationId : Option String} {accountId strategyId instrumentId : Option String}
    (hplain : payload.isPlain = true) (hcause : ∀ cause ∈ causationId, cause ∈ s.eventIds)
    (htime : payload.isNews = false → eventTime = s.engine.clock)
    (hbar : ∀ bar, payload = .marketBar bar → bar.validate = .ok ()) :
    Follows phase (h, s)
      (emit payload eventTime correlationId causationId actor source accountId
        strategyId instrumentId) (Emitted h) := by
  refine emit_follows (fun _ => h) ?_
  rintro event sink rfl happend
  exact .emitted (envelope_issues hcause htime hbar) happend hplain

variable {intent : OrderIntent} {causationId : String} {fill : Fill}

theorem emitFor_follows {accountId : String} (hplain : payload.isPlain = true)
    (hbar : payload.isBar = false) (hcause : causationId ∈ s.eventIds) :
    Follows phase (h, s)
      (emitFor intent accountId payload causationId actor source)
      (Emitted h) := by
  refine .read (emitPlain_follows hplain ?_ (fun _ => rfl) ?_)
  · rintro cause hmem
    rwa [← Option.mem_some.mp hmem]
  · exact fun bar heq => absurd heq (EventPayload.ne_marketBar hbar bar)

theorem auditEvent_follows (events : List EventEnvelope) (summary : String)
    (hcause : causationId ∈ s.eventIds) :
    Follows phase (h, s) (auditEvent intent causationId events summary)
      (Emitted h) :=
  emitFor_follows rfl rfl hcause

/-! ## Orders in hand -/

variable {orderId : String} {working : SimulatedWorkingOrder}

def StillHeld (orderId : String) (order : OmsOrder) (attempt : Attempt)
    (c : Bench K S) : Prop :=
  c.1 = some (orderId, attempt.working) ∧ attempt.working.order.orderId = order.orderId

omit [EventSink K] in
theorem pureCaused_follows [EventSink K] {event : EventEnvelope}
    {events : List EventEnvelope} {projection : Option Projection}
    (hevent : event.eventId ∈ s.eventIds) : Follows phase (some (orderId, working), s)
      (pure ⟨{ working with causationId := event.eventId }, events,
        projection⟩ : ReplayM K S Attempt)
      (StillHeld orderId working.order) := by
  have hmove : Move phase (some (orderId, working), s)
      (some (orderId, { working with causationId := event.eventId }), s) :=
    .caused rfl rfl rfl hevent
  exact .after (.single hmove) rfl (.pure ⟨rfl, rfl⟩)

theorem restUnfilled_follows (events : List EventEnvelope)
    (hcause : working.causationId ∈ s.eventIds) :
    Follows phase (some (orderId, working), s) (restUnfilled events working)
      (StillHeld orderId working.order) := by
  refine .bind (auditEvent_follows _ _ hcause) ?_
  rintro event ⟨_, s'⟩ - ⟨rfl, hevent⟩
  exact pureCaused_follows hevent

theorem restNew_follows (events : List EventEnvelope) (resting : String)
    (hcause : working.causationId ∈ s.eventIds) :
    Follows phase (some (orderId, working), s)
      (restNew events working resting) (StillHeld orderId working.order) := by
  refine .bind (auditEvent_follows _ _ hcause) ?_
  rintro event ⟨_, s'⟩ - ⟨rfl, hevent⟩
  exact pureCaused_follows hevent

structure OnlyMoved (working working' : SimulatedWorkingOrder) : Prop where
  orderId : working'.order.orderId = working.order.orderId
  intent : working'.order.intent = working.order.intent
  remaining : working'.remainingQuantity = working.remainingQuantity
  sequence : working'.fillSequence = working.fillSequence

theorem emitOrderChange_follows {change : OrderStateChange} {next : OrderState}
    {reason : String} (hvalid : isValidTransition working.order.state next = true)
    (hchange : change
      = ⟨working.order.orderId, some working.order.state, next, reason⟩)
    (hcause : causationId ∈ s.eventIds) : Follows phase (some (orderId, working), s)
      (emitOrderChange intent causationId change)
      (fun event c => c.1 = some (orderId, inState working next event.eventId)
        ∧ event.eventId ∈ c.2.eventIds) := by
  refine .read (emit_follows
    (fun eventId => some (orderId, inState working next eventId)) ?_)
  rintro event sink rfl happend
  refine .moved (envelope_issues ?_ (fun _ => rfl) fun bar heq =>
    absurd heq (EventPayload.ne_marketBar rfl bar)) happend hvalid
    (congrArg EventPayload.orderState hchange)
  rintro cause hmem
  rwa [← Option.mem_some.mp hmem]

theorem recordMove_follows (events : List EventEnvelope) (state : OrderState)
    (hcause : working.causationId ∈ s.eventIds) :
    Follows phase (some (orderId, working), s)
      (recordMove events working state)
      (fun result c => c.1 = some (orderId, result.1) ∧
        OnlyMoved working result.1 ∧
        result.1.causationId ∈ c.2.eventIds) := by
  refine .lift fun (order, change) htransition => ?_
  obtain ⟨hvalid, rfl, hchange⟩ := OmsOrder.transition_eq_ok.mp htransition
  refine .bind (emitOrderChange_follows hvalid hchange hcause) ?_
  rintro event ⟨_, s'⟩ - ⟨rfl, hevent⟩
  exact .pure ⟨rfl, ⟨rfl, rfl, rfl, rfl⟩, hevent⟩

theorem moveForFill_follows (events : List EventEnvelope)
    (remainingAfterFill : Decimal) (hcause : working.causationId ∈ s.eventIds) :
    Follows phase (some (orderId, working), s)
      (moveForFill events working remainingAfterFill)
      (fun result c => c.1 = some (orderId, result.1) ∧
        OnlyMoved working result.1 ∧
        result.1.causationId ∈ c.2.eventIds) := by
  unfold moveForFill
  split
  · exact recordMove_follows events _ hcause
  · exact .pure ⟨rfl, ⟨rfl, rfl, rfl, rfl⟩, hcause⟩

theorem bookFill_follows (accountId instrumentId : String) (fill : Fill)
    (mark : Decimal) : Follows phase (h, s) (bookFill accountId instrumentId fill mark)
      (fun _ c => c.1 = h) := by
  refine .read (.update (.quiet ⟨rfl, rfl, rfl, rfl, rfl⟩) (.lift fun _ _ =>
    .update (.quiet ⟨rfl, rfl, rfl, rfl, rfl⟩) (.lift fun _ _ => ?_)))
  exact .pure rfl

theorem consult_follows {α : Type} (call : S → Result α × S) :
    Follows phase (h, s) (consult call : ReplayM K S α) (fun _ c => c.1 = h) where
  returns := by
    intro a t hrun
    obtain ⟨-, rfl⟩ := Prod.mk.inj hrun
    exact ⟨h, .single .consulted, rfl⟩
  fails := by
    intro e t hrun
    obtain ⟨-, rfl⟩ := Prod.mk.inj hrun
    exact ⟨h, .single .consulted⟩

theorem publishFill_follows (events : List EventEnvelope) (accountId : String)
    {fillEventId : String} (projection : Projection)
    (hcause : fillEventId ∈ s.eventIds) : Follows phase (some (orderId, working), s)
      (publishFill events accountId working fillEventId projection)
      (StillHeld orderId working.order) := by
  refine .bind (emitFor_follows rfl rfl hcause) ?_
  rintro position ⟨_, s₁⟩ - ⟨rfl, hposition⟩
  refine .bind (emitFor_follows rfl rfl hposition) ?_
  rintro pnl ⟨_, s₂⟩ - ⟨rfl, hpnl⟩
  refine .bind (auditEvent_follows _ _ hpnl) ?_
  rintro audit ⟨_, s₃⟩ - ⟨rfl, haudit⟩
  exact pureCaused_follows haudit

/-! ## Fills -/

omit [EventSink K] in
theorem DeterministicFillModel.fillQuantity_eq_some
    {model : DeterministicFillModel} {order : OmsOrder} {bar : Bar}
    {replayTime : String} {quantity : Decimal} {executionId : String}
    {tickSize : Option Decimal}
    (h : model.fillQuantity order bar replayTime quantity executionId tickSize
      = .ok (some fill)) : fill.orderId = order.orderId ∧ fill.quantity = quantity ∧
      fill.executionId = executionId ∧ 0 < quantity.scaled := by
  simp only [DeterministicFillModel.fillQuantity, bind_eq_ok, refuseIf_eq_ok,
    exists_const, not_or] at h
  obtain ⟨⟨hpositive, -⟩, base?, -, h⟩ := h
  cases base? with
  | none => cases h
  | some base =>
    simp only [bind_eq_ok, refuseIf_eq_ok, exists_const, pure_eq_ok] at h
    obtain ⟨adverse, -, price, -, -, h⟩ := h
    split at h
    · contradiction
    · obtain rfl := Option.some.inj h
      exact ⟨rfl, rfl, rfl, Int.not_le.mp hpositive⟩

omit [EventSink K] in
theorem NextFill.moved {model : DeterministicFillModel}
    {working' : SimulatedWorkingOrder} {fill : Fill}
    (h : NextFill model working fill) (hmoved : OnlyMoved working working') :
    NextFill model working' fill where
  order := h.order.trans hmoved.orderId.symm
  quantity := by
    rw [h.quantity, nextQuantity, nextQuantity, hmoved.remaining]
  positive := h.positive
  executionId := by
    rw [h.executionId, executionIdFor, executionIdFor, isSingleFullFill,
      isSingleFullFill, hmoved.intent, hmoved.remaining, hmoved.sequence]

theorem Move.fillModel {b c : Bench K S} (hmove : Move phase b c) :
    c.2.engine.fillModel = b.2.engine.fillModel := by
  cases hmove with
  | quiet hsame => exact hsame.fillModel
  | _ => rfl

theorem Moves.fillModel {b c : Bench K S} (hmoves : Moves phase b c) :
    c.2.engine.fillModel = b.2.engine.fillModel := by
  induction hmoves with
  | refl => rfl
  | tail _ hmove ih => exact hmove.fillModel.trans ih

variable [Strategy S]

theorem settleFill_follows (events : List EventEnvelope) (accountId : String)
    (bar : Bar) {left : Decimal} (hphase : phase.fills)
    (hcause : working.causationId ∈ s.eventIds)
    (hfill : NextFill s.engine.fillModel working fill)
    (hleft : working.remainingQuantity.checkedSub fill.quantity = .ok left) :
    Follows phase (some (orderId, working), s)
      (settleFill events accountId bar working fill left (working.fillSequence + 1))
      (StillHeld orderId working.order) := by
  have hissue : Follows phase (some (orderId, working), s)
      (emitFor working.order.intent accountId (.fill fill) working.causationId
        "simulator" "simulator")
      (fun event c => c.1 = some (orderId, { working with
          remainingQuantity := left
          fillSequence := working.fillSequence + 1 }) ∧
        event.eventId ∈ c.2.eventIds) := by
    refine .read (emit_follows (fun _ => some (orderId, _)) ?_)
    rintro event sink rfl happend
    refine .filled hphase (envelope_issues ?_ (fun _ => rfl) fun bar heq =>
      absurd heq (EventPayload.ne_marketBar rfl bar)) happend hfill
      (checkedSub_eq_ok.mp hleft) rfl
    rintro cause hmem
    rwa [← Option.mem_some.mp hmem]
  refine .bind hissue ?_
  rintro event ⟨_, s₁⟩ - ⟨rfl, hevent⟩
  refine .bind (bookFill_follows accountId _ fill bar.close) ?_
  rintro projection ⟨_, s₂⟩ hbooked rfl
  refine .bind (consult_follows _) ?_
  rintro u ⟨_, s₃⟩ htold rfl
  exact publishFill_follows _ accountId projection
    (htold.eventIds (hbooked.eventIds hevent))

theorem executeFill_follows (events : List EventEnvelope) (accountId : String)
    (bar : Bar) (hphase : phase.fills) (hcause : working.causationId ∈ s.eventIds)
    (hfill : NextFill s.engine.fillModel working fill) :
    Follows phase (some (orderId, working), s)
      (executeFill events accountId bar working fill (working.fillSequence + 1))
      (StillHeld orderId working.order) := by
  refine .lift fun left hleft => ?_
  refine .bind (moveForFill_follows events left hcause) ?_
  rintro ⟨working', events'⟩ ⟨_, s'⟩ hmoves ⟨rfl, hmoved, hcause'⟩
  have hfill' := hfill.moved hmoved
  rw [← hmoves.fillModel] at hfill'
  rw [← hmoved.remaining] at hleft
  have hsettled : Follows phase (some (orderId, working'), s')
      (settleFill events' accountId bar working' fill left
        (working'.fillSequence + 1)) (StillHeld orderId working'.order) :=
    settleFill_follows events' accountId bar hphase hcause' hfill' hleft
  rw [hmoved.sequence] at hsettled
  refine hsettled.weaken fun attempt c _ hpost => ?_
  exact ⟨hpost.1, hpost.2.trans hmoved.orderId⟩

theorem attemptSimulatedFill_follows (events : List EventEnvelope)
    (accountId : String) (bar : Bar) (reference : Option Instrument)
    (hphase : phase.fills) (hcause : working.causationId ∈ s.eventIds) :
    Follows phase (some (orderId, working), s)
      (attemptSimulatedFill events accountId bar working reference)
      (StillHeld orderId working.order) := by
  refine .read (.lift fun _ _ => .lift fun next hnext => .lift
    fun fill? hfill? => ?_)
  simp only [nextFillSequence, bind_eq_ok, refuseIf_eq_ok, exists_const, pure_eq_ok] at hnext
  obtain ⟨-, rfl⟩ := hnext
  cases fill? with
  | none => exact restUnfilled_follows events hcause
  | some fill =>
    obtain ⟨horder, hquantity, hid, hpositive⟩ :=
      DeterministicFillModel.fillQuantity_eq_some hfill?
    refine executeFill_follows events accountId bar hphase hcause
      ⟨horder, hquantity, ?_, ?_⟩
    · rw [hquantity]
      exact hpositive
    · rw [hid, hquantity]

end Workflow

end Replay

end Follon.ControlPlane
