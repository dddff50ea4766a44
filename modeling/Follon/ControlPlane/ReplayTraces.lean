import Follon.ControlPlane.ReplayStream

/-!
# The traces of replayed orders

What a stream says of one order: its state changes and its fills.  A fact
about an order that every event about it keeps holds in every run that uses no
intent id twice.
-/

namespace Follon.ControlPlane

open Foundation Domain

namespace EventPayload

def change? : EventPayload → Option OrderStateChange
  | orderState change => some change
  | _ => none

def fill? : EventPayload → Option Fill
  | fill booked => some booked
  | _ => none

def orderId? : EventPayload → Option String
  | orderState change => some change.orderId
  | fill booked => some booked.orderId
  | _ => none

variable {payload : EventPayload}

theorem plain (h : payload.isPlain = true) :
    payload.change? = none ∧ payload.fill? = none := by
  cases payload with
  | orderState => contradiction
  | fill => contradiction
  | _ => exact ⟨rfl, rfl⟩

theorem orderId?_plain (h : payload.isPlain = true) : payload.orderId? = none := by
  cases payload with
  | orderState => contradiction
  | fill => contradiction
  | _ => rfl

theorem orderId?_change {change : OrderStateChange}
    (h : payload.change? = some change) : payload.orderId? = some change.orderId := by
  cases payload with
  | orderState => rw [← Option.some.inj h]; rfl
  | _ => contradiction

theorem orderId?_fill {booked : Fill} (h : payload.fill? = some booked)
    : payload.orderId? = some booked.orderId := by
  cases payload with
  | fill => rw [← Option.some.inj h]; rfl
  | _ => contradiction

end EventPayload

/-! ## Streams read order by order -/

def changesIn (stream : List EventEnvelope) : List OrderStateChange :=
  stream.filterMap fun event => event.payload.change?

def fillsIn (stream : List EventEnvelope) : List Fill :=
  stream.filterMap fun event => event.payload.fill?

def changesOf (orderId : String) (stream : List EventEnvelope) : List OrderStateChange :=
  (changesIn stream).filter (·.orderId == orderId)

def fillsOf (orderId : String) (stream : List EventEnvelope) : List Fill :=
  (fillsIn stream).filter (·.orderId == orderId)

def creationsIn (stream : List EventEnvelope) : List String :=
  ((changesIn stream).filter (·.previousState.isNone)).map
    OrderStateChange.orderId

def filledBy (fills : List Fill) : Int := (fills.map fun fill => fill.quantity.scaled).sum

/-- The changes of an order from its creation to `state`, each legal. -/
inductive LegalPath (orderId : String) :
    List OrderStateChange → OrderState → Prop
  | created (reason : String) :
      LegalPath orderId [⟨orderId, none, .created, reason⟩] .created
  | moved {changes : List OrderStateChange} {state next : OrderState}
      (h : LegalPath orderId changes state) (reason : String)
      (hvalid : isValidTransition state next = true) :
      LegalPath orderId (changes ++ [⟨orderId, some state, next, reason⟩]) next

theorem LegalPath.created_once {orderId : String}
    {changes : List OrderStateChange} {state : OrderState}
    (h : LegalPath orderId changes state) :
    (changes.filter (·.previousState.isNone)).length = 1 := by
  induction h with
  | created => rfl
  | moved _ _ _ ih => simpa using ih

section Reading

variable {stream : List EventEnvelope} {event : EventEnvelope}
  {orderId : String}

@[simp] theorem changesIn_append (stream stream' : List EventEnvelope) :
    changesIn (stream ++ stream') = changesIn stream ++ changesIn stream' :=
  filterMap_append

@[simp] theorem fillsIn_append (stream stream' : List EventEnvelope) :
    fillsIn (stream ++ stream') = fillsIn stream ++ fillsIn stream' :=
  filterMap_append

@[simp] theorem changesOf_append (stream stream' : List EventEnvelope) :
    changesOf orderId (stream ++ stream')
      = changesOf orderId stream ++ changesOf orderId stream' := by
  simp [changesOf]

@[simp] theorem fillsOf_append (stream stream' : List EventEnvelope) :
    fillsOf orderId (stream ++ stream')
      = fillsOf orderId stream ++ fillsOf orderId stream' := by
  simp [fillsOf]

@[simp] theorem creationsIn_append (stream stream' : List EventEnvelope) :
    creationsIn (stream ++ stream')
      = creationsIn stream ++ creationsIn stream' := by
  simp [creationsIn]

@[simp] theorem filledBy_append (fills fills' : List Fill) :
    filledBy (fills ++ fills') = filledBy fills + filledBy fills' := by
  simp [filledBy]

theorem changesIn_single : changesIn [event] = event.payload.change?.toList := by
  cases h : event.payload.change? <;> simp [changesIn, h]

theorem fillsIn_single : fillsIn [event] = event.payload.fill?.toList := by
  cases h : event.payload.fill? <;> simp [fillsIn, h]

theorem changesOf_other (h : event.payload.orderId? ≠ some orderId) :
    changesOf orderId [event] = [] := by
  rw [changesOf, changesIn_single, List.filter_eq_nil_iff]
  intro change hchange hid
  have hpayload := EventPayload.orderId?_change (Option.mem_toList.mp hchange)
  rw [eq_of_beq hid] at hpayload
  exact h hpayload

theorem fillsOf_other (h : event.payload.orderId? ≠ some orderId) :
    fillsOf orderId [event] = [] := by
  rw [fillsOf, fillsIn_single, List.filter_eq_nil_iff]
  intro booked hfill hid
  have hpayload := EventPayload.orderId?_fill (Option.mem_toList.mp hfill)
  rw [eq_of_beq hid] at hpayload
  exact h hpayload

end Reading

/-! ## Orders and their traces -/

structure Traced (stream : List EventEnvelope)
    (working : SimulatedWorkingOrder) : Prop where
  path : LegalPath working.order.orderId
    (changesOf working.order.orderId stream) working.order.state
  conserved : filledBy (fillsOf working.order.orderId stream)
      + working.remainingQuantity.scaled
    = working.order.intent.quantity.scaled
  remaining : 0 ≤ working.remainingQuantity.scaled

structure SameTrace (working working' : SimulatedWorkingOrder) : Prop where
  order : working'.order = working.order
  remaining : working'.remainingQuantity = working.remainingQuantity
  sequence : working'.fillSequence = working.fillSequence

namespace Traced

variable {stream : List EventEnvelope} {event : EventEnvelope}
  {working working' : SimulatedWorkingOrder}

theorem same (h : Traced stream working) (hsame : SameTrace working working') :
    Traced stream working' := by
  obtain ⟨horder, hremaining, -⟩ := hsame
  constructor
  · rw [horder]
    exact h.path
  · rw [horder, hremaining]
    exact h.conserved
  · rw [hremaining]
    exact h.remaining

theorem frame (h : Traced stream working)
    (hother : event.payload.orderId? ≠ some working.order.orderId) :
    Traced (stream ++ [event]) working where
  path := by
    rw [changesOf_append, changesOf_other hother, append_nil]
    exact h.path
  conserved := by
    rw [fillsOf_append, fillsOf_other hother, append_nil]
    exact h.conserved
  remaining := h.remaining

theorem moved (h : Traced stream working) {next : OrderState} {reason : String}
    (hvalid : isValidTransition working.order.state next = true)
    (hpayload : event.payload = .orderState
      ⟨working.order.orderId, some working.order.state, next, reason⟩) :
    Traced (stream ++ [event]) (Replay.inState working next event.eventId) where
  path := by
    have hchange : changesOf working.order.orderId [event]
        = [⟨working.order.orderId, some working.order.state, next, reason⟩] := by
      simp [changesOf, changesIn, EventPayload.change?, hpayload]
    simp only [Replay.inState]
    rw [changesOf_append, hchange]
    exact h.path.moved reason hvalid
  conserved := by
    have hfill : fillsOf working.order.orderId [event] = [] := by
      simp [fillsOf, fillsIn, EventPayload.fill?, hpayload]
    simp only [Replay.inState]
    rw [fillsOf_append, hfill, append_nil]
    exact h.conserved
  remaining := h.remaining

theorem filled (h : Traced stream working) {booked : Fill} {left : Decimal}
    {fillSequence : Nat} (hid : booked.orderId = working.order.orderId)
    (hleft : left.scaled = working.remainingQuantity.scaled - booked.quantity.scaled)
    (henough : booked.quantity.scaled ≤ working.remainingQuantity.scaled)
    (hpayload : event.payload = .fill booked) : Traced (stream ++ [event])
      { working with remainingQuantity := left, fillSequence } where
  path := by
    have hchange : changesOf working.order.orderId [event] = [] := by
      simp [changesOf, changesIn, EventPayload.change?, hpayload]
    rw [changesOf_append, hchange, append_nil]
    exact h.path
  conserved := by
    have hfill : fillsOf working.order.orderId [event] = [booked] := by
      simp [fillsOf, fillsIn, EventPayload.fill?, hpayload, hid]
    have hbefore := h.conserved
    rw [fillsOf_append, hfill, filledBy_append]
    simp only [filledBy, map_cons, map_nil, sum_cons,
      List.sum_nil] at hbefore ⊢
    omega
  remaining := by
    change 0 ≤ left.scaled
    omega

theorem announced {intent : OrderIntent} {reason : String}
    (hvalid : intent.validate = .ok ()) (hpayload : event.payload = .orderState
      ⟨OmsOrder.orderIdFor intent.intentId, none, .created, reason⟩)
    (hchanges : changesOf (OmsOrder.orderIdFor intent.intentId) stream = [])
    (hfills : fillsOf (OmsOrder.orderIdFor intent.intentId) stream = []) :
    Traced (stream ++ [event]) (Replay.announced intent event.eventId) where
  path := by
    have hchange : changesOf (OmsOrder.orderIdFor intent.intentId) [event]
        = [⟨OmsOrder.orderIdFor intent.intentId, none, .created, reason⟩] := by
      simp [changesOf, changesIn, EventPayload.change?, hpayload]
    simp only [Replay.announced]
    rw [changesOf_append, hchanges, hchange]
    exact .created reason
  conserved := by
    have hfill : fillsOf (OmsOrder.orderIdFor intent.intentId) [event] = [] := by
      simp [fillsOf, fillsIn, EventPayload.fill?, hpayload]
    simp only [Replay.announced]
    rw [fillsOf_append, hfills, hfill]
    simp [filledBy]
  remaining := by
    exact Int.le_of_lt (OrderIntent.quantity_pos hvalid)

end Traced

/-! ## Facts about orders -/

theorem Replay.NextFill.le {model : DeterministicFillModel}
    {working : SimulatedWorkingOrder} {booked : Fill}
    (h : Replay.NextFill model working booked) :
    booked.quantity.scaled ≤ working.remainingQuantity.scaled := by
  rw [h.quantity, Replay.nextQuantity]
  split
  · rw [scaled_min]
    exact min_le_left _ _
  · exact Int.le_refl _

/-- A fact about an order and the stream that every event about the order
keeps, and every other event leaves alone. -/
structure TraceRule
    (P : DeterministicFillModel → List EventEnvelope →
      SimulatedWorkingOrder → Prop) : Prop where
  same : ∀ {model stream working working'}, P model stream working →
    SameTrace working working' → P model stream working'
  frame : ∀ {model stream working} {event : EventEnvelope}, P model stream working →
    event.payload.orderId? ≠ some working.order.orderId →
    P model (stream ++ [event]) working
  moved : ∀ {model stream working} {event : EventEnvelope}
      {next : OrderState} {reason : String},
    P model stream working →
    isValidTransition working.order.state next = true →
    event.payload = .orderState
      ⟨working.order.orderId, some working.order.state, next, reason⟩ →
    P model (stream ++ [event]) (Replay.inState working next event.eventId)
  filled : ∀ {model stream working} {event : EventEnvelope} {booked : Fill}
      {left : Decimal},
    P model stream working → Replay.NextFill model working booked →
    left.scaled = working.remainingQuantity.scaled - booked.quantity.scaled →
    event.payload = .fill booked →
    P model (stream ++ [event])
      { working with
        remainingQuantity := left, fillSequence := working.fillSequence + 1 }
  announced : ∀ {model stream} {event : EventEnvelope} {intent : OrderIntent}
      {reason : String},
    intent.validate = .ok () →
    event.payload = .orderState
      ⟨OmsOrder.orderIdFor intent.intentId, none, .created, reason⟩ →
    changesOf (OmsOrder.orderIdFor intent.intentId) stream = [] →
    fillsOf (OmsOrder.orderIdFor intent.intentId) stream = [] →
    P model (stream ++ [event]) (Replay.announced intent event.eventId)

theorem traced_rule : TraceRule fun _ => Traced where
  same := Traced.same
  frame := Traced.frame
  moved h hvalid hpayload := h.moved hvalid hpayload
  filled h hfill hleft hpayload :=
    h.filled hfill.order hleft hfill.le hpayload
  announced := Traced.announced

def DistinctIds (intents : List OrderIntent) : Prop :=
  (intents.map OrderIntent.intentId).Nodup

theorem DistinctIds.eq {intents : List OrderIntent} (h : DistinctIds intents)
    {intent intent' : OrderIntent} (hmem : intent ∈ intents)
    (hmem' : intent' ∈ intents) (hid : intent.intentId = intent'.intentId) :
    intent = intent' :=
  List.inj_on_of_nodup_map h hmem hmem' hid

theorem DistinctIds.of_prefix {intents intents' : List OrderIntent}
    (h : DistinctIds intents') (hpre : intents <+: intents') : DistinctIds intents :=
  (hpre.sublist.map _).nodup h

namespace Replay

variable {K S : Type}
  {P : DeterministicFillModel → List EventEnvelope → SimulatedWorkingOrder → Prop}

structure Known
    (P : DeterministicFillModel → List EventEnvelope → SimulatedWorkingOrder → Prop)
    (s : Replay K S) (working : SimulatedWorkingOrder) : Prop where
  identity : working.order.orderId = OmsOrder.orderIdFor working.order.intent.intentId
  intent : working.order.intent ∈ s.created
  fact : P s.engine.fillModel s.stream working

/-- Every order of the stream has the fact `P`, in the working set, in hand or
as it was last seen. -/
structure Orderly
    (P : DeterministicFillModel → List EventEnvelope → SimulatedWorkingOrder → Prop)
    (b : Bench K S) : Prop where
  working : ∀ (orderId : String) working,
    b.2.engine.workingOrders[orderId]? = some working →
      working.order.orderId = orderId ∧ Known P b.2 working
  hand : ∀ orderId working, b.1 = some (orderId, working) →
    working.order.orderId = orderId ∧ Known P b.2 working ∧
      orderId ∉ b.2.engine.workingOrders
  created : ∀ intent ∈ b.2.created,
    ∃ working, working.order.intent = intent ∧ Known P b.2 working
  stray : ∀ orderId, (∀ intent ∈ b.2.created,
      OmsOrder.orderIdFor intent.intentId ≠ orderId) →
    changesOf orderId b.2.stream = [] ∧ fillsOf orderId b.2.stream = []

section Orders

variable {h : Hand} {s t : Replay K S} {orderId : String}
  {working working' : SimulatedWorkingOrder} {event : EventEnvelope}

theorem Known.same (hknown : Known P s working)
    (hmodel : t.engine.fillModel = s.engine.fillModel)
    (hstream : t.stream = s.stream) (hcreated : t.created = s.created) :
    Known P t working := by
  refine ⟨hknown.identity, hcreated ▸ hknown.intent, ?_⟩
  rw [hmodel, hstream]
  exact hknown.fact

theorem Known.frame (hrule : TraceRule P) (hknown : Known P s working)
    (hmodel : t.engine.fillModel = s.engine.fillModel)
    (hstream : t.stream = s.stream ++ [event])
    (hcreated : ∀ intent ∈ s.created, intent ∈ t.created)
    (hother : event.payload.orderId? ≠ some working.order.orderId) :
    Known P t working := by
  refine ⟨hknown.identity, hcreated _ hknown.intent, ?_⟩
  rw [hmodel, hstream]
  exact hrule.frame hknown.fact hother

namespace Orderly

theorem quiet (horderly : Orderly P (h, s))
    (hmodel : t.engine.fillModel = s.engine.fillModel)
    (hworking : t.engine.workingOrders = s.engine.workingOrders)
    (hstream : t.stream = s.stream) (hcreated : t.created = s.created) :
    Orderly P (h, t) := by
  have hknown : ∀ {working}, Known P s working → Known P t working :=
    fun hknown => hknown.same hmodel hstream hcreated
  constructor
  · intro orderId working hfind
    rw [hworking] at hfind
    obtain ⟨hid, hfact⟩ := horderly.working orderId working hfind
    exact ⟨hid, hknown hfact⟩
  · intro orderId working hhand
    obtain ⟨hid, hfact, hfree⟩ := horderly.hand orderId working hhand
    exact ⟨hid, hknown hfact, hworking ▸ hfree⟩
  · intro intent hmem
    rw [hcreated] at hmem
    obtain ⟨working, hintent, hfact⟩ := horderly.created intent hmem
    exact ⟨working, hintent, hknown hfact⟩
  · intro orderId hother
    rw [hstream]
    exact horderly.stray orderId (hcreated ▸ hother)

theorem plain (hrule : TraceRule P) (horderly : Orderly P (h, s))
    (hmodel : t.engine.fillModel = s.engine.fillModel)
    (hworking : t.engine.workingOrders = s.engine.workingOrders)
    (hstream : t.stream = s.stream ++ [event]) (hcreated : t.created = s.created)
    (hplain : event.payload.orderId? = none) : Orderly P (h, t) := by
  have hknown : ∀ {working}, Known P s working → Known P t working :=
    fun hknown => hknown.frame hrule hmodel hstream
      (fun _ hmem => hcreated ▸ hmem) (by simp [hplain])
  constructor
  · intro orderId working hfind
    rw [hworking] at hfind
    obtain ⟨hid, hfact⟩ := horderly.working orderId working hfind
    exact ⟨hid, hknown hfact⟩
  · intro orderId working hhand
    obtain ⟨hid, hfact, hfree⟩ := horderly.hand orderId working hhand
    exact ⟨hid, hknown hfact, hworking ▸ hfree⟩
  · intro intent hmem
    rw [hcreated] at hmem
    obtain ⟨working, hintent, hfact⟩ := horderly.created intent hmem
    exact ⟨working, hintent, hknown hfact⟩
  · intro orderId hother
    obtain ⟨hchanges, hfills⟩ := horderly.stray orderId (hcreated ▸ hother)
    rw [hstream, changesOf_append, fillsOf_append,
      changesOf_other (by simp [hplain]), fillsOf_other (by simp [hplain])]
    simp [hchanges, hfills]

theorem advance (hrule : TraceRule P) (horderly : Orderly P (some (orderId, working), s))
    (hdistinct : DistinctIds s.created) (hmodel : t.engine.fillModel = s.engine.fillModel)
    (hworking : t.engine.workingOrders = s.engine.workingOrders)
    (hstream : t.stream = s.stream ++ [event]) (hcreated : t.created = s.created)
    (hevent : event.payload.orderId? = some working.order.orderId)
    (hid : working'.order.orderId = working.order.orderId)
    (hintent : working'.order.intent = working.order.intent)
    (hfact : P s.engine.fillModel (s.stream ++ [event]) working') :
    Orderly P (some (orderId, working'), t) := by
  obtain ⟨rfl, hheld, hfree⟩ := horderly.hand orderId working rfl
  have hothers : ∀ {other}, Known P s other →
      other.order.orderId ≠ working.order.orderId → Known P t other := by
    intro other hknown hother
    refine hknown.frame hrule hmodel hstream (fun _ hmem => hcreated ▸ hmem) ?_
    rw [hevent]
    exact fun hsame => hother (Option.some.inj hsame).symm
  have hknown : Known P t working' := by
    refine ⟨?_, ?_, ?_⟩
    · rw [hid, hintent]
      exact hheld.identity
    · rw [hintent, hcreated]
      exact hheld.intent
    · rw [hmodel, hstream]
      exact hfact
  constructor
  · intro orderId' other hfind
    rw [hworking] at hfind
    obtain ⟨rfl, hother⟩ := horderly.working orderId' other hfind
    refine ⟨rfl, hothers hother ?_⟩
    intro hsame
    rw [hsame] at hfind
    exact hfree (mem_iff_isSome_getElem?.mpr (by simp [hfind]))
  · intro orderId' other hhand
    obtain ⟨rfl, rfl⟩ := Prod.mk.inj (Option.some.inj hhand)
    exact ⟨hid, hknown, hworking ▸ hfree⟩
  · intro intent hmem
    rw [hcreated] at hmem
    obtain ⟨last, rfl, hlast⟩ := horderly.created intent hmem
    by_cases hsame : last.order.orderId = working.order.orderId
    · have hids := hsame
      rw [hlast.identity, hheld.identity] at hids
      have heq := hdistinct.eq hlast.intent hheld.intent
        (OmsOrder.orderIdFor_injective hids)
      exact ⟨working', hintent.trans heq.symm, hknown⟩
    · exact ⟨last, rfl, hothers hlast hsame⟩
  · intro orderId' hother
    rw [hcreated] at hother
    have hne : event.payload.orderId? ≠ some orderId' := by
      rw [hevent, hheld.identity]
      exact fun hsame => hother _ hheld.intent (Option.some.inj hsame)
    obtain ⟨hchanges, hfills⟩ := horderly.stray orderId' hother
    rw [hstream, changesOf_append, fillsOf_append, changesOf_other hne, fillsOf_other hne]
    simp [hchanges, hfills]

theorem announce (hrule : TraceRule P) (horderly : Orderly P (none, s))
    {intent : OrderIntent} {reason : String}
    (hmodel : t.engine.fillModel = s.engine.fillModel)
    (hworking : t.engine.workingOrders = s.engine.workingOrders)
    (hstream : t.stream = s.stream ++ [event])
    (hcreated : t.created = s.created ++ [intent])
    (hdistinct : DistinctIds t.created) (hvalid : intent.validate = .ok ())
    (hfree : OmsOrder.orderIdFor intent.intentId ∉ s.engine.workingOrders)
    (hpayload : event.payload = .orderState
      ⟨OmsOrder.orderIdFor intent.intentId, none, .created, reason⟩) :
    Orderly P (some (OmsOrder.orderIdFor intent.intentId,
      announced intent event.eventId), t) := by
  have hevent : event.payload.orderId?
      = some (OmsOrder.orderIdFor intent.intentId) := by
    rw [hpayload]
    rfl
  have hnew : ∀ earlier ∈ s.created, OmsOrder.orderIdFor earlier.intentId
      ≠ OmsOrder.orderIdFor intent.intentId := by
    intro earlier hmem hsame
    rw [DistinctIds, hcreated, map_append] at hdistinct
    have hid := OmsOrder.orderIdFor_injective hsame
    exact (List.disjoint_of_nodup_append hdistinct)
      (mem_map_of_mem hmem) (by simp [hid])
  have hothers : ∀ {other}, Known P s other → Known P t other := by
    intro other hknown
    refine hknown.frame hrule hmodel hstream ?_ ?_
    · intro earlier hmem
      simp [hcreated, hmem]
    · rw [hevent, hknown.identity]
      exact fun hsame => hnew _ hknown.intent (Option.some.inj hsame).symm
  have hnone := horderly.stray _ hnew
  have hknown : Known P t (announced intent event.eventId) := by
    refine ⟨rfl, by simp [hcreated, announced], ?_⟩
    rw [hmodel, hstream]
    exact hrule.announced hvalid hpayload hnone.1 hnone.2
  constructor
  · intro orderId other hfind
    rw [hworking] at hfind
    obtain ⟨rfl, hother⟩ := horderly.working orderId other hfind
    exact ⟨rfl, hothers hother⟩
  · intro orderId other hhand
    obtain ⟨rfl, rfl⟩ := Prod.mk.inj (Option.some.inj hhand)
    exact ⟨rfl, hknown, hworking ▸ hfree⟩
  · intro earlier hmem
    rw [hcreated, mem_append, mem_singleton] at hmem
    rcases hmem with hmem | rfl
    · obtain ⟨last, hintent, hlast⟩ := horderly.created earlier hmem
      exact ⟨last, hintent, hothers hlast⟩
    · exact ⟨_, rfl, hknown⟩
  · intro orderId hother
    have hne : event.payload.orderId? ≠ some orderId := by
      rw [hevent]
      exact fun hsame => hother intent (by simp [hcreated])
        (Option.some.inj hsame)
    obtain ⟨hchanges, hfills⟩ := horderly.stray orderId fun earlier hmem =>
      hother earlier (by simp [hcreated, hmem])
    rw [hstream, changesOf_append, fillsOf_append, changesOf_other hne, fillsOf_other hne]
    simp [hchanges, hfills]

variable {b : Bench K S}

theorem of_fill (horderly : Orderly P b) {booked : Fill}
    (hbooked : booked ∈ fillsIn b.2.stream) : ∃ working, Known P b.2 working ∧
      working.order.orderId = booked.orderId := by
  by_contra hnone
  push Not at hnone
  have hstray := (horderly.stray booked.orderId ?_).2
  · have hmem : booked ∈ fillsOf booked.orderId b.2.stream :=
      mem_filter.mpr ⟨hbooked, beq_self_eq_true _⟩
    rw [hstray] at hmem
    contradiction
  · intro intent hmem hsame
    obtain ⟨working, rfl, hworking⟩ := horderly.created intent hmem
    exact hnone working hworking (hworking.identity.trans hsame)

theorem drop (horderly : Orderly P (h, s)) : Orderly P (none, s) :=
  ⟨horderly.working, by simp, horderly.created, horderly.stray⟩

theorem takeUp (horderly : Orderly P (none, s))
    (hfind : s.engine.workingOrders[orderId]? = some working) :
    Orderly P (some (orderId, working), s.release orderId) where
  working := by
    intro orderId' other hother
    simp only [release, edit, getElem?_erase] at hother
    split at hother
    · contradiction
    · obtain ⟨hid, hknown⟩ := horderly.working orderId' other hother
      exact ⟨hid, hknown.same rfl rfl rfl⟩
  hand := by
    intro orderId' other hhand
    obtain ⟨rfl, rfl⟩ := Prod.mk.inj (Option.some.inj hhand)
    obtain ⟨hid, hknown⟩ := horderly.working orderId working hfind
    exact ⟨hid, hknown.same rfl rfl rfl, by simp [release, edit]⟩
  created := by
    intro intent hmem
    obtain ⟨last, hintent, hlast⟩ := horderly.created intent hmem
    exact ⟨last, hintent, hlast.same rfl rfl rfl⟩
  stray := horderly.stray

theorem keep (horderly : Orderly P (some (orderId, working), s)) :
    Orderly P (none, s.hold orderId working) where
  working := by
    intro orderId' other hfind
    simp only [hold, edit, getElem?_insert] at hfind
    split at hfind
    · next hsame =>
        obtain rfl := Option.some.inj hfind
        obtain ⟨hid, hknown, -⟩ := horderly.hand orderId working rfl
        exact ⟨hid.trans (Std.LawfulEqCmp.eq_of_compare hsame), hknown.same rfl rfl rfl⟩
    · obtain ⟨hid, hknown⟩ := horderly.working orderId' other hfind
      exact ⟨hid, hknown.same rfl rfl rfl⟩
  hand := by simp
  created := by
    intro intent hmem
    obtain ⟨last, hintent, hlast⟩ := horderly.created intent hmem
    exact ⟨last, hintent, hlast.same rfl rfl rfl⟩
  stray := horderly.stray

theorem retouch (hrule : TraceRule P) (horderly : Orderly P (some (orderId, working), s))
    (hsame : SameTrace working working') : Orderly P (some (orderId, working'), s) where
  working := horderly.working
  hand := by
    intro orderId' other hhand
    obtain ⟨rfl, rfl⟩ := Prod.mk.inj (Option.some.inj hhand)
    obtain ⟨hid, hknown, hfree⟩ := horderly.hand orderId working rfl
    refine ⟨hsame.order ▸ hid, ?_, hfree⟩
    exact ⟨hsame.order ▸ hknown.identity, hsame.order ▸ hknown.intent,
      hrule.same hknown.fact hsame⟩
  created := horderly.created
  stray := horderly.stray

variable [EventSink K]

theorem move {phase : Phase} {c : Bench K S} (hrule : TraceRule P)
    (hmove : Move phase b c) (hdistinct : DistinctIds c.2.created)
    (horderly : Orderly P b) : Orderly P c := by
  cases hmove with
  | quiet hsame =>
    exact horderly.quiet hsame.fillModel hsame.working rfl rfl
  | consulted => exact horderly.quiet rfl rfl rfl rfl
  | advanced => exact horderly.quiet rfl rfl rfl rfl
  | refused => exact horderly.quiet rfl rfl rfl rfl
  | noted => exact horderly.quiet rfl rfl rfl rfl
  | emitted _ _ hplain =>
    exact horderly.plain hrule rfl rfl rfl rfl
      (EventPayload.orderId?_plain hplain)
  | takenUp _ hfind => exact horderly.takeUp hfind
  | finished => exact horderly.drop
  | kept => exact horderly.keep
  | caused horder hremaining hsequence =>
    exact horderly.retouch hrule ⟨horder, hremaining, hsequence⟩
  | moved _ _ hvalid hpayload =>
    obtain ⟨-, hknown, -⟩ := horderly.hand _ _ rfl
    refine horderly.advance hrule hdistinct rfl rfl rfl rfl ?_ rfl rfl
      (hrule.moved hknown.fact hvalid hpayload)
    rw [hpayload]
    rfl
  | filled _ _ _ hfill hleft hpayload =>
    obtain ⟨-, hknown, -⟩ := horderly.hand _ _ rfl
    refine horderly.advance hrule hdistinct rfl rfl rfl rfl ?_ rfl rfl
      (hrule.filled hknown.fact hfill hleft hpayload)
    rw [hpayload, ← hfill.order]
    rfl
  | created _ _ _ hvalid hfree hpayload =>
    exact horderly.announce hrule rfl rfl rfl rfl hdistinct hvalid hfree
      hpayload

end Orderly

variable {phase : Phase} {b c : Bench K S}

theorem Move.intents [EventSink K] (hmove : Move phase b c)
    : b.2.created <+: c.2.created := by
  cases hmove with
  | created => exact List.prefix_append _ _
  | _ => exact List.prefix_rfl

theorem Moves.intents [EventSink K] (hmoves : Moves phase b c)
    : b.2.created <+: c.2.created := by
  induction hmoves with
  | refl => exact List.prefix_rfl
  | tail _ hmove ih => exact ih.trans hmove.intents

theorem Moves.orderly [EventSink K] (hrule : TraceRule P)
    (hmoves : Moves phase b c) (hdistinct : DistinctIds c.2.created)
    (horderly : Orderly P b) : Orderly P c := by
  induction hmoves with
  | refl => exact horderly
  | tail _ hmove ih =>
    exact (ih (DistinctIds.of_prefix hdistinct hmove.intents)).move hrule hmove hdistinct

theorem Replayed.orderly [EventSink K] [Strategy S] (hrule : TraceRule P)
    (hs : Replayed s) (hdistinct : DistinctIds s.created) : Orderly P (none, s) := by
  refine Replayed.keeps
    (I := fun b => DistinctIds b.2.created → Orderly P b) ?_ ?_ ?_ hs hdistinct
  · rintro s ⟨⟨_, _, _, _, _, hnew⟩, hstream, hcreated⟩ -
    simp only [ReplayEngine.new, bind_eq_ok, pure_eq_ok] at hnew
    obtain ⟨_, -, _, -, _, -, _, -, hengine⟩ := hnew
    refine ⟨?_, by simp, by simp [hcreated], ?_⟩
    · simp [← hengine]
    · intro orderId _
      rw [hstream]
      exact ⟨rfl, rfl⟩
  · exact fun h s horderly hdistinct => (horderly hdistinct).drop
  · exact fun b c horderly hmove hdistinct =>
      (horderly (DistinctIds.of_prefix hdistinct hmove.intents)).move hrule hmove hdistinct

end Orders

end Replay

end Follon.ControlPlane
