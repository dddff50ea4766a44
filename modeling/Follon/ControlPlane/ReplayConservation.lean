import Follon.ControlPlane.ReplayTraces

/-!
# What replay streams conserve

While no intent id is used twice, the orders of a stream follow their
lifecycle, fill no more than their quantity, and not on the bar that creates
them.
-/

namespace Follon.ControlPlane

open Foundation Domain

namespace Replay

variable {K S : Type}

/-! ## Creations -/

def Recorded (s : Replay K S) : Prop :=
  creationsIn s.stream
    = s.created.map fun intent => OmsOrder.orderIdFor intent.intentId

section Creations

variable [EventSink K] {s t u : Replay K S} {h : Hand}

variable {b c : Bench K S} {takes : String → Prop} {booked : Fill}

theorem Recorded.move {phase : Phase} (hmove : Move phase b c)
    (hrecorded : Recorded b.2) : Recorded c.2 := by
  have hlast : ∀ {s t : Replay K S} {event : EventEnvelope},
      Recorded s → t.stream = s.stream ++ [event] → t.created = s.created →
      creationsIn [event] = [] → Recorded t := by
    intro s t event hrecorded hstream hcreated hnone
    rw [Recorded, hstream, hcreated, creationsIn_append, hnone, append_nil]
    exact hrecorded
  cases hmove with
  | emitted _ _ hplain =>
    refine hlast hrecorded rfl rfl ?_
    rw [creationsIn, changesIn_single, (EventPayload.plain hplain).1]
    rfl
  | moved _ _ _ hpayload =>
    refine hlast hrecorded rfl rfl ?_
    rw [creationsIn, changesIn_single, hpayload]
    rfl
  | filled _ _ _ _ _ hpayload =>
    refine hlast hrecorded rfl rfl ?_
    rw [creationsIn, changesIn_single, hpayload]
    rfl
  | created _ _ _ _ _ hpayload =>
    simp only [Recorded, noteCreated, accept, creationsIn_append,
      map_append, map_cons, map_nil]
    congr 1
    rw [creationsIn, changesIn_single, hpayload]
    rfl
  | _ => exact hrecorded

theorem Replayed.recorded [Strategy S] (hs : Replayed s) : Recorded s := by
  refine Replayed.keeps (I := fun b => Recorded b.2) ?_ (fun _ _ h => h)
    (fun _ _ h hmove => h.move hmove) hs
  rintro s ⟨-, hstream, hcreated⟩
  rw [Recorded, hstream, hcreated]
  rfl

theorem Moves.matching (hmoves : Moves (.matching takes) b c)
    : c.2.created = b.2.created := by
  induction hmoves with
  | refl => rfl
  | tail _ hmove ih =>
    cases hmove with
    | created hphase => exact hphase.elim
    | _ => exact ih

theorem Moves.answering (hmoves : Moves .answering b c) :
    fillsIn c.2.stream = fillsIn b.2.stream := by
  have hlast : ∀ {stream : List EventEnvelope} {event : EventEnvelope},
      event.payload.fill? = none →
      fillsIn (stream ++ [event]) = fillsIn stream := by
    intro stream event hnone
    rw [fillsIn_append, fillsIn_single, hnone]
    exact append_nil _
  induction hmoves with
  | refl => rfl
  | tail _ hmove ih =>
    cases hmove with
    | filled hphase => exact hphase.elim
    | emitted _ _ hplain =>
      exact (hlast (EventPayload.plain hplain).2).trans ih
    | moved _ _ _ hpayload =>
      exact (hlast (by rw [hpayload]; rfl)).trans ih
    | created _ _ _ _ _ hpayload =>
      exact (hlast (by rw [hpayload]; rfl)).trans ih
    | _ => exact ih

theorem filled_before [Strategy S] (hs : Replayed s)
    (hmatched : Moves (.matching takes) (none, s) (h, u))
    (hdistinct : DistinctIds s.created) (hfill : booked ∈ fillsIn u.stream) :
    ∃ intent ∈ s.created, OmsOrder.orderIdFor intent.intentId
      = booked.orderId := by
  have hcreated : u.created = s.created := hmatched.matching
  have horderly : Orderly (fun _ => Traced) (h, u) :=
    hmatched.orderly traced_rule (hcreated ▸ hdistinct)
      (Replayed.orderly traced_rule hs hdistinct)
  obtain ⟨working, hknown, hid⟩ := horderly.of_fill hfill
  have hintent := hknown.intent
  rw [hcreated] at hintent
  exact ⟨working.order.intent, hintent, hknown.identity.symm.trans hid⟩

theorem separate [Strategy S] (hs : Replayed s) {new : List EventEnvelope}
    {accountId : String} {bar : Bar} (hcalled : BarPhases accountId bar s t)
    (hrecorded : Recorded t) (hdistinct : DistinctIds t.created)
    (hnew : t.stream = s.stream ++ new) (hfill : booked ∈ fillsIn new)
    : booked.orderId ∉ creationsIn new := by
  have hbefore : s.created <+: t.created ∧ ∃ intent ∈ s.created,
      OmsOrder.orderIdFor intent.intentId = booked.orderId := by
    have hfilled : booked ∈ fillsIn t.stream := by
      rw [hnew, fillsIn_append]
      exact mem_append_right _ hfill
    rcases hcalled with ⟨h, hmatched⟩ | ⟨u, h, hmatched, hanswered⟩
    · have hpre := hmatched.intents
      exact ⟨hpre, filled_before hs hmatched
        (DistinctIds.of_prefix hdistinct hpre) hfilled⟩
    · have hpre := hmatched.intents.trans hanswered.intents
      have hfills : fillsIn t.stream = fillsIn u.stream := hanswered.answering
      rw [hfills] at hfilled
      exact ⟨hpre, filled_before hs hmatched
        (DistinctIds.of_prefix hdistinct hpre) hfilled⟩
  obtain ⟨⟨later, hlater⟩, intent, hintent, hid⟩ := hbefore
  have hcreations : creationsIn new
      = later.map fun intent => OmsOrder.orderIdFor intent.intentId := by
    have hall := hrecorded
    rw [Recorded, hnew, ← hlater, creationsIn_append, map_append,
      Replayed.recorded hs] at hall
    exact List.append_cancel_left hall
  rw [hcreations, ← hid, mem_map]
  rintro ⟨again, hagain, hsame⟩
  rw [DistinctIds, ← hlater, map_append] at hdistinct
  refine List.disjoint_of_nodup_append hdistinct
    (mem_map_of_mem hintent) ?_
  rw [← OmsOrder.orderIdFor_injective hsame]
  exact mem_map_of_mem hagain

end Creations

end Replay

/-! ## Whole runs -/

def ReplayOperation.barOf : ReplayOperation → Option (String × Bar)
  | replayBar accountId _ bar _ | processBar accountId _ bar _ =>
    some (accountId, bar)
  | _ => none

namespace Replay

variable [EventSink K] [Strategy S] {s : Replay K S}

structure Conserving (s : Replay K S) : Prop where
  path : ∀ intent ∈ s.created, ∃ state, LegalPath (OmsOrder.orderIdFor intent.intentId)
      (changesOf (OmsOrder.orderIdFor intent.intentId) s.stream) state
  filled : ∀ intent ∈ s.created,
    filledBy (fillsOf (OmsOrder.orderIdFor intent.intentId) s.stream)
      ≤ intent.quantity.scaled
  remaining : ∀ (orderId : String) working,
    s.engine.workingOrders[orderId]? = some working → working.order.intent ∈ s.created ∧
        orderId = OmsOrder.orderIdFor working.order.intent.intentId ∧
          working.remainingQuantity.scaled = working.order.intent.quantity.scaled
              - filledBy (fillsOf orderId s.stream)
  others : ∀ orderId, (∀ intent ∈ s.created,
      OmsOrder.orderIdFor intent.intentId ≠ orderId) →
    changesOf orderId s.stream = [] ∧ fillsOf orderId s.stream = []

def Separating (s : Replay K S) : Prop :=
  ∀ operation : ReplayOperation, operation.barOf.isSome = true →
    DistinctIds ((execute operation).final s).created →
    ∀ new, ((execute operation).final s).stream = s.stream ++ new →
      ∀ booked ∈ fillsIn new, booked.orderId ∉ creationsIn new

omit [EventSink K] [Strategy S] in
theorem Known.filled {working : SimulatedWorkingOrder}
    (hknown : Known (fun _ => Traced) s working) :
    filledBy (fillsOf working.order.orderId s.stream)
      = working.order.intent.quantity.scaled
        - working.remainingQuantity.scaled :=
  eq_sub_of_add_eq hknown.fact.conserved

omit [EventSink K] [Strategy S] in
theorem Orderly.conserving (h : Orderly (fun _ => Traced) (none, s)) : Conserving s where
  path := by
    intro intent hmem
    obtain ⟨working, rfl, hknown⟩ := h.created intent hmem
    exact ⟨_, hknown.identity ▸ hknown.fact.path⟩
  filled := by
    intro intent hmem
    obtain ⟨working, rfl, hknown⟩ := h.created intent hmem
    have hfilled : filledBy (fillsOf working.order.orderId s.stream)
        = working.order.intent.quantity.scaled
          - working.remainingQuantity.scaled := hknown.filled
    have hremaining := hknown.fact.remaining
    rw [hknown.identity] at hfilled
    omega
  remaining := by
    intro orderId working hfind
    obtain ⟨rfl, hknown⟩ := h.working orderId working hfind
    refine ⟨hknown.intent, hknown.identity, ?_⟩
    have hfilled : filledBy (fillsOf working.order.orderId s.stream)
        = working.order.intent.quantity.scaled
          - working.remainingQuantity.scaled := hknown.filled
    omega
  others := h.stray

theorem execute_barOf {operation : ReplayOperation} {accountId : String}
    {bar : Bar} (hbar : operation.barOf = some (accountId, bar))
    (hcaused : Caused ((none, s) : Bench K S)) :
    BarPhases accountId bar s ((execute operation).final s) := by
  cases operation with
  | replayBar accountId' eventTime bar' reference =>
    obtain ⟨rfl, rfl⟩ := Prod.mk.inj (Option.some.inj hbar)
    rw [execute, final_discard]
    exact replayBar_phases hcaused (Prod.eta _).symm
  | processBar accountId' eventTime bar' market =>
    obtain ⟨rfl, rfl⟩ := Prod.mk.inj (Option.some.inj hbar)
    rw [execute, final_discard]
    unfold processBarWithMarketPreconditions
    cases market.validate bar' eventTime with
    | error e => exact .inl ⟨none, .refl⟩
    | ok reference => exact replayBar_phases hcaused (Prod.eta _).symm
  | _ => contradiction

/-- While no two orders come of one intent id, a stream is causal, its orders
follow their lifecycle and conserve their quantity, and no bar fills an order
it creates. -/
theorem streams_conserve (hs : Replayed s) (hdistinct : DistinctIds s.created) :
    InOrder s.stream ∧ Conserving s ∧ Separating s := by
  refine ⟨(Replayed.upToDate hs).inOrder,
    (Replayed.orderly traced_rule hs hdistinct).conserving, ?_⟩
  intro operation hsome hafter new hnew booked hfill
  obtain ⟨⟨accountId, bar⟩, hbar⟩ := isSome_iff_exists.mp hsome
  exact separate hs (execute_barOf hbar (Replayed.caused hs))
    (Replayed.recorded (.step hs (.operate s operation))) hafter hnew hfill

end Replay

/-! ## A strategy that uses an intent id twice -/

structure Script where
  answers : List (Option OrderIntent)

instance : Strategy Script where
  onBar script _ _ := (.ok (script.answers.head?.join), ⟨script.answers.tail⟩)

namespace Session

def cent : Decimal := ⟨1000000, by decide, by decide⟩

def dollar : Decimal := .one

def ten : Decimal := .ten

def hundred : Decimal := .hundred

def policy : RiskPolicy where
  version := "risk-1"
  globalKillSwitch := false
  maxQuantity := hundred
  maxNotional := ⟨100000000000000, by decide, by decide⟩
  maxPriceDeviationBps := hundred
  maxNewsSlippageBps := none
  maxNewsSpreadMultiplierBps := none

def fillModel : DeterministicFillModel :=
  ⟨Decimal.zero, Decimal.zero, Decimal.zero, 1, none⟩

def engine (cap : Option Decimal) : ReplayEngine where
  clock := "2026-01-05T14:29:00Z"
  softwareVersion := "1"
  configurationVersion := "1"
  sequence := 0
  barSequence := 0
  policy := policy
  fillModel := { fillModel with maxFillQuantity := cap }
  portfolios := ∅
  workingOrders := ∅
  corporateActionIds := ∅
  newsHeadlines := ∅
  newsSentimentEventIds := ∅

def start (cap : Option Decimal) (answers : List (Option OrderIntent)) :
    Replay InMemoryEventStore Script :=
  ⟨engine cap, ⟨[], []⟩, ⟨answers⟩, [], []⟩

theorem start_constructed {cap : Option Decimal}
    (hcap : ∀ quantity ∈ cap, Decimal.zero < quantity)
    (answers : List (Option OrderIntent)) : Replay.Constructed (start cap answers) := by
  have hmodel : (engine cap).fillModel.validate = .ok () := by
    cases cap with
    | none => decide
    | some quantity =>
      have hpositive : 0 < quantity.scaled := hcap quantity rfl
      simp only [DeterministicFillModel.validate, bind_eq_ok, refuseIf_eq_ok]
      refine ⟨_, rfl, _, rfl, _, rfl, _, rfl, ?_⟩
      simp only [engine, fillModel, le_def, lt_def,
        scaled_zero, Option.mem_some, exists_eq_left']
      simp [Decimal.scale]
      omega
  refine ⟨⟨"2026-01-05T14:29:00Z", "1", "1", policy, (engine cap).fillModel,
    ?_⟩, rfl, rfl⟩
  simp only [ReplayEngine.new, bind_eq_ok]
  exact ⟨(), by decide, (), by decide, (), hmodel, (), by decide, rfl⟩

def intent : OrderIntent where
  intentId := "intent-1"
  accountId := "acct-1"
  strategyId := "strategy-1"
  instrumentId := "aapl"
  correlationId := "correlation-1"
  side := .buy
  quantity := ten
  orderType := .market
  limitPrice := none
  timeInForce := .day
  rationale := "entry"
  createdAt := "2026-01-05T14:30:00Z"
  strategyVersion := "1"
  configurationVersion := "1"
  environment := "BACKTEST"

def bar : Bar := ⟨"aapl", hundred, hundred, hundred, hundred, ten, 60, "America/New_York"⟩

def market : MarketPreconditions where
  instruments := ⟨fun _ =>
    [⟨⟨"aapl", cent, dollar, "nyse"⟩, "2026-01-01T00:00:00Z",
        some "2026-01-05T14:32:00Z"⟩,
      ⟨⟨"aapl", dollar, dollar, "nyse"⟩, "2026-01-05T14:32:00Z", none⟩]⟩
  calendar := ⟨"nyse", fun _ _ => true⟩

def barAt (time : String) : ReplayOperation := .processBar "acct-1" time bar market

def play (s : Replay InMemoryEventStore Script) (times : List String) :
    Replay InMemoryEventStore Script :=
  times.foldl (fun s time => (Replay.execute (barAt time)).final s) s

theorem replayed_play {s : Replay InMemoryEventStore Script}
    (hs : Replay.Replayed s) (times : List String) : Replay.Replayed (play s times) := by
  induction times generalizing s with
  | nil => exact hs
  | cons time rest ih => exact ih (.step hs (.operate s (barAt time)))

def minutes : List String :=
  ["2026-01-05T14:30:00Z", "2026-01-05T14:31:00Z", "2026-01-05T14:32:00Z"]

/-- One order, created on the first bar and filled on the second. -/
theorem streams_conserve_one_order :
    ∃ s : Replay InMemoryEventStore Script, (fillsIn s.stream).length = 1 ∧
      InOrder s.stream ∧ Replay.Conserving s ∧ Replay.Separating s := by
  obtain ⟨s, hs, hfilled, hids⟩ : ∃ s : Replay InMemoryEventStore Script,
      Replay.Replayed s ∧ (fillsIn s.stream).length = 1 ∧
        s.created.map OrderIntent.intentId = ["intent-1"] :=
    ⟨play (start none [some intent]) (minutes.take 2),
      replayed_play (.init (start_constructed (by simp) _)) _,
      by decide +kernel⟩
  refine ⟨s, hfilled, Replay.streams_conserve hs ?_⟩
  rw [DistinctIds, hids]
  exact List.nodup_singleton _

theorem reused_run : ∃ s : Replay InMemoryEventStore Script, Replay.Replayed s ∧
      s.created = [intent, intent] ∧
      creationsIn s.stream = ["order-intent-1", "order-intent-1"] ∧
      ((changesOf "order-intent-1" s.stream).filter (·.previousState.isNone)).length = 2 ∧
      (fillsOf "order-intent-1" s.stream).map Fill.executionId
        = ["exec-intent-1", "exec-intent-1"] ∧
      (fillsOf "order-intent-1" s.stream).map Fill.quantity = [ten, ten] :=
  ⟨play (start none [some intent, some intent]) minutes,
    replayed_play (.init (start_constructed (by simp) _)) _,
    by decide +kernel⟩

/-- The reused id starts the order's lifecycle anew and fills twice its
quantity. -/
theorem reused_intent_breaks_conservation :
    ∃ s : Replay InMemoryEventStore Script, Replay.Replayed s ∧ ∃ intent ∈ s.created,
        (∀ state, ¬LegalPath (OmsOrder.orderIdFor intent.intentId)
          (changesOf (OmsOrder.orderIdFor intent.intentId) s.stream) state) ∧
        intent.quantity.scaled < filledBy
              (fillsOf (OmsOrder.orderIdFor intent.intentId) s.stream) := by
  obtain ⟨s, hs, hcreated, -, htwice, -, hquantities⟩ := reused_run
  refine ⟨s, hs, intent, by simp [hcreated], fun state hpath => ?_, ?_⟩
  · have honce := htwice.symm.trans hpath.created_once
    contradiction
  · have hfilled : filledBy (fillsOf "order-intent-1" s.stream)
        = (([ten, ten] : List Decimal).map Decimal.scaled).sum := by
      rw [filledBy, ← hquantities, map_map]
      rfl
    have hid : OmsOrder.orderIdFor intent.intentId = "order-intent-1" := rfl
    rw [hid, hfilled]
    decide

end Session

end Follon.ControlPlane
