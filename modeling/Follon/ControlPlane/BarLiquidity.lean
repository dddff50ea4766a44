import Follon.ControlPlane.FailedBars
import Follon.Foundation.Accrual
import Follon.Foundation.MapTotals
import Mathlib.Algebra.Order.BigOperators.Group.List

/-!
# The fills of a bar

The cap of the fill model holds order by order.  A bar fills of every eligible
order it reaches as much as the cap admits, so all its fills together come to
the sum of what it owes them.
-/

namespace Follon.ControlPlane

open Foundation Domain

/-! ## Prices -/

namespace DeterministicFillModel

def priceOn (model : DeterministicFillModel) (intent : OrderIntent) (bar : Bar)
    (tickSize : Option Decimal) : Result (Option Decimal) := do
  match ← basePrice intent bar with
  | none => pure none
  | some base => do
    let adverse ← model.adversePrice intent.side base
    let price ← onGrid intent.side tickSize adverse
    refuseIf (price ≤ Decimal.zero)
      "deterministic fill model produced a non-positive price"
    pure (if violatesLimit intent price = true then none else some price)

def reaches (model : DeterministicFillModel) (intent : OrderIntent) (bar : Bar)
    (tickSize : Option Decimal) : Bool :=
  match model.priceOn intent bar tickSize with
  | .ok (some _) => true
  | _ => false

theorem reaches_of_fillQuantity {model : DeterministicFillModel}
    {order : OmsOrder} {bar : Bar} {replayTime : String} {quantity : Decimal}
    {executionId : String} {tickSize : Option Decimal} {fill? : Option Fill}
    (h : model.fillQuantity order bar replayTime quantity executionId tickSize
      = .ok fill?) : model.reaches order.intent bar tickSize = fill?.isSome := by
  simp only [fillQuantity, bind_eq_ok] at h
  obtain ⟨-, -, base?, hbase, h⟩ := h
  cases base? with
  | none =>
    have hprice : model.priceOn order.intent bar tickSize = .ok none := by
      rw [priceOn, hbase]
      rfl
    rw [reaches, hprice, ← Except.ok.inj h]
    rfl
  | some base =>
    simp only [bind_eq_ok] at h
    obtain ⟨adverse, hadverse, price, hgrid, _, hpositive, h⟩ := h
    have hprice : model.priceOn order.intent bar tickSize
        = .ok (if violatesLimit order.intent price = true then none
            else some price) := by
      simp only [priceOn, bind_eq_ok]
      refine ⟨some base, hbase, ?_⟩
      simp only [bind_eq_ok]
      exact ⟨adverse, hadverse, price, hgrid, (), hpositive, rfl⟩
    rw [reaches, hprice, ← Except.ok.inj h]
    cases violatesLimit order.intent price <;> rfl

end DeterministicFillModel

namespace Replay

variable {K S : Type}

/-! ## Demand -/

def offered (model : DeterministicFillModel) (bar : Bar)
    (tickSize : Option Decimal) (working : SimulatedWorkingOrder) : Int :=
  if model.reaches working.order.intent bar tickSize = true then
    (nextQuantity model working).scaled
  else 0

def offeredTo (engine : ReplayEngine) (bar : Bar)
    (reference : Option Instrument) (orderId : String) : Int :=
  match engine.workingOrders[orderId]? with
  | some working =>
    offered engine.fillModel bar (reference.map Instrument.tickSize) working
  | none => 0

def barDemand (engine : ReplayEngine) (accountId : String) (bar : Bar)
    (reference : Option Instrument) : Int :=
  ((eligibleOrderIds (nextBar engine) accountId bar).map
    (offeredTo engine bar reference)).sum

structure Owing (engine : ReplayEngine) : Prop where
  cap : ∀ cap ∈ engine.fillModel.maxFillQuantity, 0 ≤ cap.scaled
  working : ∀ (orderId : String) working,
    engine.workingOrders[orderId]? = some working → 0 ≤ working.remainingQuantity.scaled

variable {engine : ReplayEngine}

theorem Owing.offeredTo_nonneg (h : Owing engine) (bar : Bar)
    (reference : Option Instrument) (orderId : String) :
    0 ≤ offeredTo engine bar reference orderId := by
  unfold offeredTo
  split
  · next working hfind =>
      have hleft := h.working orderId working hfind
      unfold offered
      split
      · cases hcap : engine.fillModel.maxFillQuantity with
        | none =>
          rw [nextQuantity_none hcap]
          exact hleft
        | some cap =>
          rw [nextQuantity_some hcap]
          exact le_min hleft (h.cap cap hcap)
      · exact le_refl 0
  · exact le_refl 0

theorem Owing.sum_nonneg (h : Owing engine) (bar : Bar)
    (reference : Option Instrument) (orderIds : List String) :
    0 ≤ (orderIds.map (offeredTo engine bar reference)).sum := by
  refine List.sum_nonneg ?_
  intro quantity hmem
  obtain ⟨orderId, -, rfl⟩ := mem_map.mp hmem
  exact h.offeredTo_nonneg bar reference orderId

/-! ## What each program fills -/

def filledIn (s : Replay K S) : Int := filledBy (fillsIn s.stream)

section Programs

variable [EventSink K] {s : Replay K S} {working : SimulatedWorkingOrder}

variable {eventTime accountId : String} {events : List EventEnvelope}
  {fill : Fill} {bar : Bar} {reference : Option Instrument}

variable {payload : EventPayload} {actor source causationId orderId : String}
  {intent : OrderIntent} {left : Decimal} {next : Nat}

theorem emit_fills {correlationId : String} {causationId : Option String}
    {accountId strategyId instrumentId : Option String}
    (hpositive : 0 ≤ filledBy payload.fill?.toList) : Fallible.Adds filledIn s
      (emit payload eventTime correlationId causationId actor source accountId
        strategyId instrumentId) (filledBy payload.fill?.toList) where
  returns := by
    intro event t hrun
    obtain ⟨sink, rfl, -, rfl⟩ := emit_returns hrun
    simp only [filledIn, accept, counted, edit, fillsIn_append, filledBy_append,
      fillsIn_single]
    rfl
  fails := by
    intro e t hrun
    have hsame : t.stream = s.stream := by
      rw [emit_run] at hrun
      split at hrun
      · obtain ⟨-, rfl⟩ := Prod.mk.inj hrun
        rfl
      · dsimp only at hrun
        split at hrun
        · cases hrun
        · obtain ⟨-, rfl⟩ := Prod.mk.inj hrun
          rfl
    rw [filledIn, filledIn, hsame]
    omega

theorem emitFor_fills (hpositive : 0 ≤ filledBy payload.fill?.toList)
    : Fallible.Adds filledIn s
      (emitFor intent accountId payload causationId actor source)
      (filledBy payload.fill?.toList) :=
  .read (emit_fills hpositive)

theorem auditEvent_fills {summary : String} :
    Fallible.Adds filledIn s (auditEvent intent causationId events summary) 0 :=
  emitFor_fills (Int.le_refl 0)

theorem restUnfilled_fills : Fallible.Adds filledIn s (restUnfilled events working) 0 :=
  .before auditEvent_fills fun _ _ _ => .pure

theorem moveForFill_fills :
    Fallible.Adds filledIn s (moveForFill events working left) 0 := by
  unfold moveForFill
  split
  · refine .lift (Int.le_refl 0) fun _ _ => ?_
    exact .before (emitFor_fills (Int.le_refl 0)) fun _ _ _ => .pure
  · exact .pure

omit [EventSink K] in
theorem bookFill_fills {instrumentId : String} {mark : Decimal} :
    Fallible.Adds filledIn s (bookFill accountId instrumentId fill mark) 0 :=
  .read (.update rfl (.lift (Int.le_refl 0) fun _ _ =>
    .update rfl (.lift (Int.le_refl 0) fun _ _ => .pure)))

theorem publishFill_fills {fillEventId : String} {projection : Projection} :
    Fallible.Adds filledIn s
      (publishFill events accountId working fillEventId projection) 0 := by
  refine .after (emitFor_fills (Int.le_refl 0)) (Int.le_refl 0) fun _ _ _ => ?_
  refine .after (emitFor_fills (Int.le_refl 0)) (Int.le_refl 0) fun _ _ _ => ?_
  exact .before auditEvent_fills fun _ _ _ => .pure

variable [Strategy S]

theorem settleFill_fills (hpositive : 0 ≤ fill.quantity.scaled) : Fallible.Adds filledIn s
      (settleFill events accountId bar working fill left next)
      fill.quantity.scaled := by
  have hone : filledBy (EventPayload.fill fill).fill?.toList
      = fill.quantity.scaled := by
    simp [EventPayload.fill?, filledBy]
  have hissued : Fallible.Adds filledIn s
      (emitFor working.order.intent accountId (.fill fill) working.causationId
        "simulator" "simulator") fill.quantity.scaled := by
    rw [← hone] at hpositive ⊢
    exact emitFor_fills hpositive
  refine .before hissued fun _ t _ => ?_
  refine .after bookFill_fills (Int.le_refl 0) fun _ u _ => ?_
  refine .after (.silent rfl) (Int.le_refl 0) fun _ _ _ => ?_
  exact publishFill_fills

theorem executeFill_fills (hpositive : 0 ≤ fill.quantity.scaled) :
    Fallible.Adds filledIn s
      (executeFill events accountId bar working fill next)
      fill.quantity.scaled :=
  .lift hpositive fun _ _ =>
    .after moveForFill_fills hpositive fun _ _ _ => settleFill_fills hpositive

theorem attemptSimulatedFill_fills (hpositive : 0 ≤ offered s.engine.fillModel bar
      (reference.map Instrument.tickSize) working) : Fallible.Adds filledIn s
      (attemptSimulatedFill events accountId bar working reference)
      (offered s.engine.fillModel bar (reference.map Instrument.tickSize)
        working) := by
  refine .read (.lift hpositive fun _ _ => .lift hpositive fun next _ =>
    .lift hpositive fun fill? hfill? => ?_)
  have hreaches := DeterministicFillModel.reaches_of_fillQuantity hfill?
  cases fill? with
  | none =>
    have hnothing : offered s.engine.fillModel bar
        (reference.map Instrument.tickSize) working = 0 := by
      rw [offered, hreaches]
      rfl
    rw [hnothing]
    exact restUnfilled_fills
  | some fill =>
    have hquantity : offered s.engine.fillModel bar
        (reference.map Instrument.tickSize) working
          = fill.quantity.scaled := by
      rw [offered, hreaches, (DeterministicFillModel.fillQuantity_eq_some hfill?).2.1]
      rfl
    rw [hquantity] at hpositive ⊢
    exact executeFill_fills hpositive

theorem matchOrder_fills (hpositive : 0 ≤ offered s.engine.fillModel bar
      (reference.map Instrument.tickSize) working) : Fallible.Adds filledIn s
      (matchOrder accountId bar reference events orderId working)
      (offered s.engine.fillModel bar (reference.map Instrument.tickSize)
        working) := by
  refine .update rfl (.before (attemptSimulatedFill_fills hpositive)
    fun attempt t _ => ?_)
  refine .after (.silent ?_) (Int.le_refl 0) fun _ _ _ => .pure
  simp only [keepWorking, Fallible.final_update]
  split <;> rfl

/-! ## What a bar fills -/

omit [EventSink K] [Strategy S] in
theorem Keyed.owing {h : Hand} (hkeyed : Keyed (h, s))
    (hcap : ∀ cap ∈ s.engine.fillModel.maxFillQuantity, 0 ≤ cap.scaled) :
    Owing s.engine :=
  ⟨hcap, fun orderId working hfind =>
    (hkeyed.working orderId working hfind).2⟩

theorem matchOrder_frame {attempt : Attempt} {t : Replay K S}
    (hcaused : Caused ((none, s) : Bench K S)) (hkeyed : Keyed ((none, s) : Bench K S))
    (hfind : s.engine.workingOrders[orderId]? = some working)
    (hrun : (matchOrder accountId bar reference events orderId working).run s
      = (.ok attempt, t)) :
    Caused ((none, t) : Bench K S) ∧ Keyed ((none, t) : Bench K S) ∧
      t.engine.fillModel = s.engine.fillModel ∧
      ∀ other, other ≠ orderId → offeredTo t.engine bar reference other
          = offeredTo s.engine bar reference other := by
  have hfollows : Follows (.matching (· = orderId)) (none, s)
      (matchOrder accountId bar reference events orderId working)
      (fun _ c => c.1 = none) :=
    matchOrder_follows accountId bar reference events rfl trivial hcaused hfind
  obtain ⟨h, hmoves, hnone⟩ := hfollows.returns attempt t hrun
  obtain rfl : h = none := hnone
  obtain ⟨new, hkeyed', hprogress⟩ :=
    (Progress.refl s).moves hmoves hkeyed
  have hmodel : t.engine.fillModel = s.engine.fillModel := hmoves.fillModel
  refine ⟨hcaused.moves hmoves, hkeyed', hmodel, fun other hother => ?_⟩
  have hsame : t.engine.workingOrders[other]?
      = s.engine.workingOrders[other]? := hprogress.others other hother
  rw [offeredTo, offeredTo, hsame, hmodel]

theorem matchOrders_fills {orderIds : List String} {latest : Option Projection}
    (hcaused : Caused ((none, s) : Bench K S)) (hkeyed : Keyed ((none, s) : Bench K S))
    (hcap : ∀ cap ∈ s.engine.fillModel.maxFillQuantity, 0 ≤ cap.scaled)
    (hnodup : orderIds.Nodup) : Fallible.Adds filledIn s
      (matchOrders accountId bar reference orderIds events latest)
      (orderIds.map (offeredTo s.engine bar reference)).sum := by
  induction orderIds generalizing s events latest with
  | nil => exact .pure
  | cons orderId rest ih =>
    have howing : Owing s.engine := hkeyed.owing hcap
    obtain ⟨hfresh, hrest⟩ := nodup_cons.mp hnodup
    refine .read ?_
    split
    · exact .fail (howing.sum_nonneg bar reference _)
    · next working hfind =>
        have hoffered : offeredTo s.engine bar reference orderId
            = offered s.engine.fillModel bar
              (reference.map Instrument.tickSize) working := by
          rw [offeredTo, hfind]
        have hpositive := howing.offeredTo_nonneg bar reference orderId
        rw [map_cons, sum_cons, hoffered]
        rw [hoffered] at hpositive
        refine .bind (matchOrder_fills hpositive)
          (howing.sum_nonneg bar reference rest) fun attempt t hrun => ?_
        obtain ⟨hcaused', hkeyed', hmodel, hothers⟩ :=
          matchOrder_frame hcaused hkeyed hfind hrun
        have hsame : rest.map (offeredTo s.engine bar reference)
            = rest.map (offeredTo t.engine bar reference) := by
          refine List.map_congr_left fun other hmem => ?_
          refine (hothers other ?_).symm
          rintro rfl
          exact hfresh hmem
        rw [hsame]
        exact ih hcaused' hkeyed' (hmodel ▸ hcap) hrest

omit [EventSink K] [Strategy S] in
theorem nodup_eligibleOrderIds (engine : ReplayEngine) (accountId : String)
    (bar : Bar) : (eligibleOrderIds engine accountId bar).Nodup :=
  (OrderedMap.nodup_keys engine.workingOrders).sublist
    (List.filter_sublist.map _)

theorem matchBar_fills (hcaused : Caused ((none, s) : Bench K S))
    (hkeyed : Keyed ((none, s) : Bench K S))
    (hcap : ∀ cap ∈ s.engine.fillModel.maxFillQuantity, 0 ≤ cap.scaled) :
    Fallible.Adds filledIn s (matchBar accountId eventTime bar reference)
      (barDemand s.engine accountId bar reference) := by
  have hdemand : 0 ≤ barDemand s.engine accountId bar reference :=
    (hkeyed.owing hcap).sum_nonneg bar reference _
  refine .lift hdemand fun _ hvalid => ?_
  refine .after (.read (.lift (Int.le_refl 0) fun _ _ =>
    .lift (Int.le_refl 0) fun _ _ => .silent rfl)) hdemand
    fun _ s₁ hadvance => ?_
  have hclock : Follows .any (none, s) (advanceTo eventTime : ReplayM K S Unit)
      (fun _ c => c = (none, s.setClock eventTime)) :=
    advanceTo_follows eventTime
  obtain ⟨_, hadvanced, heq⟩ := hclock.returns _ _ hadvance
  obtain ⟨rfl, rfl⟩ := Prod.mk.inj heq
  refine .after (.read (.lift (Int.le_refl 0) fun _ _ => .silent rfl)) hdemand
    fun _ s₂ hcount => ?_
  have hnext : Follows .any (none, s.setClock eventTime)
      (countBar : ReplayM K S Unit)
      (fun _ c => c = (none, (s.setClock eventTime).edit nextBar)) :=
    countBar_follows
  obtain ⟨_, hcounted, heq⟩ := hnext.returns _ _ hcount
  obtain ⟨rfl, rfl⟩ := Prod.mk.inj heq
  refine .after (.read (emit_fills (Int.le_refl 0))) hdemand
    fun event s₃ hemit => ?_
  have hissued : Follows .any (none, (s.setClock eventTime).edit nextBar)
      (emitBar eventTime bar) (fun event c => Emitted none event c ∧
        c.2.engine = ((s.setClock eventTime).edit nextBar).counted.engine) :=
    emitBar_follows hvalid rfl
  obtain ⟨_, hemitted, ⟨hnone, -⟩, hengine⟩ := hissued.returns _ _ hemit
  obtain rfl := hnone
  have hmoves := (hadvanced.trans hcounted).trans hemitted
  have hkeyed₃ : Keyed ((none, s₃) : Bench K S) :=
    Runs.keeps (fun _ _ hkeyed hmove => hkeyed.move hmove) hmoves hkeyed
  have hids : eligibleOrderIds s₃.engine accountId bar
      = eligibleOrderIds (nextBar s.engine) accountId bar := by
    rw [show s₃.engine = _ from hengine]
    rfl
  have hoffered : offeredTo s₃.engine bar reference
      = offeredTo s.engine bar reference := by
    rw [show s₃.engine = _ from hengine]
    rfl
  have hcap₃ : ∀ cap ∈ s₃.engine.fillModel.maxFillQuantity,
      0 ≤ cap.scaled := by
    rw [show s₃.engine = _ from hengine]
    exact hcap
  refine .read (.before ?_ fun _ _ _ => .pure)
  rw [barDemand, ← hids, ← hoffered]
  exact matchOrders_fills (hcaused.moves hmoves) hkeyed₃ hcap₃
    (nodup_eligibleOrderIds _ accountId bar)

omit [Strategy S] in
theorem Follows.unfilled {α : Type} {b : Bench K S} {x : ReplayM K S α}
    {post : α → Bench K S → Prop} (hx : Follows .answering b x post) :
    Fallible.Adds filledIn b.2 x 0 := by
  obtain ⟨h, hmoves⟩ := hx.final
  refine .silent ?_
  rw [filledIn, filledIn]
  exact congrArg filledBy hmoves.answering

theorem replayBar_fills (hcaused : Caused ((none, s) : Bench K S))
    (hkeyed : Keyed ((none, s) : Bench K S))
    (hcap : ∀ cap ∈ s.engine.fillModel.maxFillQuantity, 0 ≤ cap.scaled) :
    Fallible.Adds filledIn s (replayBar accountId eventTime bar reference)
      (barDemand s.engine accountId bar reference) := by
  refine .before (matchBar_fills hcaused hkeyed hcap) ?_
  intro ⟨marketEvent, events, latest⟩ t hrun
  have hmatched : Follows .any (none, s)
      (matchBar accountId eventTime bar reference)
      (fun result c => c.1 = none ∧ result.1.eventId ∈ c.2.eventIds) :=
    matchBar_follows accountId eventTime bar reference (fun _ _ => trivial)
      trivial hcaused
  obtain ⟨h, -, hnone, hevent⟩ := hmatched.returns _ _ hrun
  have hanswered : Follows .answering (h, t)
      (answerBar events accountId bar reference marketEvent.eventId latest)
      (fun _ c => c.1 = none) := by
    obtain rfl : h = none := hnone
    exact answerBar_follows events accountId bar reference latest trivial hevent
  exact hanswered.unfilled

end Programs

/-! ## Runs -/

section Runs

variable [EventSink K] [Strategy S] {s : Replay K S}

theorem Replayed.cap_pos (hs : Replayed s) :
    ∀ cap ∈ s.engine.fillModel.maxFillQuantity, 0 < cap.scaled := by
  refine Replayed.keeps
    (I := fun b => ∀ cap ∈ b.2.engine.fillModel.maxFillQuantity,
      0 < cap.scaled) ?_ (fun _ _ h => h) ?_ hs
  · rintro s ⟨⟨_, _, _, _, model, hnew⟩, -, -⟩ cap hcap
    simp only [ReplayEngine.new, bind_eq_ok, pure_eq_ok] at hnew
    obtain ⟨_, -, _, -, _, hmodel, _, -, hengine⟩ := hnew
    rw [← hengine] at hcap
    simp only [DeterministicFillModel.validate, bind_eq_ok, refuseIf_eq_ok,
      not_or, not_exists] at hmodel
    obtain ⟨_, -, _, -, _, -, _, -, -, -, -, -, -, -, -, hpositive⟩ := hmodel
    exact Int.not_le.mp fun hle => hpositive cap ⟨hcap, hle⟩
  · intro b c h hmove
    rw [hmove.fillModel]
    exact h

end Runs

end Replay

def ReplayOperation.demand (engine : ReplayEngine) : ReplayOperation → Int
  | replayBar accountId _ bar reference =>
    Replay.barDemand engine accountId bar reference
  | processBar accountId eventTime bar market =>
    match market.validate bar eventTime with
    | .ok reference =>
      Replay.barDemand engine accountId bar (some reference)
    | .error _ => 0
  | _ => 0

namespace Replay

variable {K S : Type} [EventSink K] [Strategy S] {s : Replay K S}

theorem execute_fills (hs : Replayed s) {operation : ReplayOperation}
    (hbar : operation.barOf.isSome = true) : Fallible.Adds filledIn s (execute operation)
      (operation.demand s.engine) := by
  have hcaused := Replayed.caused hs
  have hkeyed := Replayed.keyed hs
  have hcap : ∀ cap ∈ s.engine.fillModel.maxFillQuantity, 0 ≤ cap.scaled :=
    fun cap hmem => Int.le_of_lt (Replayed.cap_pos hs cap hmem)
  cases operation with
  | replayBar accountId eventTime bar reference =>
    exact (replayBar_fills hcaused hkeyed hcap).discard
  | processBar accountId eventTime bar market =>
    refine Fallible.Adds.discard ?_
    unfold processBarWithMarketPreconditions
    cases hmarket : market.validate bar eventTime with
    | error e =>
      have hnone : (ReplayOperation.processBar accountId eventTime bar
          market).demand s.engine = 0 := by
        simp only [ReplayOperation.demand, hmarket]
      rw [hnone]
      exact .silent rfl
    | ok reference =>
      have hsome : (ReplayOperation.processBar accountId eventTime bar
          market).demand s.engine
            = barDemand s.engine accountId bar (some reference) := by
        simp only [ReplayOperation.demand, hmarket]
      rw [hsome]
      exact replayBar_fills hcaused hkeyed hcap
  | _ => contradiction

/-- A bar keeps within the cap of the fill model when what it offers its
eligible orders does, and a bar that succeeds only then. -/
theorem bars_capped_iff (hs : Replayed s) {operation : ReplayOperation}
    (hbar : operation.barOf.isSome = true) {new : List EventEnvelope}
    (hnew : ((execute operation).final s).stream = s.stream ++ new) :
    ∀ cap ∈ s.engine.fillModel.maxFillQuantity,
      (operation.demand s.engine ≤ cap.scaled → filledBy (fillsIn new) ≤ cap.scaled) ∧
      (((execute operation).run s).1 = .ok () → (filledBy (fillsIn new) ≤ cap.scaled ↔
          operation.demand s.engine ≤ cap.scaled)) := by
  intro cap _
  have hfills := execute_fills hs hbar
  have hgrown : filledIn ((execute operation).final s)
      = filledIn s + filledBy (fillsIn new) := by
    rw [filledIn, hnew, fillsIn_append, filledBy_append]
    rfl
  rcases hrun : (execute operation).run s with ⟨result, t⟩
  rw [final_eq hrun] at hgrown
  cases result with
  | ok a =>
    have hall := hfills.returns a t hrun
    exact ⟨by omega, fun _ => by omega⟩
  | error e =>
    have hsome := hfills.fails e t hrun
    exact ⟨by omega, fun hok => absurd hok nofun⟩

end Replay

/-! ## Two orders on one bar -/

namespace Session

def second : OrderIntent := { intent with intentId := "intent-2" }

def newEvents (s : Replay InMemoryEventStore Script) (time : String) :
    List EventEnvelope :=
  ((Replay.execute (barAt time)).final s).stream.drop s.stream.length

theorem newEvents_eq {s : Replay InMemoryEventStore Script}
    (hs : Replay.Replayed s) (time : String) :
    ((Replay.execute (barAt time)).final s).stream
      = s.stream ++ newEvents s time := by
  obtain ⟨h, hmoves⟩ :=
    Replay.execute_moves (barAt time) (Replay.Replayed.caused hs)
  exact (List.prefix_iff_eq_append.mp hmoves.stream).symm

/-- A cap of five and one order of ten, half of it filled. -/
theorem bars_capped_one_order : ∃ s : Replay InMemoryEventStore Script,
      s.engine.fillModel.maxFillQuantity = some five ∧
      (barAt "2026-01-05T14:31:00Z").demand s.engine = five.scaled ∧
      filledBy (fillsIn (newEvents s "2026-01-05T14:31:00Z"))
        ≤ five.scaled := by
  obtain ⟨s, hs, hcap, hdemand⟩ :
      ∃ s : Replay InMemoryEventStore Script, Replay.Replayed s ∧
        s.engine.fillModel.maxFillQuantity = some five ∧
        (barAt "2026-01-05T14:31:00Z").demand s.engine = five.scaled :=
    ⟨play (start (some five) [some intent]) (minutes.take 1),
      replayed_play (.init (start_constructed (by decide) _)) _,
      by decide +kernel⟩
  obtain ⟨hcapped, -⟩ :=
    Replay.bars_capped_iff hs rfl (newEvents_eq hs "2026-01-05T14:31:00Z") five
      hcap
  exact ⟨s, hcap, hdemand, hcapped (Int.le_of_eq hdemand)⟩

/-- Two orders of ten, each filled five, exceed a cap of five on one bar. -/
theorem shared_bar_exceeds_cap :
    ∃ s : Replay InMemoryEventStore Script, Replay.Replayed s ∧
      s.engine.fillModel.maxFillQuantity = some five ∧
      ((Replay.execute (barAt "2026-01-05T14:32:00Z")).run s).1.toOption = some () ∧
      ((Replay.execute (barAt "2026-01-05T14:32:00Z")).final s).stream
        = s.stream ++ newEvents s "2026-01-05T14:32:00Z" ∧
      five.scaled
        < filledBy (fillsIn (newEvents s "2026-01-05T14:32:00Z")) := by
  obtain ⟨s, hs, hcap, hok, hfilled⟩ :
      ∃ s : Replay InMemoryEventStore Script, Replay.Replayed s ∧
        s.engine.fillModel.maxFillQuantity = some five ∧
        ((Replay.execute (barAt "2026-01-05T14:32:00Z")).run s).1.toOption = some () ∧
        five.scaled < filledBy (fillsIn (newEvents s "2026-01-05T14:32:00Z")) :=
    ⟨play (start (some five) [some intent, some second]) (minutes.take 2),
      replayed_play (.init (start_constructed (by decide) _)) _,
      by decide +kernel⟩
  exact ⟨s, hs, hcap, hok, newEvents_eq hs _, hfilled⟩

end Session

end Follon.ControlPlane
