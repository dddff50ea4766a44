import Follon.ControlPlane.Portfolio
import Follon.ControlPlane.Simulation
import Follon.Foundation.Fallible
import Follon.Foundation.OrderedMap

/-!
# The replay engine

One historical bar or news item at a time through strategy, risk, OMS,
simulation and portfolio.  A call that fails keeps what it wrote before the
failing step.
-/

namespace Follon.ControlPlane

open Foundation Domain

def u64Max : Nat := 2 ^ 64 - 1

def u32Max : Nat := 2 ^ 32 - 1

/-! ## Strategies -/

inductive CorporateActionEffect where
  | split (actionId : String) (ratio : Decimal) (position : PositionSnapshot)
  | cashDividend (actionId accountId instrumentId : String)
      (cashCredited : Decimal)
  deriving DecidableEq

/-- The strategy boundary.  A call returns its reply and the strategy it
leaves. -/
class Strategy (S : Type) where
  onBar : S → Bar → String → Result (Option OrderIntent) × S
  onNewsHeadline : S → NewsHeadline → String → Result Unit × S :=
    fun strategy _ _ => (.ok (), strategy)
  onNewsSentiment :
      S → SentimentVector → String → Result (Option OrderIntent) × S :=
    fun strategy _ _ => (.ok none, strategy)
  onExecution : S → Fill → PositionSnapshot → Result Unit × S :=
    fun strategy _ _ => (.ok (), strategy)
  onCorporateAction : S → CorporateActionEffect → Result Unit × S :=
    fun strategy _ => (.ok (), strategy)

/-! ## State -/

namespace Portfolio

def positionSnapshot (portfolio : Portfolio) : PositionSnapshot :=
  ⟨portfolio.accountId, portfolio.instrumentId, portfolio.quantity,
    portfolio.averageCost, portfolio.realizedPnl⟩

def pnlSnapshot (portfolio : Portfolio) (markPrice : Decimal) : Result PnlSnapshot := do
  let gain ← markPrice.checkedSub portfolio.averageCost
  let unrealizedPnl ← gain.checkedMul portfolio.quantity
  let totalPnl ← portfolio.realizedPnl.checkedAdd unrealizedPnl
  pure ⟨portfolio.accountId, portfolio.instrumentId, markPrice,
    portfolio.realizedPnl, unrealizedPnl, totalPnl⟩

end Portfolio

structure SimulatedWorkingOrder where
  order : OmsOrder
  remainingQuantity : Decimal
  (eligibleOnBar fillSequence : Nat)
  causationId : String
  deriving DecidableEq

structure ReplayedNewsHeadline where
  eventId : String
  (sourceEventTimeNs availableAtNs : UInt64)
  deriving DecidableEq

structure ReplayEngine where
  (clock softwareVersion configurationVersion : String)
  (sequence barSequence : Nat)
  policy : RiskPolicy
  fillModel : DeterministicFillModel
  portfolios : OrderedMap (String × String) Portfolio
  workingOrders : OrderedMap String SimulatedWorkingOrder
  corporateActionIds : OrderedSet String
  newsHeadlines : OrderedMap String ReplayedNewsHeadline
  newsSentimentEventIds : OrderedSet String

namespace ReplayEngine

def new (initialTime softwareVersion configurationVersion : String)
    (policy : RiskPolicy) (fillModel : DeterministicFillModel) : Result ReplayEngine := do
  refuseIf (softwareVersion.isEmpty = true ∨ configurationVersion.isEmpty = true)
    "engine and configuration versions are required"
  policy.validate
  fillModel.validate
  validateUtcTimestamp "replay clock initial time" initialTime
  pure
    { clock := initialTime
      softwareVersion
      configurationVersion
      sequence := 0
      barSequence := 0
      policy
      fillModel
      portfolios := ∅
      workingOrders := ∅
      corporateActionIds := ∅
      newsHeadlines := ∅
      newsSentimentEventIds := ∅ }

def eventIdFor (sequence : Nat) : String := "evt-" ++ padded 12 sequence

def envelope (engine : ReplayEngine) (payload : EventPayload)
    (eventTime correlationId : String) (causationId : Option String)
    (actor source : String) (accountId strategyId instrumentId : Option String) :
    EventEnvelope :=
  { eventId := eventIdFor engine.sequence, eventType := payload.eventType
    schemaVersion := 1
    eventTime
    receiveTime := engine.clock
    accountId, strategyId, instrumentId, correlationId, causationId
    actor, source, payload
    softwareVersion := engine.softwareVersion
    configurationVersion := engine.configurationVersion }

end ReplayEngine

/-- An engine with the destination and the strategy its caller lends it.
`stream` and `created` only record: the events the destination has accepted,
and the intents that became orders. -/
structure Replay (K S : Type) where
  engine : ReplayEngine
  sink : K
  strategy : S
  stream : List EventEnvelope
  created : List OrderIntent

abbrev ReplayM (K S α : Type) : Type :=
  Fallible (Replay K S) PaperError α

structure ReplayResult where
  events : List EventEnvelope
  position : Option PositionSnapshot
  pnl : Option PnlSnapshot

abbrev Projection : Type :=
  PositionSnapshot × PnlSnapshot

namespace Replay

variable {K S : Type}

def edit (f : ReplayEngine → ReplayEngine) (s : Replay K S) : Replay K S :=
  { s with engine := f s.engine }

def hold (orderId : String) (working : SimulatedWorkingOrder) : Replay K S → Replay K S :=
  edit fun engine => { engine with
    workingOrders := engine.workingOrders.insert orderId working }

def release (orderId : String) : Replay K S → Replay K S :=
  edit fun engine => { engine with
    workingOrders := engine.workingOrders.erase orderId }

def setPortfolio (key : String × String) (portfolio : Portfolio) :
    Replay K S → Replay K S :=
  edit fun engine => { engine with
    portfolios := engine.portfolios.insert key portfolio }

def setClock (time : String) : Replay K S → Replay K S :=
  edit fun engine => { engine with clock := time }

def accept (event : EventEnvelope) (sink : K) (s : Replay K S) : Replay K S :=
  { s with sink, stream := s.stream ++ [event] }

def noteCreated (intent : OrderIntent) (s : Replay K S) : Replay K S :=
  { s with created := s.created ++ [intent] }

/-! ## Events -/

def append [EventSink K] (event : EventEnvelope) : ReplayM K S Unit :=
  fun s =>
    match EventSink.append s.sink event with
    | (.ok (), sink) => (.ok (), s.accept event sink)
    | (.error e, sink) => (.error e, { s with sink })

def counted : Replay K S → Replay K S :=
  edit fun engine => { engine with sequence := engine.sequence + 1 }

def countEvent : ReplayM K S Unit := do
  let s ← Fallible.read
  lift (refuseIf (u64Max ≤ s.engine.sequence) "attempt to add with overflow")
  update counted

variable [EventSink K]

def emit (payload : EventPayload) (eventTime correlationId : String)
    (causationId : Option String) (actor source : String)
    (accountId strategyId instrumentId : Option String) : ReplayM K S EventEnvelope := do
  countEvent
  let s ← Fallible.read
  let event := s.engine.envelope payload eventTime correlationId causationId
    actor source accountId strategyId instrumentId
  append event
  pure event

def emitFor (intent : OrderIntent) (accountId : String)
    (payload : EventPayload) (causationId actor source : String) :
    ReplayM K S EventEnvelope := do
  let s ← Fallible.read
  emit payload s.engine.clock intent.correlationId (some causationId) actor
    source (some accountId) (some intent.strategyId) (some intent.instrumentId)

def emitOrderChange (intent : OrderIntent) (causationId : String)
    (change : OrderStateChange) : ReplayM K S EventEnvelope :=
  emitFor intent intent.accountId (.orderState change) causationId "oms"
    "trading_core"

def auditEvent (intent : OrderIntent) (causationId : String)
    (events : List EventEnvelope) (summary : String) : ReplayM K S EventEnvelope :=
  emitFor intent intent.accountId
    (.audit ⟨intent.correlationId, events.map EventEnvelope.eventId, summary⟩)
    causationId "audit" "trading_core"

omit [EventSink K] in
def advanceTo (time : String) : ReplayM K S Unit := do
  let s ← Fallible.read
  lift (validateUtcTimestamp "replay clock time" time)
  lift (refuseIf (time < s.engine.clock) "replay clock cannot move backwards")
  update (setClock time)

omit [EventSink K] in
def consult {α : Type} (call : S → Result α × S) : ReplayM K S α :=
  fun s => ((call s.strategy).1, { s with strategy := (call s.strategy).2 })

/-! ## Fills -/

structure Attempt where
  working : SimulatedWorkingOrder
  events : List EventEnvelope
  projection : Option Projection

def nextQuantity (model : DeterministicFillModel)
    (working : SimulatedWorkingOrder) : Decimal :=
  match model.maxFillQuantity with
  | some limit => working.remainingQuantity.min limit
  | none => working.remainingQuantity

def checkIncrements (working : SimulatedWorkingOrder) (quantity : Decimal)
    (reference : Instrument) : Result Unit := do
  refuseIf (isWholeMultiple quantity reference.lotSize = false)
    ("working order " ++ working.order.orderId ++ " cannot fill " ++
      quantity.display ++ " after " ++ reference.instrumentId ++
      "'s lot size changed to " ++ reference.lotSize.display)
  match working.order.intent.limitPrice with
  | some limit =>
    refuseIf (isWholeMultiple limit reference.tickSize = false)
      ("working order " ++ working.order.orderId ++ " cannot rest at " ++
        limit.display ++ " after " ++ reference.instrumentId ++
        "'s tick size changed to " ++ reference.tickSize.display)
  | none => pure ()

def checkReference (working : SimulatedWorkingOrder) (quantity : Decimal) :
    Option Instrument → Result Unit
  | some reference => checkIncrements working quantity reference
  | none => pure ()

def nextFillSequence (working : SimulatedWorkingOrder) : Result Nat := do
  refuseIf (u32Max ≤ working.fillSequence) "simulated fill sequence overflow"
  pure (working.fillSequence + 1)

def isSingleFullFill (working : SimulatedWorkingOrder) (quantity : Decimal) : Bool :=
  working.fillSequence == 0 && quantity == working.order.intent.quantity &&
    quantity == working.remainingQuantity

def executionIdFor (working : SimulatedWorkingOrder) (quantity : Decimal)
    (nextFillSequence : Nat) : String :=
  if isSingleFullFill working quantity = true then
    "exec-" ++ working.order.intent.intentId
  else
    "exec-" ++ working.order.intent.intentId ++ "-" ++ padded 6 nextFillSequence

def targetState (working : SimulatedWorkingOrder)
    (remainingAfterFill : Decimal) : Option OrderState :=
  if remainingAfterFill = Decimal.zero then some .filled
  else if working.order.state = .acknowledged then some .partiallyFilled
  else none

def restUnfilled (events : List EventEnvelope)
    (working : SimulatedWorkingOrder) : ReplayM K S Attempt := do
  let audit ← auditEvent working.order.intent working.causationId events
    "eligible working limit order remained unfilled on the current bar"
  pure ⟨{ working with causationId := audit.eventId }, events ++ [audit], none⟩

def recordMove (events : List EventEnvelope)
    (working : SimulatedWorkingOrder) (state : OrderState) :
    ReplayM K S (SimulatedWorkingOrder × List EventEnvelope) := do
  let reason :=
    if state = .filled then
      "deterministic simulator cumulatively filled order"
    else "deterministic simulator partially filled order"
  let (order, change) ← lift (working.order.transition state reason)
  let event ← emitOrderChange working.order.intent working.causationId change
  pure ({ working with order, causationId := event.eventId }, events ++ [event])

def moveForFill (events : List EventEnvelope)
    (working : SimulatedWorkingOrder) (remainingAfterFill : Decimal) :
    ReplayM K S (SimulatedWorkingOrder × List EventEnvelope) :=
  match targetState working remainingAfterFill with
  | some state => recordMove events working state
  | none => pure (working, events)

omit [EventSink K] in
def bookFill (accountId instrumentId : String) (fill : Fill)
    (mark : Decimal) : ReplayM K S Projection := do
  let s ← Fallible.read
  let key := (accountId, instrumentId)
  let portfolio := s.engine.portfolios[key]?.getD
    (Portfolio.new accountId instrumentId)
  update (setPortfolio key portfolio)
  let portfolio ← lift (portfolio.applyFill fill)
  update (setPortfolio key portfolio)
  let pnl ← lift (portfolio.pnlSnapshot mark)
  pure (portfolio.positionSnapshot, pnl)

def publishFill (events : List EventEnvelope) (accountId : String)
    (working : SimulatedWorkingOrder) (fillEventId : String)
    (projection : Projection) : ReplayM K S Attempt := do
  let intent := working.order.intent
  let position ← emitFor intent accountId (.position projection.1) fillEventId
    "portfolio_engine" "trading_core"
  let pnl ← emitFor intent accountId (.pnl projection.2) position.eventId
    "portfolio_engine" "trading_core"
  let events := events ++ [position, pnl]
  let note :=
    if working.remainingQuantity = Decimal.zero then
      "source bar through cumulative simulated fill and exact portfolio update"
    else "source bar through partial simulated fill and exact portfolio update"
  let audit ← auditEvent intent pnl.eventId events note
  pure ⟨{ working with causationId := audit.eventId }, events ++ [audit],
    some projection⟩

def settleFill [Strategy S] (events : List EventEnvelope) (accountId : String)
    (bar : Bar) (working : SimulatedWorkingOrder) (fill : Fill)
    (remainingAfterFill : Decimal) (nextFillSequence : Nat) : ReplayM K S Attempt := do
  let fillEvent ← emitFor working.order.intent accountId (.fill fill)
    working.causationId "simulator" "simulator"
  let working := { working with
    remainingQuantity := remainingAfterFill, fillSequence := nextFillSequence }
  let projection ← bookFill accountId working.order.intent.instrumentId fill
    bar.close
  consult fun strategy => Strategy.onExecution strategy fill projection.1
  publishFill (events ++ [fillEvent]) accountId working fillEvent.eventId
    projection

def executeFill [Strategy S] (events : List EventEnvelope)
    (accountId : String) (bar : Bar) (working : SimulatedWorkingOrder)
    (fill : Fill) (nextFillSequence : Nat) : ReplayM K S Attempt := do
  let remainingAfterFill ← lift
    (working.remainingQuantity.checkedSub fill.quantity)
  let (working, events) ← moveForFill events working remainingAfterFill
  settleFill events accountId bar working fill remainingAfterFill
    nextFillSequence

def attemptSimulatedFill [Strategy S] (events : List EventEnvelope)
    (accountId : String) (bar : Bar) (working : SimulatedWorkingOrder)
    (reference : Option Instrument) : ReplayM K S Attempt := do
  let s ← Fallible.read
  let quantity := nextQuantity s.engine.fillModel working
  lift (checkReference working quantity reference)
  let next ← lift (nextFillSequence working)
  let fill ← lift (s.engine.fillModel.fillQuantity working.order bar
    s.engine.clock quantity (executionIdFor working quantity next)
    (reference.map Instrument.tickSize))
  match fill with
  | none => restUnfilled events working
  | some fill => executeFill events accountId bar working fill next

/-! ## New orders -/

def requireWholeLotFillCap (model : DeterministicFillModel)
    (reference : Instrument) : Result Unit :=
  refuseIf (∃ cap ∈ model.maxFillQuantity, isWholeMultiple cap reference.lotSize = false)
    ("simulated fill cap is not a whole number of " ++
      reference.instrumentId ++ "'s lots")

def checkFillCap (model : DeterministicFillModel) : Option Instrument → Result Unit
  | some reference => requireWholeLotFillCap model reference
  | none => pure ()

def checkIntent (engine : ReplayEngine) (accountId : String) (bar : Bar)
    (reference : Option Instrument) (intent : OrderIntent)
    (mismatch : String) : Result Unit := do
  intent.validate
  refuseIf (intent.accountId ≠ accountId ∨
      intent.configurationVersion ≠ engine.configurationVersion)
    "strategy intent does not match replay account or configuration"
  refuseIf (intent.instrumentId ≠ bar.instrumentId) mismatch
  checkFillCap engine.fillModel reference
  refuseIf (OmsOrder.orderIdFor intent.intentId ∈ engine.workingOrders)
    "simulator rejected a duplicate working-order identity"

def decideIntent (accountId : String) (intent : OrderIntent)
    (causationId : String) (decide : String → Result RiskDecision) :
    ReplayM K S (RiskDecision × EventEnvelope × EventEnvelope) := do
  let intentEvent ← emitFor intent accountId (.orderIntent intent) causationId
    intent.strategyId "strategy_worker"
  let s ← Fallible.read
  let decision ← lift (decide s.engine.clock)
  let decisionEvent ← emitFor intent accountId (.riskDecision decision)
    intentEvent.eventId "risk_engine" "trading_core"
  pure (decision, intentEvent, decisionEvent)

def takeThrough (intent : OrderIntent) (causationId : String) :
    List (OrderState × String) → OmsOrder → List EventEnvelope →
      ReplayM K S (OmsOrder × List EventEnvelope)
  | [], order, events => pure (order, events)
  | (state, reason) :: rest, order, events => do
    let (order, change) ← lift (order.transition state reason)
    let event ← emitOrderChange intent causationId change
    takeThrough intent causationId rest order (events ++ [event])

def announceOrder (intent : OrderIntent) (decisionEventId reason : String) :
    ReplayM K S EventEnvelope := do
  let event ← emitOrderChange intent decisionEventId
    ⟨OmsOrder.orderIdFor intent.intentId, none, .created, reason⟩
  update (noteCreated intent)
  pure event

def createOrder (events : List EventEnvelope) (intent : OrderIntent)
    (decision : RiskDecision) (decisionEventId createdReason
      approvedReason : String) : ReplayM K S (OmsOrder × List EventEnvelope) := do
  let order ← lift (OmsOrder.fromApprovedIntent intent decision)
  let event ← announceOrder intent decisionEventId createdReason
  takeThrough intent decisionEventId
    [(.approved, approvedReason), (.pendingSubmit, "queued for deterministic simulator"),
      (.submitted, "simulator submission accepted"),
      (.acknowledged, "simulator acknowledged submission")]
    order (events ++ [event])

def newWorking (order : OmsOrder) (intent : OrderIntent)
    (eligibleOnBar : Nat) (events : List EventEnvelope) : SimulatedWorkingOrder :=
  { order
    remainingQuantity := intent.quantity
    eligibleOnBar
    fillSequence := 0
    causationId := (events.getLast?.map EventEnvelope.eventId).getD "" }

def restNew (events : List EventEnvelope) (working : SimulatedWorkingOrder)
    (resting : String) : ReplayM K S Attempt := do
  let audit ← auditEvent working.order.intent working.causationId events resting
  pure ⟨{ working with causationId := audit.eventId }, events ++ [audit], none⟩

omit [EventSink K] in
def keepWorking (orderId : String) (working : SimulatedWorkingOrder) : ReplayM K S Unit :=
  update fun s =>
    if Decimal.zero < working.remainingQuantity then s.hold orderId working
    else s

def eligibleAfter (engine : ReplayEngine) (latency : Nat) : Result Nat := do
  refuseIf (u64Max < engine.barSequence + latency)
    "simulated order latency overflow"
  pure (engine.barSequence + latency)

def startWorking [Strategy S] (immediate : Bool) (events : List EventEnvelope)
    (accountId : String) (bar : Bar) (working : SimulatedWorkingOrder)
    (reference : Option Instrument) (resting : String) : ReplayM K S Attempt :=
  if immediate = true then
    attemptSimulatedFill events accountId bar working reference
  else
    restNew events working resting

/-! ## Bars -/

/-- The orders a bar may fill, in the order of their identities. -/
def eligibleOrderIds (engine : ReplayEngine) (accountId : String)
    (bar : Bar) : List String :=
  (engine.workingOrders.toList.filter fun (_, working) =>
    working.order.intent.accountId == accountId &&
      working.order.intent.instrumentId == bar.instrumentId &&
      working.eligibleOnBar ≤ engine.barSequence).map Prod.fst

def matchOrder [Strategy S] (accountId : String) (bar : Bar)
    (reference : Option Instrument) (events : List EventEnvelope)
    (orderId : String) (working : SimulatedWorkingOrder) : ReplayM K S Attempt := do
  update (release orderId)
  let attempt ← attemptSimulatedFill events accountId bar working reference
  keepWorking orderId attempt.working
  pure attempt

def matchOrders [Strategy S] (accountId : String) (bar : Bar)
    (reference : Option Instrument) :
    List String → List EventEnvelope → Option Projection →
      ReplayM K S (List EventEnvelope × Option Projection)
  | [], events, latest => pure (events, latest)
  | orderId :: rest, events, latest => do
    let s ← Fallible.read
    match s.engine.workingOrders[orderId]? with
    | none =>
      Fallible.fail
        ⟨"eligible order came from working-order index"⟩
    | some working => do
      let attempt ←
        matchOrder accountId bar reference events orderId working
      matchOrders accountId bar reference rest attempt.events
        (attempt.projection <|> latest)

def resultOf (events : List EventEnvelope) (latest : Option Projection) : ReplayResult :=
  ⟨events, latest.map Prod.fst, latest.map Prod.snd⟩

omit [EventSink K] in
def countBar : ReplayM K S Unit := do
  let s ← Fallible.read
  lift (refuseIf (u64Max ≤ s.engine.barSequence) "replay bar sequence overflow")
  update (edit fun engine =>
    { engine with barSequence := engine.barSequence + 1 })

def emitBar (eventTime : String) (bar : Bar) : ReplayM K S EventEnvelope := do
  let s ← Fallible.read
  emit (.marketBar bar) eventTime
    ("corr-market-" ++ padded 12 (s.engine.sequence + 1)) none "market_data"
    "historical_import" none none (some bar.instrumentId)

def barDecision (policy : RiskPolicy) (intent : OrderIntent) (bar : Bar)
    (reference : Option Instrument) (replayTime : String) : Result RiskDecision :=
  match reference with
  | some reference =>
    policy.evaluateWithReference intent bar reference replayTime
  | none => policy.evaluate intent bar replayTime

structure IntentFlow where
  (mismatch rejected created approved resting : String)
  latency : DeterministicFillModel → Nat
  immediate : ReplayEngine → Nat → Bool

/-- A latency of zero is floored at the next bar: the strategy has seen this
one whole. -/
def barFlow : IntentFlow where
  mismatch :=
    "strategy intent instrument does not match the market bar that produced it"
  rejected := "intent was rejected before OMS order creation"
  created := "created from auditable risk approval"
  approved := "risk approval accepted by OMS"
  resting := "approved order remains acknowledged until its deterministic " ++
    "latency elapses"
  latency := fun model => max model.latencyBars.toNat 1
  immediate := fun engine eligibleOnBar => eligibleOnBar ≤ engine.barSequence

def newsFlow : IntentFlow where
  mismatch := "news intent instrument does not match its market snapshot"
  rejected := "news-driven intent was rejected before OMS order creation"
  created := "created from auditable news risk approval"
  approved := "news risk approval accepted by OMS"
  resting := "approved news order remains acknowledged until a later market " ++
    "bar advances its deterministic latency"
  latency := fun model => model.latencyBars.toNat
  immediate := fun engine _ => engine.fillModel.latencyBars == 0

def rejectIntent (events : List EventEnvelope) (intent : OrderIntent)
    (decisionEventId : String) (latest : Option Projection)
    (flow : IntentFlow) : ReplayM K S ReplayResult := do
  let audit ← auditEvent intent decisionEventId events flow.rejected
  pure (resultOf (events ++ [audit]) latest)

def workOrder [Strategy S] (events : List EventEnvelope) (accountId : String)
    (bar : Bar) (reference : Option Instrument) (order : OmsOrder)
    (intent : OrderIntent) (latest : Option Projection) (flow : IntentFlow) :
    ReplayM K S ReplayResult := do
  let s ← Fallible.read
  let eligibleOnBar ← lift
    (eligibleAfter s.engine (flow.latency s.engine.fillModel))
  let attempt ← startWorking (flow.immediate s.engine eligibleOnBar) events
    accountId bar (newWorking order intent eligibleOnBar events) reference
    flow.resting
  keepWorking attempt.working.order.orderId attempt.working
  pure (resultOf attempt.events (attempt.projection <|> latest))

def concludeIntent [Strategy S] (events : List EventEnvelope)
    (accountId : String) (bar : Bar) (reference : Option Instrument)
    (intent : OrderIntent) (decision : RiskDecision)
    (decisionEventId : String) (latest : Option Projection)
    (flow : IntentFlow) : ReplayM K S ReplayResult :=
  if decision.approved = false then
    rejectIntent events intent decisionEventId latest flow
  else do
    let (order, events) ← createOrder events intent decision decisionEventId
      flow.created flow.approved
    workOrder events accountId bar reference order intent latest flow

def processIntent [Strategy S] (events : List EventEnvelope)
    (accountId : String) (bar : Bar) (reference : Option Instrument)
    (causationId : String) (intent : OrderIntent)
    (decide : RiskPolicy → String → Result RiskDecision)
    (latest : Option Projection) (flow : IntentFlow) : ReplayM K S ReplayResult := do
  let s ← Fallible.read
  lift
    (checkIntent s.engine accountId bar reference intent flow.mismatch)
  let (decision, intentEvent, decisionEvent) ←
    decideIntent accountId intent causationId (decide s.engine.policy)
  concludeIntent (events ++ [intentEvent, decisionEvent]) accountId bar
    reference intent decision decisionEvent.eventId latest flow

def answerBar [Strategy S] (events : List EventEnvelope) (accountId : String)
    (bar : Bar) (reference : Option Instrument) (marketEventId : String)
    (latest : Option Projection) : ReplayM K S ReplayResult := do
  let s ← Fallible.read
  let intent? ← consult fun strategy =>
    Strategy.onBar strategy bar s.engine.clock
  match intent? with
  | none => pure (resultOf events latest)
  | some intent =>
    processIntent events accountId bar reference marketEventId intent
      (fun policy => barDecision policy intent bar reference) latest barFlow

def matchBar [Strategy S] (accountId eventTime : String) (bar : Bar)
    (reference : Option Instrument) :
    ReplayM K S (EventEnvelope × List EventEnvelope × Option Projection) := do
  lift bar.validate
  advanceTo eventTime
  countBar
  let marketEvent ← emitBar eventTime bar
  let s ← Fallible.read
  let (events, latest) ← matchOrders accountId bar reference
    (eligibleOrderIds s.engine accountId bar) [marketEvent] none
  pure (marketEvent, events, latest)

def replayBar [Strategy S] (accountId eventTime : String) (bar : Bar)
    (reference : Option Instrument) : ReplayM K S ReplayResult := do
  let (marketEvent, events, latest) ←
    matchBar accountId eventTime bar reference
  answerBar events accountId bar reference marketEvent.eventId latest

end Replay

end Follon.ControlPlane
