import Follon.ControlPlane.ReplayEngine
import Follon.Foundation.Transition

/-!
# Replay runs

The engine's other entry points, news and stock splits, and the runs its
public operations make.
-/

namespace Follon.ControlPlane

open Foundation Domain

def withContext {α : Type} (context : String) (result : Result α) : Result α :=
  match result with
  | .ok a => .ok a
  | .error e => .error ⟨context ++ e.message⟩

structure ReplayCalendar where
  calendarId : String
  isInstrumentOpenAt : String → String → Bool

structure MarketPreconditions where
  instruments : InstrumentRegistry
  calendar : ReplayCalendar

def MarketPreconditions.validate (market : MarketPreconditions) (bar : Bar)
    (eventTime : String) : Result Instrument :=
  match market.instruments.resolve bar.instrumentId eventTime with
  | none => .error ⟨"no effective instrument reference data for market event"⟩
  | some version => do
    refuseIf (version.instrument.tradingCalendarId ≠ market.calendar.calendarId)
      "instrument and replay calendar do not match"
    refuseIf (market.calendar.isInstrumentOpenAt bar.instrumentId eventTime = false)
      ("market event is outside an explicit tradable session or occurs " ++
        "during a configured halt")
    pure version.instrument

namespace Replay

variable {K S : Type} [EventSink K]

def processBarWithMarketPreconditions [Strategy S]
    (accountId eventTime : String) (bar : Bar)
    (market : MarketPreconditions) : ReplayM K S ReplayResult := do
  let reference ← lift (market.validate bar eventTime)
  replayBar accountId eventTime bar (some reference)

/-! ## News -/

omit [EventSink K] in
def noteHeadline (headline : NewsHeadline) (eventId : String) : Replay K S → Replay K S :=
  edit fun engine => { engine with
    newsHeadlines := engine.newsHeadlines.insert headline.newsId
      ⟨eventId, headline.eventTimeNs, headline.receiveTimeNs⟩ }

omit [EventSink K] in
def noteSentiment (eventId : String) : Replay K S → Replay K S :=
  edit fun engine => { engine with
    newsSentimentEventIds := engine.newsSentimentEventIds.insert eventId }

/-- The source time and the availability time of an admitted headline. -/
def admitHeadline (engine : ReplayEngine) (headline : NewsHeadline) :
    Result (String × String) := do
  headline.validate
  refuseIf (headline.receiveTimeNs < headline.eventTimeNs)
    "news headline availability cannot precede its source event time"
  refuseIf (headline.newsId ∈ engine.newsHeadlines)
    "duplicate news headline in replay"
  let sourceEventTime ←
    withContext "news headline replay timestamp is invalid: "
      (replayTimeFromUnixNs headline.eventTimeNs)
  let availabilityTime ←
    withContext "news headline availability timestamp is invalid: "
      (replayAvailabilityTimeFromUnixNs headline.receiveTimeNs)
  pure (sourceEventTime, availabilityTime)

def processNewsHeadline [Strategy S] (headline : NewsHeadline) :
    ReplayM K S ReplayResult := do
  let s ← Fallible.read
  let (sourceEventTime, availabilityTime) ←
    lift (admitHeadline s.engine headline)
  advanceTo availabilityTime
  let event ← emit (.newsHeadline headline) sourceEventTime
    ("corr-news-" ++ headline.newsId) none "news_ingress" "local_fixture" none
    none none
  update (noteHeadline headline event.eventId)
  let s ← Fallible.read
  consult fun strategy =>
    Strategy.onNewsHeadline strategy headline s.engine.clock
  pure (resultOf [event] none)

structure AdmittedSentiment where
  (headlineEventId sourceEventTime availabilityTime : String)
  reference : Instrument

def findHeadline (engine : ReplayEngine) (sentiment : SentimentVector) :
    Result ReplayedNewsHeadline :=
  match engine.newsHeadlines[sentiment.causationNewsId]? with
  | some headline => pure headline
  | none => .error ⟨"news sentiment has no persisted headline cause"⟩

def findReference (instruments : InstrumentRegistry)
    (instrumentId utcTime : String) : Result Instrument :=
  match instruments.resolve instrumentId utcTime with
  | some version => pure version.instrument
  | none =>
    .error ⟨"no effective instrument reference data for the news market " ++ "snapshot"⟩

def admitSentiment (engine : ReplayEngine) (sentiment : SentimentVector)
    (market : Bar) (shock : NewsShockContext)
    (instruments : InstrumentRegistry) : Result AdmittedSentiment := do
  sentiment.validate
  market.validate
  shock.validate
  refuseIf (sentiment.instrumentId ≠ market.instrumentId)
    "news sentiment and market snapshot instruments must match"
  refuseIf (sentiment.eventId ∈ engine.newsSentimentEventIds)
    "duplicate news sentiment in replay"
  let headline ← findHeadline engine sentiment
  refuseIf (sentiment.eventTimeNs ≠ headline.sourceEventTimeNs)
    "news sentiment source event time must match its causation headline"
  let sourceEventTime ←
    withContext "news sentiment replay timestamp is invalid: "
      (replayTimeFromUnixNs sentiment.eventTimeNs)
  let availabilityTime ←
    withContext "news sentiment availability timestamp is invalid: "
      (replayAvailabilityTimeFromUnixNs headline.availableAtNs)
  let reference ←
    findReference instruments market.instrumentId availabilityTime
  pure ⟨headline.eventId, sourceEventTime, availabilityTime, reference⟩

def answerSentiment [Strategy S] (accountId : String)
    (sentiment : SentimentVector) (market : Bar) (shock : NewsShockContext)
    (reference : Instrument) (event : EventEnvelope) : ReplayM K S ReplayResult := do
  let s ← Fallible.read
  let intent? ← consult fun strategy =>
    Strategy.onNewsSentiment strategy sentiment s.engine.clock
  match intent? with
  | none => pure (resultOf [event] none)
  | some intent =>
    processIntent [event] accountId market (some reference) event.eventId
      intent
      (fun policy time =>
        policy.evaluateNews intent market reference time shock)
      none newsFlow

def processNewsSentiment [Strategy S] (accountId : String)
    (sentiment : SentimentVector) (market : Bar) (shock : NewsShockContext)
    (instruments : InstrumentRegistry) : ReplayM K S ReplayResult := do
  let s ← Fallible.read
  let admitted ← lift
    (admitSentiment s.engine sentiment market shock instruments)
  advanceTo admitted.availabilityTime
  let event ← emit (.newsSentiment sentiment) admitted.sourceEventTime
    ("corr-news-" ++ sentiment.causationNewsId) (some admitted.headlineEventId)
    "news_classifier.keyword-finance-v1" "local_fixture" (some accountId) none
    (some sentiment.instrumentId)
  update (noteSentiment sentiment.eventId)
  answerSentiment accountId sentiment market shock admitted.reference event

/-! ## Splits -/

def scaleHoldings (ratio : Decimal) (instrumentId : String) :
    List ((String × String) × Portfolio) → Result (List (String × Portfolio))
  | [] => pure []
  | ((accountId, held), portfolio) :: rest =>
    if held = instrumentId ∧ portfolio.quantity ≠ Decimal.zero then do
      let after ← portfolio.applySplit ratio
      let scaled ← scaleHoldings ratio instrumentId rest
      pure ((accountId, after) :: scaled)
    else
      scaleHoldings ratio instrumentId rest

def checkResting (engine : ReplayEngine) (actionId instrumentId : String) : Result Unit :=
  match engine.workingOrders.toList.find? fun (_, working) =>
      working.order.intent.instrumentId == instrumentId with
  | some (orderId, _) =>
    .error ⟨"working order " ++ orderId ++ " cannot rest across " ++
      instrumentId ++ "'s split " ++ actionId⟩
  | none => pure ()

def admitSplit (engine : ReplayEngine) (actionId instrumentId : String)
    (ratio : Decimal) : Result (List (String × Portfolio)) := do
  validateCanonicalId "corporate action id" actionId
  validateCanonicalId "corporate action instrument_id" instrumentId
  refuseIf (ratio ≤ Decimal.zero) "split ratio must be positive"
  refuseIf (actionId ∈ engine.corporateActionIds)
    ("corporate action " ++ actionId ++ " was already applied to the replay")
  checkResting engine actionId instrumentId
  scaleHoldings ratio instrumentId engine.portfolios.toList

omit [EventSink K] in
def noteAction (actionId : String) : Replay K S → Replay K S :=
  edit fun engine => { engine with
    corporateActionIds := engine.corporateActionIds.insert actionId }

def publishScaled (correlationId instrumentId : String) :
    List (String × Portfolio) → ReplayM K S (List EventEnvelope)
  | [] => pure []
  | (accountId, after) :: rest => do
    update (setPortfolio (accountId, instrumentId) after)
    let s ← Fallible.read
    let event ← emit (.position after.positionSnapshot) s.engine.clock
      correlationId none "portfolio_engine" "corporate_action"
      (some accountId) none (some instrumentId)
    let events ← publishScaled correlationId instrumentId rest
    pure (event :: events)

def applySplit (actionId instrumentId : String) (ratio : Decimal)
    (appliedAt : String) : ReplayM K S (List EventEnvelope) := do
  let s ← Fallible.read
  let scaled ← lift (admitSplit s.engine actionId instrumentId ratio)
  advanceTo appliedAt
  update (noteAction actionId)
  publishScaled ("corr-corporate-action-" ++ actionId) instrumentId scaled

end Replay

/-! ## Runs -/

inductive ReplayOperation where
  | replayBar (accountId eventTime : String) (bar : Bar)
      (reference : Option Instrument)
  | processBar (accountId eventTime : String) (bar : Bar)
      (market : MarketPreconditions)
  | processNewsHeadline (headline : NewsHeadline)
  | processNewsSentiment (accountId : String) (sentiment : SentimentVector)
      (market : Bar) (shock : NewsShockContext)
      (instruments : InstrumentRegistry)
  | applySplit (actionId instrumentId : String) (ratio : Decimal)
      (appliedAt : String)

namespace Replay

variable {K S : Type} [EventSink K] [Strategy S]

def execute : ReplayOperation → ReplayM K S Unit
  | .replayBar accountId eventTime bar reference =>
    (Replay.replayBar accountId eventTime bar reference).discard
  | .processBar accountId eventTime bar market =>
    (processBarWithMarketPreconditions accountId eventTime bar market).discard
  | .processNewsHeadline headline =>
    (Replay.processNewsHeadline headline).discard
  | .processNewsSentiment accountId sentiment market shock instruments =>
    (Replay.processNewsSentiment accountId sentiment market shock instruments).discard
  | .applySplit actionId instrumentId ratio appliedAt =>
    (Replay.applySplit actionId instrumentId ratio appliedAt).discard

omit [EventSink K] [Strategy S] in
def setStrategy (strategy : S) (s : Replay K S) : Replay K S := { s with strategy }

/-- One operation on the engine, whether it succeeds or fails, or one move the
strategy makes on its own. -/
inductive Step : Replay K S → Replay K S → Prop
  | operate (s : Replay K S) (operation : ReplayOperation) :
      Step s ((execute operation).final s)
  | strategyMoved (s : Replay K S) (strategy : S) :
      Step s (s.setStrategy strategy)

omit [EventSink K] [Strategy S] in
def Constructed (s : Replay K S) : Prop :=
  (∃ initialTime softwareVersion configurationVersion policy fillModel,
    ReplayEngine.new initialTime softwareVersion configurationVersion policy
      fillModel = .ok s.engine) ∧ s.stream = [] ∧ s.created = []

abbrev Replayed : Replay K S → Prop :=
  Reachable Constructed Step

end Replay

end Follon.ControlPlane
