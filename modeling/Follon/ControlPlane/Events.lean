import Follon.ControlPlane.Oms
import Follon.Domain.Market

/-!
# Events

The payloads and the envelope of the evidence stream, and the canonical JSON
text an envelope is persisted as.
-/

namespace Follon.ControlPlane

open Foundation Domain

inductive EventPayload where
  | marketBar (bar : Bar)
  | orderIntent (intent : OrderIntent)
  | riskDecision (decision : RiskDecision)
  | orderState (change : OrderStateChange)
  | fill (fill : Fill)
  | position (position : PositionSnapshot)
  | pnl (pnl : PnlSnapshot)
  | audit (audit : AuditTrail)
  | newsHeadline (headline : NewsHeadline)
  | newsSentiment (sentiment : SentimentVector)
  deriving DecidableEq

def EventPayload.eventType : EventPayload → String
  | marketBar _ => "market.bar.v1"
  | orderIntent _ => "intent.created.v1"
  | riskDecision _ => "risk.decision.v1"
  | orderState _ => "order.state_changed.v1"
  | fill _ => "execution.fill.v1"
  | position _ => "portfolio.position_updated.v1"
  | pnl _ => "portfolio.pnl_updated.v1"
  | audit _ => "audit.trail.v1"
  | newsHeadline _ => "news.headline.v1"
  | newsSentiment _ => "news.sentiment.v1"

structure EventEnvelope where
  (eventId eventType : String)
  schemaVersion : UInt32
  (eventTime receiveTime : String)
  (accountId strategyId instrumentId : Option String)
  correlationId : String
  causationId : Option String
  (actor source : String)
  payload : EventPayload
  (softwareVersion configurationVersion : String)
  deriving DecidableEq

def validateOptionalId (name : String) (value : Option String) : Result Unit :=
  match value with
  | none => pure ()
  | some value => validateCanonicalId name value

def EventPayload.validate : EventPayload → Result Unit
  | newsHeadline headline => headline.validate
  | newsSentiment sentiment => sentiment.validate
  | _ => pure ()

def EventEnvelope.validate (event : EventEnvelope) : Result Unit := do
  validateCanonicalId "event_id" event.eventId
  validateCanonicalId "correlation_id" event.correlationId
  validateUtcTimestamp "event_time" event.eventTime
  validateUtcTimestamp "receive_time" event.receiveTime
  refuseIf (event.eventType ≠ event.payload.eventType ∨
      event.schemaVersion = 0 ∨ event.eventTime.isEmpty = true ∨
      event.receiveTime.isEmpty = true ∨ event.actor.isEmpty = true ∨
      event.source.isEmpty = true ∨ event.softwareVersion.isEmpty = true ∨
      event.configurationVersion.isEmpty = true)
    "event envelope is missing required or compatible fields"
  validateOptionalId "account_id" event.accountId
  validateOptionalId "strategy_id" event.strategyId
  validateOptionalId "instrument_id" event.instrumentId
  event.payload.validate

/-! ## Canonical JSON text -/

def isControl (c : Char) : Bool := c.toNat < 0x20 || (0x7F ≤ c.toNat && c.toNat ≤ 0x9F)

def jsonChar (c : Char) : List Char :=
  if c = '"' then ['\\', '"']
  else if c = '\\' then ['\\', '\\']
  else if c = '\n' then ['\\', 'n']
  else if c = '\r' then ['\\', 'r']
  else if c = '\t' then ['\\', 't']
  else if isControl c = true then '\\' :: 'u' :: hexDigits c.toNat
  else [c]

def jsonString (value : String) : String :=
  "\"" ++ String.ofList (value.toList.flatMap jsonChar) ++ "\""

def optionStringJson (value : Option String) : String :=
  (value.map jsonString).getD "null"

def decimalJson (value : Decimal) : String := "\"" ++ value.display ++ "\""

def optionDecimalJson (value : Option Decimal) : String :=
  (value.map decimalJson).getD "null"

def jsonStrings (values : List String) : String :=
  "[" ++ joinWith "," (values.map jsonString) ++ "]"

def jsonObject (fields : List (String × String)) : String :=
  "\x7b" ++ joinWith "," (fields.map fun (name, value) =>
    "\"" ++ name ++ "\":" ++ value) ++ "\x7d"

def EventPayload.canonicalJson : EventPayload → String
  | marketBar bar => jsonObject
      [("close", decimalJson bar.close),
        ("exchange_timezone", jsonString bar.exchangeTimezone),
        ("high", decimalJson bar.high),
        ("instrument_id", jsonString bar.instrumentId),
        ("interval_seconds", toString bar.intervalSeconds.toNat),
        ("low", decimalJson bar.low),
        ("open", decimalJson bar.open_),
        ("volume", decimalJson bar.volume)]
  | orderIntent intent => jsonObject
      [("account_id", jsonString intent.accountId),
        ("configuration_version", jsonString intent.configurationVersion),
        ("correlation_id", jsonString intent.correlationId),
        ("created_at", jsonString intent.createdAt),
        ("environment", jsonString intent.environment),
        ("instrument_id", jsonString intent.instrumentId),
        ("intent_id", jsonString intent.intentId),
        ("limit_price", optionDecimalJson intent.limitPrice),
        ("order_type", jsonString intent.orderType.asStr),
        ("quantity", decimalJson intent.quantity),
        ("rationale", jsonString intent.rationale),
        ("side", jsonString intent.side.asStr),
        ("strategy_id", jsonString intent.strategyId),
        ("strategy_version", jsonString intent.strategyVersion),
        ("time_in_force", jsonString intent.timeInForce.asStr)]
  | riskDecision decision => jsonObject
      [("actor", jsonString decision.actor), ("approved", toString decision.approved),
        ("correlation_id", jsonString decision.correlationId),
        ("decided_at", jsonString decision.decidedAt),
        ("decision_id", jsonString decision.decisionId),
        ("evaluated_limits", jsonString decision.evaluatedLimits),
        ("intent_id", jsonString decision.intentId),
        ("policy_version", jsonString decision.policyVersion),
        ("reason_codes", jsonStrings decision.reasonCodes),
        ("source", "\"risk\"")]
  | orderState change => jsonObject
      [("new_state", jsonString change.newState.asStr),
        ("order_id", jsonString change.orderId),
        ("previous_state", optionStringJson (change.previousState.map OrderState.asStr)),
        ("reason", jsonString change.reason)]
  | fill execution => jsonObject
      [("executed_at", jsonString execution.executedAt),
        ("execution_id", jsonString execution.executionId),
        ("fee", decimalJson execution.fee),
        ("instrument_id", jsonString execution.instrumentId),
        ("order_id", jsonString execution.orderId),
        ("price", decimalJson execution.price),
        ("quantity", decimalJson execution.quantity),
        ("side", jsonString execution.side.asStr)]
  | position held => jsonObject
      [("account_id", jsonString held.accountId),
        ("average_cost", decimalJson held.averageCost),
        ("instrument_id", jsonString held.instrumentId),
        ("quantity", decimalJson held.quantity),
        ("realized_pnl", decimalJson held.realizedPnl)]
  | pnl marked => jsonObject
      [("account_id", jsonString marked.accountId),
        ("instrument_id", jsonString marked.instrumentId),
        ("mark_price", decimalJson marked.markPrice),
        ("realized_pnl", decimalJson marked.realizedPnl),
        ("total_pnl", decimalJson marked.totalPnl),
        ("unrealized_pnl", decimalJson marked.unrealizedPnl)]
  | audit trail => jsonObject
      [("correlation_id", jsonString trail.correlationId),
        ("event_ids", jsonStrings trail.eventIds),
        ("summary", jsonString trail.summary)]
  | newsHeadline headline => jsonObject
      [("entity_tickers", jsonStrings headline.entityTickers),
        ("event_time_ns", toString headline.eventTimeNs.toNat),
        ("headline", jsonString headline.headline),
        ("news_id", jsonString headline.newsId),
        ("raw_body_hash", jsonString headline.rawBodyHash),
        ("receive_time_ns", toString headline.receiveTimeNs.toNat),
        ("sequence_number", toString headline.sequenceNumber.toNat),
        ("source", jsonString headline.source.asStr)]
  | newsSentiment sentiment => jsonObject
      [("causation_news_id", jsonString sentiment.causationNewsId),
        ("confidence_bps", toString sentiment.confidenceBps.toNat),
        ("event_id", jsonString sentiment.eventId),
        ("event_time_ns", toString sentiment.eventTimeNs.toNat),
        ("instrument_id", jsonString sentiment.instrumentId),
        ("novelty_score_bps", toString sentiment.noveltyScoreBps.toNat),
        ("sentiment_polarity_bps", toString sentiment.sentimentPolarityBps.toInt),
        ("surprise_magnitude_bps", toString sentiment.surpriseMagnitudeBps.toInt),
        ("taxonomy", jsonString sentiment.taxonomy.asStr)]

def EventEnvelope.canonicalJson (event : EventEnvelope) : String :=
  jsonObject
    [("account_id", optionStringJson event.accountId), ("actor", jsonString event.actor),
      ("causation_id", optionStringJson event.causationId),
      ("configuration_version", jsonString event.configurationVersion),
      ("correlation_id", jsonString event.correlationId),
      ("event_id", jsonString event.eventId),
      ("event_time", jsonString event.eventTime),
      ("event_type", jsonString event.eventType),
      ("instrument_id", optionStringJson event.instrumentId),
      ("payload", event.payload.canonicalJson),
      ("receive_time", jsonString event.receiveTime),
      ("schema_version", toString event.schemaVersion.toNat),
      ("software_version", jsonString event.softwareVersion),
      ("source", jsonString event.source),
      ("strategy_id", optionStringJson event.strategyId)]

/-! ## Destinations -/

/-- An append-only destination for events.  A call returns its reply and the
destination it leaves. -/
class EventSink (K : Type) where
  append : K → EventEnvelope → Result Unit × K

structure InMemoryEventStore where
  events : List EventEnvelope
  eventIds : List String

def InMemoryEventStore.append (store : InMemoryEventStore)
    (event : EventEnvelope) : Result Unit × InMemoryEventStore :=
  match event.validate with
  | .error e => (.error e, store)
  | .ok () =>
    if event.eventId ∈ store.eventIds then
      (.error ⟨"duplicate event ID: " ++ event.eventId⟩, store)
    else
      (.ok (), ⟨store.events ++ [event], event.eventId :: store.eventIds⟩)

instance : EventSink InMemoryEventStore := ⟨InMemoryEventStore.append⟩

end Follon.ControlPlane
