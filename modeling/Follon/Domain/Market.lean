import Follon.Domain.Order

/-!
# Bars, projections and news

The normalized market bars a replay is driven by, the projections it
publishes, and the news payloads of its evidence stream.
-/

namespace Follon.Domain

open Foundation

/-! ## Bars -/

structure Bar where
  instrumentId : String
  (open_ high low close volume : Decimal)
  intervalSeconds : UInt32
  exchangeTimezone : String
  deriving DecidableEq

def Bar.validate (bar : Bar) : Result Unit := do
  validateCanonicalId "instrument_id" bar.instrumentId
  refuseIf (bar.intervalSeconds = 0 ∨ bar.open_ ≤ Decimal.zero ∨
      bar.high ≤ Decimal.zero ∨ bar.low ≤ Decimal.zero ∨
      bar.close ≤ Decimal.zero ∨ bar.volume < Decimal.zero)
    "bar prices and interval must be positive and volume cannot be negative"
  refuseIf (bar.high < bar.low ∨ bar.open_ < bar.low ∨ bar.high < bar.open_ ∨
      bar.close < bar.low ∨ bar.high < bar.close)
    "bar OHLC values are inconsistent"
  refuseIf (bar.exchangeTimezone.isEmpty = true)
    "bar exchange timezone is required"

/-! ## Corporate actions -/

inductive CorporateAction where
  | split (actionId instrumentId effectiveAt : String) (ratio : Decimal)
  | cashDividend (actionId instrumentId effectiveAt : String)
      (amount : Decimal)
  deriving DecidableEq

namespace CorporateAction

def actionId : CorporateAction → String
  | split actionId _ _ _ | cashDividend actionId _ _ _ => actionId

def instrumentId : CorporateAction → String
  | split _ instrumentId _ _ | cashDividend _ instrumentId _ _ => instrumentId

def effectiveAt : CorporateAction → String
  | split _ _ effectiveAt _ | cashDividend _ _ effectiveAt _ => effectiveAt

def value : CorporateAction → Decimal
  | split _ _ _ ratio => ratio
  | cashDividend _ _ _ amount => amount

def canonicalRecord : CorporateAction → String
  | split actionId instrumentId effectiveAt ratio =>
    "SPLIT|" ++ actionId ++ "|" ++ instrumentId ++ "|" ++ effectiveAt ++
      "|" ++ ratio.display
  | cashDividend actionId instrumentId effectiveAt amount =>
    "CASH_DIVIDEND|" ++ actionId ++ "|" ++ instrumentId ++ "|" ++
      effectiveAt ++ "|" ++ amount.display

def validate (action : CorporateAction) : Result Unit := do
  validateCanonicalId "action_id" action.actionId
  validateCanonicalId "instrument_id" action.instrumentId
  validateUtcTimestamp "corporate action effective_at" action.effectiveAt
  refuseIf (action.value ≤ Decimal.zero)
    "corporate action must have a positive value"

end CorporateAction

/-! ## Projections -/

structure PositionSnapshot where
  (accountId instrumentId : String)
  (quantity averageCost realizedPnl : Decimal)
  deriving DecidableEq

structure PnlSnapshot where
  (accountId instrumentId : String)
  (markPrice realizedPnl unrealizedPnl totalPnl : Decimal)
  deriving DecidableEq

structure AuditTrail where
  correlationId : String
  eventIds : List String
  summary : String
  deriving DecidableEq

/-! ## News -/

inductive NewsSource where
  | dowJones
  | bloombergBPipe
  | refinitivMrn
  | secEdgar
  | fedBls
  deriving DecidableEq

def NewsSource.asStr : NewsSource → String
  | dowJones => "DOW_JONES"
  | bloombergBPipe => "BLOOMBERG_BPIPE"
  | refinitivMrn => "REFINITIV_MRN"
  | secEdgar => "SEC_EDGAR"
  | fedBls => "FED_BLS"

inductive EventTaxonomy where
  | earningsRelease
  | guidanceRevision
  | mergerAcquisition
  | fdaDecision
  | macroCpi
  | macroFedRate
  | litigation
  deriving DecidableEq

def EventTaxonomy.asStr : EventTaxonomy → String
  | earningsRelease => "EARNINGS_RELEASE"
  | guidanceRevision => "GUIDANCE_REVISION"
  | mergerAcquisition => "M_AND_A"
  | fdaDecision => "FDA_DECISION"
  | macroCpi => "MACRO_CPI"
  | macroFedRate => "MACRO_FED_RATE"
  | litigation => "LITIGATION"

structure NewsHeadline where
  newsId : String
  source : NewsSource
  (headline rawBodyHash : String)
  (sequenceNumber eventTimeNs receiveTimeNs : UInt64)
  entityTickers : List String
  deriving DecidableEq

def NewsHeadline.validate (headline : NewsHeadline) : Result Unit := do
  validateCanonicalId "news_id" headline.newsId
  refuseIf (isBlank headline.headline = true ∨ headline.rawBodyHash.utf8ByteSize ≠ 64 ∨
      (headline.rawBodyHash.toList.all fun c =>
        isAsciiDigit c || 'a' ≤ c && c ≤ 'f') = false ∨
      headline.eventTimeNs = 0 ∨ headline.receiveTimeNs = 0)
    "invalid news headline payload"
  checkAll (validateCanonicalId "news entity_ticker") headline.entityTickers

structure SentimentVector where
  (eventId causationNewsId : String)
  eventTimeNs : UInt64
  instrumentId : String
  taxonomy : EventTaxonomy
  sentimentPolarityBps : Int32
  (confidenceBps noveltyScoreBps : UInt32)
  surpriseMagnitudeBps : Int32
  deriving DecidableEq

def SentimentVector.validate (sentiment : SentimentVector) : Result Unit := do
  validateCanonicalId "sentiment event_id" sentiment.eventId
  validateCanonicalId "causation_news_id" sentiment.causationNewsId
  validateCanonicalId "instrument_id" sentiment.instrumentId
  refuseIf (sentiment.eventTimeNs = 0 ∨ ¬(-10000 ≤ sentiment.sentimentPolarityBps.toInt ∧
        sentiment.sentimentPolarityBps.toInt ≤ 10000) ∨
      10000 < sentiment.confidenceBps.toNat ∨
      10000 < sentiment.noveltyScoreBps.toNat)
    "invalid news sentiment payload"

/-! ## The replay clock's seconds -/

def civilFromDays (days : Nat) : Nat × Nat × Nat :=
  let z := days + 719468
  let era := z / 146097
  let dayOfEra := z - era * 146097
  let yearOfEra :=
    (dayOfEra - dayOfEra / 1460 + dayOfEra / 36524 - dayOfEra / 146096) / 365
  let dayOfYear := dayOfEra - (365 * yearOfEra + yearOfEra / 4 - yearOfEra / 100)
  let monthPrime := (5 * dayOfYear + 2) / 153
  let day := dayOfYear - (153 * monthPrime + 2) / 5 + 1
  let month := if monthPrime < 10 then monthPrime + 3 else monthPrime - 9
  let year := yearOfEra + era * 400 + if month ≤ 2 then 1 else 0
  (year, month, day)

def padded (width n : Nat) : String := String.ofList (zeroPadded width n)

def replayTimeFromUnixSeconds (seconds : Nat) (timestampName : String) :
    Result String := do
  let secondsOfDay := seconds % 86400
  let (year, month, day) := civilFromDays (seconds / 86400)
  refuseIf (9999 < year) (timestampName ++ " is outside the replay clock range")
  pure (padded 4 year ++ "-" ++ padded 2 month ++ "-" ++ padded 2 day ++ "T" ++
    padded 2 (secondsOfDay / 3600) ++ ":" ++
    padded 2 (secondsOfDay % 3600 / 60) ++ ":" ++
    padded 2 (secondsOfDay % 60) ++ "Z")

def replayTimeFromUnixNs (eventTimeNs : UInt64) : Result String := do
  refuseIf (eventTimeNs = 0) "event_time_ns must be positive"
  replayTimeFromUnixSeconds (eventTimeNs.toNat / 1000000000) "event_time_ns"

/-- A fraction of a second is rounded up, so nothing is seen early. -/
def replayAvailabilityTimeFromUnixNs (availabilityTimeNs : UInt64) : Result String := do
  refuseIf (availabilityTimeNs = 0) "availability_time_ns must be positive"
  let seconds := availabilityTimeNs.toNat / 1000000000
  replayTimeFromUnixSeconds
    (if availabilityTimeNs.toNat % 1000000000 = 0 then seconds else seconds + 1)
    "availability_time_ns"

/-! ## Reference data -/

structure Instrument where
  instrumentId : String
  (tickSize lotSize : Decimal)
  tradingCalendarId : String
  deriving DecidableEq

structure InstrumentVersion where
  instrument : Instrument
  effectiveFrom : String
  effectiveTo : Option String
  deriving DecidableEq

def InstrumentVersion.appliesAt (version : InstrumentVersion) (utcTime : String) : Bool :=
  version.effectiveFrom ≤ utcTime &&
    version.effectiveTo.all fun last => utcTime < last

structure InstrumentRegistry where
  versions : String → List InstrumentVersion

def InstrumentRegistry.resolve (registry : InstrumentRegistry)
    (instrumentId utcTime : String) : Option InstrumentVersion :=
  (registry.versions instrumentId).find? (·.appliesAt utcTime)

end Follon.Domain
