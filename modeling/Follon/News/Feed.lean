import Follon.Domain.Market
import Follon.Foundation.Fallible
import Follon.Foundation.OrderedMap
import Mathlib.Data.Prod.Lex

/-!
# The keyword classifier and the replay news feed

Headlines are split into whole words, and fixed lists of keywords decide the
instruments, the taxonomy and the integer scores of the sentiment vectors.
Lower-casing is a parameter: only the ASCII words of its result are read.
The feed keeps headlines and what is derived from them in the order in which
they may first be seen.  The order is looked up in maps beside the events and
restored after every push.
-/

namespace Follon.News

open Foundation Domain

def validateHeadlineAvailability (headline : NewsHeadline) : Result Unit := do
  headline.validate
  refuseIf (headline.receiveTimeNs < headline.eventTimeNs)
    "news headline availability cannot precede its source event time"

/-! ## Words -/

def isAsciiWordChar (c : Char) : Bool :=
  isAsciiDigit c || ('a' ≤ c && c ≤ 'z') || ('A' ≤ c && c ≤ 'Z')

def tokenizeWords (textLower : String) : List String :=
  ((textLower.toList.splitOnP fun c => !isAsciiWordChar c).filter
    (· ≠ [])).map String.ofList

def containsKeyword (tokens : List String) (keyword : String) : Bool :=
  let keywordTokens := tokenizeWords keyword
  keywordTokens ≠ [] && tokens.tails.any keywordTokens.isPrefixOf

namespace NlpSentimentEngine

/-! ## Instruments -/

def dictionary : List (String × String) :=
  [("apple", "aapl.us"), ("aapl", "aapl.us"), ("tesla", "tsla.us"),
    ("tsla", "tsla.us"), ("nvidia", "nvda.us"), ("nvda", "nvda.us"),
    ("microsoft", "msft.us"), ("msft", "msft.us"), ("amazon", "amzn.us"),
    ("amzn", "amzn.us"), ("s&p", "spy.us"), ("spy", "spy.us"),
    ("cpi", "spy.us"), ("inflation", "spy.us"), ("fed", "spy.us"),
    ("fomc", "spy.us")]

def resolveOnce (resolved : List String) (instrument : String) : List String :=
  if instrument ∈ resolved then resolved else resolved ++ [instrument]

def resolveEntities (textLower : String) (explicitTickers : List String) : List String :=
  let tokens := tokenizeWords textLower
  (dictionary.filter fun entry => containsKeyword tokens entry.1).foldl
    (fun resolved entry => resolveOnce resolved entry.2)
    (explicitTickers.foldl resolveOnce [])

/-! ## Scores -/

def classifyTaxonomy (textLower : String) : EventTaxonomy :=
  let tokens := tokenizeWords textLower
  let holds := fun keywords : List String =>
    keywords.any (containsKeyword tokens)
  if holds ["cpi", "inflation"] then .macroCpi
  else if holds ["fed", "fomc", "rate cut", "rate hike"] then .macroFedRate
  else if holds ["earnings", "eps", "q1", "q2", "q3", "q4"] then
    .earningsRelease
  else if holds ["acquire", "acquires", "acquired", "acquiring", "merger",
      "mergers", "buyout", "buyouts", "deal", "deals"] then .mergerAcquisition
  else if holds ["fda", "trial", "trials", "drug", "drugs"] then .fdaDecision
  else if holds ["guidance", "outlook", "forecast", "forecasts",
      "forecasted"] then .guidanceRevision
  else if holds ["lawsuit", "lawsuits", "litigation",
      "sec investigation"] then .litigation
  else .earningsRelease

def positiveWords : List String :=
  ["beat", "beats", "beating", "record", "surge", "surges", "surged", "raise",
    "raises", "raised", "growth", "higher", "outperform", "profit", "approval",
    "approved", "gain", "gains", "cools", "strong", "bullish"]

def negativeWords : List String :=
  ["miss", "misses", "missed", "drop", "drops", "dropped", "fall", "falls",
    "cut", "cuts", "lowered", "warning", "warns", "loss", "losses", "lawsuit",
    "rejected", "decline", "declines", "plunge", "plunges", "weak", "bearish"]

/-- The counts are at most 44, so nothing overflows 32 bits. -/
def calculatePolarityBps (textLower : String) : Int32 :=
  let tokens := tokenizeWords textLower
  let posCount : Int := positiveWords.countP (containsKeyword tokens)
  let negCount : Int := negativeWords.countP (containsKeyword tokens)
  let total := posCount + negCount
  if total = 0 then 0
  else
    Int32.ofInt
      (max (-10000) (min 10000 (((posCount - negCount) * 9000).tdiv total)))

def highConfidenceMarkers : List String :=
  ["reports", "quarterly", "official", "officials", "sec", "q1", "q2", "q3",
    "q4", "earnings", "revenue", "revenues", "cpi", "fed", "fda"]

def calculateConfidenceBps (textLower : String) (polarityBps : Int32) : UInt32 :=
  if polarityBps = 0 then 5000
  else
    let markerMatches := highConfidenceMarkers.countP
      (containsKeyword (tokenizeWords textLower))
    UInt32.ofNat (min 9800 (7500 + markerMatches * 500))

def extractSurpriseBps (textLower : String) : Int32 :=
  let tokens := tokenizeWords textLower
  let holds := fun keywords : List String =>
    keywords.any (containsKeyword tokens)
  if holds ["beat", "beats", "beating", "record"] then 250
  else if holds ["miss", "misses", "missed", "cut", "cuts"] then -250
  else 0

/-! ## Vectors -/

def sentimentId (newsId : String) (index : Nat) : String :=
  "sent." ++ newsId ++ "." ++ toString (index + 1)

def vectorOf (headline : NewsHeadline) (textLower : String)
    (target : String × Nat) : SentimentVector :=
  let polarityBps := calculatePolarityBps textLower
  { eventId := sentimentId headline.newsId target.2
    causationNewsId := headline.newsId, eventTimeNs := headline.eventTimeNs
    instrumentId := target.1, taxonomy := classifyTaxonomy textLower
    sentimentPolarityBps := polarityBps
    confidenceBps := calculateConfidenceBps textLower polarityBps
    noveltyScoreBps := 10000
    surpriseMagnitudeBps := extractSurpriseBps textLower }

def checkedVector (headline : NewsHeadline) (textLower : String)
    (target : String × Nat) : Result SentimentVector := do
  let vector := vectorOf headline textLower target
  vector.validate
  pure vector

def extractSentimentVectors (toLowercase : String → String)
    (headline : NewsHeadline) : Result (List SentimentVector) := do
  validateHeadlineAvailability headline
  let textLower := toLowercase headline.headline
  let targetInstruments := resolveEntities textLower headline.entityTickers
  collect (checkedVector headline textLower) targetInstruments.zipIdx

end NlpSentimentEngine

/-! ## The feed -/

inductive NewsReplayItem where
  | headline (headline : NewsHeadline)
  | sentiment (sentiment : SentimentVector)
  deriving DecidableEq

structure ReplayNewsFeed where
  events : List NewsReplayItem
  headlineIds : OrderedSet String
  headlineSources : OrderedMap String NewsSource
  (headlineSequences headlineEventTimes : OrderedMap String UInt64)
  headlineAvailabilityTimes : OrderedMap String UInt64
  sentimentIds : OrderedSet String

namespace ReplayNewsFeed

def new : ReplayNewsFeed where
  events := []
  headlineIds := ∅
  headlineSources := ∅
  headlineSequences := ∅
  headlineEventTimes := ∅
  headlineAvailabilityTimes := ∅
  sentimentIds := ∅

/-! ## Sort keys -/

/-- Availability, source, sequence, headline before sentiment, event time and
identity. -/
abbrev ReplayKey : Type :=
  Nat ×ₗ String ×ₗ Nat ×ₗ Nat ×ₗ Nat ×ₗ String

def keyOf (availability : UInt64) (source : String) (sequence : UInt64)
    (kind : Nat) (eventTime : UInt64) (id : String) : ReplayKey :=
  toLex (availability.toNat, toLex (source, toLex (sequence.toNat,
    toLex (kind, toLex (eventTime.toNat, id)))))

/-- `.expect(..)` of a causation headline: an accepted sentiment has one, so
the other value is never read. -/
def expected {α : Type} (found : Option α) (other : α) : α := found.getD other

def replayItemSortKey (feed : ReplayNewsFeed) : NewsReplayItem → ReplayKey
  | .headline headline =>
    keyOf headline.receiveTimeNs headline.source.asStr
      headline.sequenceNumber 0 headline.eventTimeNs headline.newsId
  | .sentiment sentiment =>
    let cause := sentiment.causationNewsId
    keyOf (expected feed.headlineAvailabilityTimes[cause]? 0)
      (expected feed.headlineSources[cause]? .dowJones).asStr
      (expected feed.headlineSequences[cause]? 0) 1 sentiment.eventTimeNs
      sentiment.eventId

abbrev HeadlineKey : Type :=
  Nat ×ₗ String ×ₗ Nat ×ₗ Nat ×ₗ String

def headlineReplaySortKey (headline : NewsHeadline) : HeadlineKey :=
  toLex (headline.receiveTimeNs.toNat, toLex (headline.source.asStr,
    toLex (headline.sequenceNumber.toNat, toLex (headline.eventTimeNs.toNat,
    headline.newsId))))

def sortEvents (feed : ReplayNewsFeed) : ReplayNewsFeed :=
  { feed with
    events := feed.events.insertionSort fun left right =>
      feed.replayItemSortKey left ≤ feed.replayItemSortKey right }

/-! ## Pushing -/

/-- `BTreeSet::insert` of the identity: whether it is new, and the set with
it. -/
def insertHeadlineId (newsId : String) : Fallible ReplayNewsFeed PaperError Bool := do
  let feed ← Fallible.read
  update fun feed =>
    { feed with headlineIds := feed.headlineIds.insert newsId }
  pure (decide (newsId ∉ feed.headlineIds))

def insertSentimentId (eventId : String) : Fallible ReplayNewsFeed PaperError Bool := do
  let feed ← Fallible.read
  update fun feed =>
    { feed with sentimentIds := feed.sentimentIds.insert eventId }
  pure (decide (eventId ∉ feed.sentimentIds))

def acceptHeadline (headline : NewsHeadline) :
    Fallible ReplayNewsFeed PaperError Unit := do
  lift (validateHeadlineAvailability headline)
  let isNew ← insertHeadlineId headline.newsId
  lift (refuseIf (isNew = false) "duplicate news_id in replay input")
  update fun feed =>
    { feed with
      headlineSequences :=
        feed.headlineSequences.insert headline.newsId headline.sequenceNumber
      headlineSources :=
        feed.headlineSources.insert headline.newsId headline.source
      headlineEventTimes :=
        feed.headlineEventTimes.insert headline.newsId headline.eventTimeNs
      headlineAvailabilityTimes :=
        feed.headlineAvailabilityTimes.insert headline.newsId
          headline.receiveTimeNs }

def acceptSentiment (sentiment : SentimentVector) :
    Fallible ReplayNewsFeed PaperError Unit := do
  lift sentiment.validate
  let feed ← Fallible.read
  lift (refuseIf (sentiment.causationNewsId ∉ feed.headlineIds)
    "news sentiment has no preceding causation headline")
  lift (refuseIf (sentiment.eventTimeNs ≠
      expected feed.headlineEventTimes[sentiment.causationNewsId]? 0)
    "news sentiment source event time must match its causation headline")
  let isNew ← insertSentimentId sentiment.eventId
  lift (refuseIf (isNew = false) "duplicate sentiment event_id in replay input")

def accept : NewsReplayItem → Fallible ReplayNewsFeed PaperError Unit
  | .headline headline => acceptHeadline headline
  | .sentiment sentiment => acceptSentiment sentiment

def push (item : NewsReplayItem) : Fallible ReplayNewsFeed PaperError Unit := do
  accept item
  update fun feed =>
    sortEvents { feed with events := feed.events ++ [item] }

/-- `feed.push(item)?` of a feed that is dropped on an error. -/
def pushed (feed : ReplayNewsFeed) (item : NewsReplayItem) : Result ReplayNewsFeed :=
  match (push item).run feed with
  | (.ok (), feed) => .ok feed
  | (.error e, _) => .error e

def pushHeadline (toLowercase : String → String) (feed : ReplayNewsFeed)
    (headline : NewsHeadline) : Result ReplayNewsFeed := do
  let feed ← feed.pushed (.headline headline)
  let vectors ←
    NlpSentimentEngine.extractSentimentVectors toLowercase headline
  vectors.foldlM (fun feed sentiment => feed.pushed (.sentiment sentiment))
    feed

def fromHeadlines (toLowercase : String → String)
    (headlines : List NewsHeadline) : Result ReplayNewsFeed :=
  (headlines.insertionSort fun left right =>
    headlineReplaySortKey left ≤ headlineReplaySortKey right).foldlM
      (pushHeadline toLowercase) new

/-! ## Availability -/

def availabilityTimeNs (feed : ReplayNewsFeed) : NewsReplayItem → Option UInt64
  | .headline headline => feed.headlineAvailabilityTimes[headline.newsId]?
  | .sentiment sentiment =>
    feed.headlineAvailabilityTimes[sentiment.causationNewsId]?

end ReplayNewsFeed

end Follon.News
