import Follon.Foundation.KeyedRows
import Follon.Foundation.Refusals
import Follon.News.Feed
import Mathlib.Data.List.Sigma

/-!
# Causality of the news feed

However the headlines are ordered, the feed built from them holds each one
once with the vectors extracted from it, and never shows sentiment before the
headline that caused it.
-/

namespace Follon.News

open Foundation Domain

/-! ## Extracted vectors -/

namespace NlpSentimentEngine

theorem polarity_bounds (textLower : String) :
    -10000 ≤ (calculatePolarityBps textLower).toInt ∧
      (calculatePolarityBps textLower).toInt ≤ 10000 := by
  unfold calculatePolarityBps
  dsimp only
  split
  · decide
  · rw [Int32.toInt_ofInt_of_le (by omega) (by omega)]
    omega

theorem confidence_le (textLower : String) (polarityBps : Int32) :
    (calculateConfidenceBps textLower polarityBps).toNat ≤ 10000 := by
  unfold calculateConfidenceBps
  split
  · decide
  · dsimp only
    have hlimit : min 9800 (7500 + highConfidenceMarkers.countP
        (containsKeyword (tokenizeWords textLower)) * 500) < UInt32.size :=
      lt_of_le_of_lt (Nat.min_le_left _ _) (by decide)
    rw [UInt32.toNat_ofNat_of_lt' hlimit]
    omega

variable {instrument textLower newsId : String}
  {toLowercase : String → String}

theorem mem_resolveOnce {resolved : List String} {other : String} :
    other ∈ resolveOnce resolved instrument ↔
      other ∈ resolved ∨ other = instrument := by
  unfold resolveOnce
  split
  · next hmem =>
      constructor
      · exact .inl
      · rintro (h | rfl)
        · exact h
        · exact hmem
  · rw [mem_append, mem_singleton]

theorem mem_foldl_resolveOnce {α : Type} {instrumentOf : α → String}
    {entries : List α} {resolved : List String} {other : String}
    (h : other ∈ entries.foldl (fun resolved entry =>
      resolveOnce resolved (instrumentOf entry)) resolved) :
    other ∈ resolved ∨ ∃ entry ∈ entries, instrumentOf entry = other := by
  induction entries generalizing resolved with
  | nil => exact .inl h
  | cons entry entries ih =>
    rcases ih h with h | ⟨found, hfound, hsame⟩
    · rcases mem_resolveOnce.mp h with h | rfl
      · exact .inl h
      · exact .inr ⟨entry, mem_cons_self, rfl⟩
    · exact .inr ⟨found, mem_cons_of_mem _ hfound, hsame⟩

theorem dictionary_canonical : ∀ entry ∈ dictionary, isCanonicalId entry.2 = true := by
  decide

theorem canonical_of_resolveEntities {tickers : List String}
    (h : ∀ ticker ∈ tickers, isCanonicalId ticker = true)
    (hmem : instrument ∈ resolveEntities textLower tickers) :
    isCanonicalId instrument = true := by
  rcases mem_foldl_resolveOnce hmem with hmem | ⟨entry, hentry, rfl⟩
  · rcases @mem_foldl_resolveOnce _ id _ _ _ hmem with hmem | ⟨_, hentry, rfl⟩
    · contradiction
    · exact h _ hentry
  · exact dictionary_canonical entry (mem_filter.mp hentry).1

/-! ### Identities -/

theorem toList_sentimentId (newsId : String) (index : Nat) :
    (sentimentId newsId index).toList =
      "sent.".toList ++ newsId.toList ++ '.' :: Nat.toDigits 10 (index + 1) := by
  have hdigits : (toString (index + 1)).toList = Nat.toDigits 10 (index + 1) :=
    toList_ofList
  simp only [sentimentId, toList_append, hdigits, append_assoc]
  rfl

theorem sentimentId_inj {newsId' : String} {index index' : Nat}
    (h : sentimentId newsId index = sentimentId newsId' index') :
    newsId = newsId' ∧ index = index' := by
  have hdot : ∀ n, '.' ∉ Nat.toDigits 10 n := by
    intro n hmem
    have hdigit := Nat.isDigit_of_mem_toDigits (by decide) (by decide) hmem
    contradiction
  have hlist := congrArg String.toList h
  rw [toList_sentimentId, toList_sentimentId] at hlist
  obtain ⟨hstem, hdigits⟩ := append_cons_inj (hdot _) (hdot _) hlist
  have hid := toList_injective (List.append_cancel_left hstem)
  have hnumber := congrArg (Nat.ofDigitChars 10 · 0) hdigits
  simp only [Nat.ofDigitChars_toDigits (b := 10) (by decide) (by decide)]
    at hnumber
  exact ⟨hid, by omega⟩

theorem sentimentId_canonical (index : Nat) (h : isCanonicalId newsId = true) :
    isCanonicalId (sentimentId newsId index) = true := by
  simp only [isCanonicalId, and_eq_true, Bool.not_eq_true',
    String.isEmpty_eq_false_iff] at h ⊢
  constructor
  · intro hempty
    have hlist := congrArg String.toList hempty
    rw [toList_sentimentId] at hlist
    contradiction
  · rw [toList_sentimentId, List.all_append, List.all_append, List.all_cons, h.2]
    have hdigits : (Nat.toDigits 10 (index + 1)).all isCanonicalChar = true := by
      rw [all_eq_true]
      intro c hc
      simp [isCanonicalChar, isAsciiDigit_of_mem_toDigits hc]
    rw [hdigits]
    decide

/-! ### Extraction -/

def vectorsOf (toLowercase : String → String) (headline : NewsHeadline) :
    List SentimentVector :=
  (resolveEntities (toLowercase headline.headline) headline.entityTickers).zipIdx.map
      (vectorOf headline (toLowercase headline.headline))

theorem validateHeadlineAvailability_eq_ok {headline : NewsHeadline}
    (h : validateHeadlineAvailability headline = .ok ()) :
    isCanonicalId headline.newsId = true ∧ headline.eventTimeNs ≠ 0 ∧
      ∀ ticker ∈ headline.entityTickers, isCanonicalId ticker = true := by
  simp only [validateHeadlineAvailability, NewsHeadline.validate, bind_eq_ok,
    validateCanonicalId_eq_ok, refuseIf_eq_ok, checkAll_eq_ok, not_or] at h
  obtain ⟨_, ⟨_, hid, _, ⟨-, -, -, htime, -⟩, htickers⟩, -⟩ := h
  exact ⟨hid, htime, htickers⟩

theorem checkedVector_eq {headline : NewsHeadline}
    (h : validateHeadlineAvailability headline = .ok ())
    {target : String × Nat} (htarget : isCanonicalId target.1 = true) :
    checkedVector headline textLower target =
        .ok (vectorOf headline textLower target) ∧
      (vectorOf headline textLower target).validate = .ok () := by
  obtain ⟨hid, htime, -⟩ := validateHeadlineAvailability_eq_ok h
  have hvalid : (vectorOf headline textLower target).validate = .ok () := by
    simp only [SentimentVector.validate, bind_eq_ok, validateCanonicalId_eq_ok,
      refuseIf_eq_ok, not_or, not_not, not_lt]
    have hnovelty : (10000 : UInt32).toNat ≤ 10000 := by decide
    exact ⟨(), sentimentId_canonical _ hid, (), hid, (), htarget, htime,
      polarity_bounds _, confidence_le _ _, hnovelty⟩
  refine ⟨?_, hvalid⟩
  rw [checkedVector]
  simp only [hvalid]
  rfl

theorem mem_vectorsOf {headline : NewsHeadline}
    (h : validateHeadlineAvailability headline = .ok ())
    {vector : SentimentVector} (hmem : vector ∈ vectorsOf toLowercase headline) :
    vector.validate = .ok () ∧ vector.causationNewsId = headline.newsId ∧
      vector.eventTimeNs = headline.eventTimeNs ∧
      ∃ index, vector.eventId = sentimentId headline.newsId index := by
  obtain ⟨-, -, htickers⟩ := validateHeadlineAvailability_eq_ok h
  obtain ⟨target, htarget, rfl⟩ := mem_map.mp hmem
  have hinstrument := canonical_of_resolveEntities htickers
    (List.fst_mem_of_mem_zipIdx htarget)
  exact ⟨(checkedVector_eq h hinstrument).2, rfl, rfl, target.2, rfl⟩

theorem extractSentimentVectors_eq {headline : NewsHeadline}
    (h : validateHeadlineAvailability headline = .ok ()) :
    extractSentimentVectors toLowercase headline =
      .ok (vectorsOf toLowercase headline) := by
  obtain ⟨-, -, htickers⟩ := validateHeadlineAvailability_eq_ok h
  simp only [extractSentimentVectors, h, vectorsOf]
  exact collect_eq_map fun target htarget =>
    (checkedVector_eq h (canonical_of_resolveEntities htickers
      (List.fst_mem_of_mem_zipIdx htarget))).1

theorem vectorsOf_ids_nodup (toLowercase : String → String)
    {headlines : List NewsHeadline}
    (h : ∀ headline ∈ headlines, validateHeadlineAvailability headline = .ok ())
    (hids : (headlines.map NewsHeadline.newsId).Nodup) :
    ((headlines.flatMap (vectorsOf toLowercase)).map
      SentimentVector.eventId).Nodup := by
  induction headlines with
  | nil => exact List.nodup_nil
  | cons headline rest ih =>
    rw [forall_mem_cons] at h
    rw [map_cons, nodup_cons] at hids
    rw [flatMap_cons, map_append, List.nodup_append]
    refine ⟨?_, ih h.2 hids.2, ?_⟩
    · have hids : (vectorsOf toLowercase headline).map
          SentimentVector.eventId = ((resolveEntities (toLowercase headline.headline)
              headline.entityTickers).zipIdx.map Prod.snd).map
                (sentimentId headline.newsId) := by
        rw [vectorsOf, map_map, map_map]
        rfl
      rw [hids]
      exact (List.nodup_zipIdx_map_snd _).map fun _ _ hsame =>
        (sentimentId_inj hsame).2
    · intro id hid other hother hsame
      obtain ⟨vector, hvector, rfl⟩ := mem_map.mp hid
      obtain ⟨vector', hvector', rfl⟩ := mem_map.mp hother
      obtain ⟨later, hlater, hvector'⟩ := List.mem_flatMap.mp hvector'
      obtain ⟨-, -, -, index, hindex⟩ := mem_vectorsOf h.1 hvector
      obtain ⟨-, -, -, index', hindex'⟩ :=
        mem_vectorsOf (h.2 later hlater) hvector'
      rw [hindex, hindex'] at hsame
      apply hids.1
      rw [(sentimentId_inj hsame).1]
      exact mem_map_of_mem hlater

end NlpSentimentEngine

/-! ## Pushing one item -/

namespace ReplayNewsFeed

variable {id : String} {sentiment : SentimentVector}

theorem insert_of_mem {set : OrderedSet String} (h : id ∈ set) : set.insert id = set := by
  ext other
  rw [mem_insert]
  constructor
  · rintro (hsame | hmem)
    · rwa [← Std.LawfulEqCmp.eq_of_compare hsame]
    · exact hmem
  · exact .inr

def addHeadline (feed : ReplayNewsFeed) (headline : NewsHeadline) : ReplayNewsFeed where
  events := feed.events ++ [.headline headline]
  headlineIds := feed.headlineIds.insert headline.newsId
  headlineSequences :=
    feed.headlineSequences.insert headline.newsId headline.sequenceNumber
  headlineSources :=
    feed.headlineSources.insert headline.newsId headline.source
  headlineEventTimes :=
    feed.headlineEventTimes.insert headline.newsId headline.eventTimeNs
  headlineAvailabilityTimes :=
    feed.headlineAvailabilityTimes.insert headline.newsId
      headline.receiveTimeNs
  sentimentIds := feed.sentimentIds

def addSentiment (feed : ReplayNewsFeed) (sentiment : SentimentVector) : ReplayNewsFeed :=
  { feed with
    events := feed.events ++ [.sentiment sentiment]
    sentimentIds := feed.sentimentIds.insert sentiment.eventId }

theorem run_pure_bind {α β : Type} (a : α)
    (f : α → Fallible ReplayNewsFeed PaperError β) (feed : ReplayNewsFeed) :
    (pure a >>= f).run feed = (f a).run feed :=
  rfl

theorem run_push_headline (feed : ReplayNewsFeed) (headline : NewsHeadline) :
    (push (.headline headline)).run feed =
      match validateHeadlineAvailability headline with
      | .error e => (.error e, feed)
      | .ok () =>
        if headline.newsId ∈ feed.headlineIds then
          (.error ⟨"duplicate news_id in replay input"⟩, feed)
        else (.ok (), sortEvents (feed.addHeadline headline)) := by
  cases hvalid : validateHeadlineAvailability headline with
  | error e =>
    simp only [push, accept, acceptHeadline, hvalid]
    rfl
  | ok checked =>
    by_cases hmem : headline.newsId ∈ feed.headlineIds
    · simp [push, accept, acceptHeadline, insertHeadlineId, hvalid, hmem,
        bind_bind, run_pure_bind, refuseIf, insert_of_mem hmem]
    · simp [push, accept, acceptHeadline, insertHeadlineId, hvalid, hmem,
        bind_bind, run_pure_bind, refuseIf, addHeadline]

theorem run_push_sentiment (feed : ReplayNewsFeed) (sentiment : SentimentVector) :
    (push (.sentiment sentiment)).run feed =
      match sentiment.validate with
      | .error e => (.error e, feed)
      | .ok () =>
        if sentiment.causationNewsId ∉ feed.headlineIds then
          (.error ⟨"news sentiment has no preceding causation headline"⟩, feed)
        else if sentiment.eventTimeNs ≠ expected
            feed.headlineEventTimes[sentiment.causationNewsId]? 0 then
          (.error ⟨"news sentiment source event time must match its " ++
            "causation headline"⟩, feed)
        else if sentiment.eventId ∈ feed.sentimentIds then
          (.error ⟨"duplicate sentiment event_id in replay input"⟩, feed)
        else (.ok (), sortEvents (feed.addSentiment sentiment)) := by
  cases hvalid : sentiment.validate with
  | error e =>
    simp only [push, accept, acceptSentiment, hvalid]
    rfl
  | ok checked =>
    by_cases hcause : sentiment.causationNewsId ∈ feed.headlineIds
    · by_cases htime : sentiment.eventTimeNs = expected
          feed.headlineEventTimes[sentiment.causationNewsId]? 0
      · by_cases hmem : sentiment.eventId ∈ feed.sentimentIds
        · simp [push, accept, acceptSentiment, insertSentimentId, hvalid, hcause, htime,
            hmem, bind_bind, run_pure_bind, refuseIf, insert_of_mem hmem]
        · simp [push, accept, acceptSentiment, insertSentimentId, hvalid, hcause, htime,
            hmem, bind_bind, run_pure_bind, refuseIf, addSentiment]
      · simp [push, accept, acceptSentiment, hvalid, hcause, htime, bind_bind, refuseIf]
    · simp [push, accept, acceptSentiment, hvalid, hcause, bind_bind, refuseIf]

variable {feed : ReplayNewsFeed} {headlines : List NewsHeadline}
  {sentiments : List SentimentVector}

theorem push_error_keeps {feed' : ReplayNewsFeed} {item : NewsReplayItem}
    {e : PaperError} (h : (push item).run feed = (.error e, feed')) : feed' = feed := by
  cases item with
  | headline headline =>
    rw [run_push_headline] at h
    split at h
    · exact (congrArg Prod.snd h).symm
    · split at h
      · exact (congrArg Prod.snd h).symm
      · cases h
  | sentiment sentiment =>
    rw [run_push_sentiment] at h
    split at h
    · exact (congrArg Prod.snd h).symm
    · split at h
      · exact (congrArg Prod.snd h).symm
      · split at h
        · exact (congrArg Prod.snd h).symm
        · split at h
          · exact (congrArg Prod.snd h).symm
          · cases h

theorem pushed_headline {headline : NewsHeadline}
    (h : validateHeadlineAvailability headline = .ok ())
    (hnew : headline.newsId ∉ feed.headlineIds) : feed.pushed (.headline headline) =
      .ok (sortEvents (feed.addHeadline headline)) := by
  rw [pushed, run_push_headline, h]
  simp only [if_neg hnew]

theorem pushed_sentiment (h : sentiment.validate = .ok ())
    (hcause : sentiment.causationNewsId ∈ feed.headlineIds)
    (htime : feed.headlineEventTimes[sentiment.causationNewsId]? =
      some sentiment.eventTimeNs) (hnew : sentiment.eventId ∉ feed.sentimentIds) :
    feed.pushed (.sentiment sentiment) =
      .ok (sortEvents (feed.addSentiment sentiment)) := by
  have hsame : ¬sentiment.eventTimeNs ≠ expected
      feed.headlineEventTimes[sentiment.causationNewsId]? 0 := by
    rw [htime]
    exact fun hne => hne rfl
  rw [pushed, run_push_sentiment, h]
  simp only [if_neg hsame, if_neg (not_not.mpr hcause), if_neg hnew]

/-! ## What a feed knows -/

structure Knows (feed : ReplayNewsFeed) (headline : NewsHeadline) : Prop where
  source : feed.headlineSources[headline.newsId]? = some headline.source
  sequence :
    feed.headlineSequences[headline.newsId]? = some headline.sequenceNumber
  eventTime :
    feed.headlineEventTimes[headline.newsId]? = some headline.eventTimeNs
  availability : feed.headlineAvailabilityTimes[headline.newsId]? =
    some headline.receiveTimeNs

def Causes (headline : NewsHeadline) (sentiment : SentimentVector) : Prop :=
  sentiment.causationNewsId = headline.newsId ∧
    sentiment.eventTimeNs = headline.eventTimeNs

structure Holds (headlines : List NewsHeadline)
    (sentiments : List SentimentVector) (feed : ReplayNewsFeed) : Prop where
  headlineIds : ∀ id, id ∈ feed.headlineIds ↔ ∃ headline ∈ headlines, headline.newsId = id
  sentimentIds : ∀ id, id ∈ feed.sentimentIds ↔
    ∃ sentiment ∈ sentiments, sentiment.eventId = id
  knows : ∀ headline ∈ headlines, feed.Knows headline
  caused : ∀ sentiment ∈ sentiments, ∃ headline ∈ headlines, Causes headline sentiment
  events : feed.events.Perm (headlines.map NewsReplayItem.headline ++
    sentiments.map NewsReplayItem.sentiment)
  sorted : feed.events.Pairwise fun left right =>
    feed.replayItemSortKey left ≤ feed.replayItemSortKey right

theorem holds_new : Holds [] [] new where
  headlineIds id := by simp [new]
  sentimentIds id := by simp [new]
  knows headline h := absurd h not_mem_nil
  caused sentiment h := absurd h not_mem_nil
  events := List.Perm.refl []
  sorted := List.Pairwise.nil

theorem sortEvents_sorted (feed : ReplayNewsFeed) :
    (sortEvents feed).events.Pairwise fun left right =>
      (sortEvents feed).replayItemSortKey left ≤
        (sortEvents feed).replayItemSortKey right :=
  pairwise_insertionSort _ _

theorem sortEvents_perm (feed : ReplayNewsFeed) :
    (sortEvents feed).events.Perm feed.events :=
  perm_insertionSort _ _

theorem Holds.addHeadline (h : Holds headlines sentiments feed)
    {headline : NewsHeadline} (hnew : headline.newsId ∉ feed.headlineIds) :
    Holds (headlines ++ [headline]) sentiments
      (sortEvents (feed.addHeadline headline)) where
  headlineIds id := by
    change id ∈ feed.headlineIds.insert headline.newsId ↔ _
    rw [mem_insert, h.headlineIds, Std.LawfulEqCmp.compare_eq_iff_eq]
    simp only [mem_append, mem_singleton, or_and_right, exists_or, exists_eq_left]
    exact or_comm
  sentimentIds := h.sentimentIds
  knows other hother := by
    rcases mem_append.mp hother with hother | hother
    · have hne : headline.newsId ≠ other.newsId := by
        intro hsame
        exact hnew ((h.headlineIds _).mpr ⟨other, hother, hsame.symm⟩)
      obtain ⟨hsource, hsequence, htime, havailability⟩ := h.knows other hother
      constructor <;>
        simp [sortEvents, ReplayNewsFeed.addHeadline, getElem?_insert,
          hne, hsource, hsequence, htime, havailability]
    · obtain rfl := mem_singleton.mp hother
      constructor <;>
        simp [sortEvents, ReplayNewsFeed.addHeadline]
  caused sentiment hsentiment := by
    obtain ⟨cause, hcause, hcaused⟩ := h.caused sentiment hsentiment
    exact ⟨cause, mem_append_left _ hcause, hcaused⟩
  events := by
    refine (sortEvents_perm _).trans ?_
    change (feed.events ++ [NewsReplayItem.headline headline]).Perm _
    rw [map_append, append_assoc]
    refine (h.events.append_right _).trans ?_
    rw [append_assoc]
    exact (List.perm_append_comm).append_left _
  sorted := sortEvents_sorted _

theorem Holds.addSentiment (h : Holds headlines sentiments feed)
    (hcaused : ∃ headline ∈ headlines, Causes headline sentiment) :
    Holds headlines (sentiments ++ [sentiment])
      (sortEvents (feed.addSentiment sentiment)) where
  headlineIds := h.headlineIds
  sentimentIds id := by
    change id ∈ feed.sentimentIds.insert sentiment.eventId ↔ _
    rw [mem_insert, h.sentimentIds, Std.LawfulEqCmp.compare_eq_iff_eq]
    simp only [mem_append, mem_singleton, or_and_right, exists_or, exists_eq_left]
    exact or_comm
  knows headline hheadline := by
    obtain ⟨hsource, hsequence, htime, havailability⟩ :=
      h.knows headline hheadline
    exact ⟨hsource, hsequence, htime, havailability⟩
  caused other hother := by
    rcases mem_append.mp hother with hother | hother
    · exact h.caused other hother
    · obtain rfl := mem_singleton.mp hother
      exact hcaused
  events := by
    refine (sortEvents_perm _).trans ?_
    change (feed.events ++ [NewsReplayItem.sentiment sentiment]).Perm _
    rw [map_append, ← append_assoc]
    exact h.events.append_right _
  sorted := sortEvents_sorted _

/-! ## Building a feed -/

theorem pushSentiments_holds {more : List SentimentVector}
    (h : Holds headlines sentiments feed)
    (hvalid : ∀ sentiment ∈ more, sentiment.validate = .ok () ∧
      ∃ headline ∈ headlines, Causes headline sentiment)
    (hids : ((sentiments ++ more).map SentimentVector.eventId).Nodup) :
    ∃ feed', more.foldlM
        (fun feed sentiment => feed.pushed (.sentiment sentiment)) feed
        = .ok feed' ∧ Holds headlines (sentiments ++ more) feed' := by
  induction more generalizing sentiments feed with
  | nil =>
    rw [append_nil]
    exact ⟨feed, rfl, h⟩
  | cons sentiment more ih =>
    rw [forall_mem_cons] at hvalid
    obtain ⟨⟨hsentiment, headline, hmem, hcause, htime⟩, hmore⟩ := hvalid
    have hnew : sentiment.eventId ∉ feed.sentimentIds := by
      rw [h.sentimentIds]
      rintro ⟨other, hother, hsame⟩
      rw [map_append, map_cons, List.nodup_append] at hids
      exact hids.2.2 _ (mem_map_of_mem hother) _ mem_cons_self hsame
    have hpushed := pushed_sentiment hsentiment
      ((h.headlineIds _).mpr ⟨headline, hmem, hcause.symm⟩)
      (by rw [hcause, (h.knows headline hmem).eventTime, htime]) hnew
    rw [List.append_cons] at hids ⊢
    obtain ⟨feed', hrest, hholds⟩ :=
      ih (h.addSentiment ⟨headline, hmem, hcause, htime⟩) hmore hids
    refine ⟨feed', ?_, hholds⟩
    rw [foldlM_cons, hpushed]
    exact hrest

open NlpSentimentEngine in
theorem pushHeadline_holds {toLowercase : String → String}
    (h : Holds headlines sentiments feed) {headline : NewsHeadline}
    (hvalid : validateHeadlineAvailability headline = .ok ())
    (hnew : headline.newsId ∉ headlines.map NewsHeadline.newsId)
    (hids : ((sentiments ++ vectorsOf toLowercase headline).map
      SentimentVector.eventId).Nodup) :
    ∃ feed', pushHeadline toLowercase feed headline = .ok feed' ∧
      Holds (headlines ++ [headline])
        (sentiments ++ vectorsOf toLowercase headline) feed' := by
  have hfresh : headline.newsId ∉ feed.headlineIds := by
    rw [h.headlineIds]
    rintro ⟨other, hother, hsame⟩
    exact hnew (hsame ▸ mem_map_of_mem hother)
  obtain ⟨feed', hvectors, hholds⟩ := pushSentiments_holds
    (h.addHeadline hfresh) (fun sentiment hsentiment => by
      obtain ⟨hok, hcause, htime, -⟩ := mem_vectorsOf hvalid hsentiment
      exact ⟨hok, headline, mem_append_right _ mem_cons_self, hcause, htime⟩) hids
  refine ⟨feed', ?_, hholds⟩
  simp only [pushHeadline, bind_eq_ok]
  exact ⟨_, pushed_headline hvalid hfresh, _, extractSentimentVectors_eq hvalid, hvectors⟩

open NlpSentimentEngine in
theorem pushHeadlines_holds {toLowercase : String → String}
    {seen rest : List NewsHeadline} {feed : ReplayNewsFeed}
    (h : Holds seen (seen.flatMap (vectorsOf toLowercase)) feed)
    (hvalid : ∀ headline ∈ seen ++ rest, validateHeadlineAvailability headline = .ok ())
    (hids : ((seen ++ rest).map NewsHeadline.newsId).Nodup) :
    ∃ feed', rest.foldlM (pushHeadline toLowercase) feed = .ok feed' ∧
      Holds (seen ++ rest)
        ((seen ++ rest).flatMap (vectorsOf toLowercase)) feed' := by
  induction rest generalizing seen feed with
  | nil =>
    rw [append_nil]
    exact ⟨feed, rfl, h⟩
  | cons headline rest ih =>
    rw [List.append_cons] at hvalid hids ⊢
    have hnow : ∀ other ∈ seen ++ [headline],
        validateHeadlineAvailability other = .ok () :=
      fun other hother => hvalid other (mem_append_left _ hother)
    have hnowIds : ((seen ++ [headline]).map NewsHeadline.newsId).Nodup := by
      rw [map_append, List.nodup_append] at hids
      exact hids.1
    have hvectors := vectorsOf_ids_nodup toLowercase hnow hnowIds
    rw [List.flatMap_append, List.flatMap_singleton] at hvectors
    have hnew : headline.newsId ∉ seen.map NewsHeadline.newsId := by
      rw [map_append, List.map_singleton, List.nodup_append] at hnowIds
      intro hmem
      exact hnowIds.2.2 _ hmem _ mem_cons_self rfl
    obtain ⟨next', hnext, hholds⟩ := pushHeadline_holds h
      (hnow headline (mem_append_right _ mem_cons_self)) hnew
      hvectors
    rw [← List.flatMap_singleton (vectorsOf toLowercase) headline,
      ← List.flatMap_append] at hholds
    obtain ⟨feed', hrest, hall⟩ := ih hholds hvalid hids
    refine ⟨feed', ?_, hall⟩
    rw [foldlM_cons, hnext]
    exact hrest

/-! ## Order and causality -/

def sortedHeadlines (headlines : List NewsHeadline) : List NewsHeadline :=
  headlines.insertionSort fun left right =>
    headlineReplaySortKey left ≤ headlineReplaySortKey right

theorem sortedHeadlines_perm {other : List NewsHeadline}
    (hids : (headlines.map NewsHeadline.newsId).Nodup) (hperm : other.Perm headlines) :
    sortedHeadlines other = sortedHeadlines headlines := by
  apply KeyedRows.insertionSort_perm _ hperm
  refine List.Nodup.of_map (fun key : HeadlineKey =>
    (ofLex (ofLex (ofLex (ofLex key).2).2).2).2) ?_
  rw [map_map]
  exact hids

theorem keyOf_le {availability availability' : UInt64} {source source' : String}
    {sequence sequence' eventTime eventTime' : UInt64} {kind kind' : Nat}
    {id' : String} (h : keyOf availability source sequence kind eventTime id ≤
      keyOf availability' source' sequence' kind' eventTime' id') :
    availability ≤ availability' := by
  rw [keyOf, keyOf, Prod.Lex.toLex_le_toLex] at h
  rw [UInt64.le_iff_toNat_le]
  rcases h with hlt | ⟨hsame, -⟩
  · exact hlt.le
  · exact hsame.le

theorem keyOf_headline_lt (availability : UInt64) (source : String)
    (sequence eventTime eventTime' : UInt64) (id id' : String) :
    keyOf availability source sequence 0 eventTime id <
      keyOf availability source sequence 1 eventTime' id' := by
  simp [keyOf, Prod.Lex.toLex_lt_toLex]

namespace Holds

variable {headlines : List NewsHeadline} {sentiments : List SentimentVector}
  {feed : ReplayNewsFeed}

theorem causes_of_mem (h : Holds headlines sentiments feed)
    {item : NewsReplayItem} (hitem : item ∈ feed.events) : ∃ headline ∈ headlines,
      feed.availabilityTimeNs item = some headline.receiveTimeNs ∧
      ∃ kind eventTime id, feed.replayItemSortKey item =
        keyOf headline.receiveTimeNs headline.source.asStr
          headline.sequenceNumber kind eventTime id := by
  rcases mem_append.mp (h.events.mem_iff.mp hitem) with hmem | hmem
  · obtain ⟨headline, hheadline, rfl⟩ := mem_map.mp hmem
    exact ⟨headline, hheadline, (h.knows headline hheadline).availability, _, _, _, rfl⟩
  · obtain ⟨sentiment, hsentiment, rfl⟩ := mem_map.mp hmem
    obtain ⟨headline, hheadline, hcause, -⟩ := h.caused sentiment hsentiment
    obtain ⟨hsource, hsequence, -, havailability⟩ := h.knows headline hheadline
    refine ⟨headline, hheadline, ?_, 1, sentiment.eventTimeNs, sentiment.eventId, ?_⟩
    · rw [availabilityTimeNs, hcause, havailability]
    · simp only [replayItemSortKey, hcause, hsource, hsequence, havailability]
      rfl

theorem availability_le (h : Holds headlines sentiments feed) :
    feed.events.Pairwise fun left right =>
      ∃ time ∈ feed.availabilityTimeNs left,
        ∃ time' ∈ feed.availabilityTimeNs right, time ≤ time' := by
  refine h.sorted.imp_of_mem ?_
  intro left right hleft hright hle
  obtain ⟨headline, -, htime, _, _, _, hkey⟩ := h.causes_of_mem hleft
  obtain ⟨headline', -, htime', _, _, _, hkey'⟩ := h.causes_of_mem hright
  rw [hkey, hkey'] at hle
  exact ⟨_, htime, _, htime', keyOf_le hle⟩

theorem causal (h : Holds headlines sentiments feed)
    {before after : List NewsReplayItem} {sentiment : SentimentVector}
    (hevents : feed.events = before ++ .sentiment sentiment :: after) :
    ∃ headline ∈ headlines, .headline headline ∈ before ∧
      headline.newsId = sentiment.causationNewsId ∧
      feed.availabilityTimeNs (.headline headline) = some headline.receiveTimeNs ∧
      feed.availabilityTimeNs (.sentiment sentiment) =
        some headline.receiveTimeNs := by
  have hmem : .sentiment sentiment ∈ feed.events := by
    rw [hevents]
    exact mem_append_right _ mem_cons_self
  have hsentiment : sentiment ∈ sentiments := by
    have hall := h.events.mem_iff.mp hmem
    simpa using hall
  obtain ⟨headline, hheadline, hcause, -⟩ := h.caused sentiment hsentiment
  have hknown := h.knows headline hheadline
  refine ⟨headline, hheadline, ?_, hcause.symm, hknown.availability, ?_⟩
  · have hfound : .headline headline ∈ feed.events :=
      h.events.mem_iff.mpr
        (mem_append_left _ (mem_map_of_mem hheadline))
    rw [hevents] at hfound
    rcases mem_append.mp hfound with hbefore | hafter
    · exact hbefore
    · rcases mem_cons.mp hafter with hsame | hafter
      · contradiction
      · have hsorted := h.sorted
        rw [hevents, pairwise_append, pairwise_cons] at hsorted
        have hle := hsorted.2.1.1 _ hafter
        have hlt := keyOf_headline_lt headline.receiveTimeNs
          headline.source.asStr headline.sequenceNumber headline.eventTimeNs
          sentiment.eventTimeNs headline.newsId sentiment.eventId
        simp only [replayItemSortKey, hcause, hknown.source, hknown.sequence,
          hknown.availability] at hle
        exact absurd hlt (not_lt.mpr hle)
  · rw [availabilityTimeNs, hcause, hknown.availability]

end Holds

/-- Any order of the headlines gives one feed, which holds each of them and
what was extracted from it, in an order that shows nothing early. -/
theorem news_feed_causal (toLowercase : String → String) :
    (∀ headlines : List NewsHeadline, (∀ headline ∈ headlines,
        validateHeadlineAvailability headline = .ok ()) →
      (headlines.map NewsHeadline.newsId).Nodup →
      ∃ feed vectors, (∀ other : List NewsHeadline, other.Perm headlines →
          fromHeadlines toLowercase other = .ok feed) ∧
        collect (NlpSentimentEngine.extractSentimentVectors toLowercase)
          headlines = .ok vectors ∧
        feed.events.Perm (headlines.map NewsReplayItem.headline ++
          vectors.flatten.map NewsReplayItem.sentiment) ∧
        (feed.events.Pairwise fun left right =>
          ∃ time ∈ feed.availabilityTimeNs left,
            ∃ time' ∈ feed.availabilityTimeNs right, time ≤ time') ∧
        ∀ before sentiment after, feed.events = before ++ .sentiment sentiment :: after →
          ∃ headline ∈ headlines, .headline headline ∈ before ∧
            headline.newsId = sentiment.causationNewsId ∧
            feed.availabilityTimeNs (.headline headline) = some headline.receiveTimeNs ∧
            feed.availabilityTimeNs (.sentiment sentiment) =
              some headline.receiveTimeNs) ∧
    ∀ (feed feed' : ReplayNewsFeed) (item : NewsReplayItem) (e : PaperError),
      (push item).run feed = (.error e, feed') → feed' = feed := by
  refine ⟨?_, fun feed feed' item e => push_error_keeps⟩
  intro headlines hvalid hids
  have hperm : (sortedHeadlines headlines).Perm headlines := perm_insertionSort _ _
  have hsorted : ∀ headline ∈ [] ++ sortedHeadlines headlines,
      validateHeadlineAvailability headline = .ok () :=
    fun headline hmem => hvalid headline (hperm.mem_iff.mp hmem)
  obtain ⟨feed, hfeed, hholds⟩ := @pushHeadlines_holds toLowercase _ _ _
    holds_new hsorted ((hperm.map _).nodup_iff.mpr hids)
  rw [nil_append] at hholds
  refine ⟨feed, headlines.map (NlpSentimentEngine.vectorsOf toLowercase), ?_,
    ?_, ?_, hholds.availability_le, ?_⟩
  · intro other hother
    have hsame := sortedHeadlines_perm hids hother
    unfold sortedHeadlines at hsame hfeed
    rw [fromHeadlines, hsame]
    exact hfeed
  · exact collect_eq_map fun headline hmem =>
      NlpSentimentEngine.extractSentimentVectors_eq (hvalid headline hmem)
  · refine hholds.events.trans ?_
    rw [← List.flatMap_def]
    exact (hperm.map _).append ((hperm.flatMap_right _).map _)
  · intro before sentiment after hevents
    obtain ⟨headline, hheadline, hrest⟩ := hholds.causal hevents
    exact ⟨headline, hperm.mem_iff.mp hheadline, hrest⟩

end ReplayNewsFeed

namespace FeedSample

def headline (newsId text : String) (receiveTimeNs : UInt64) : NewsHeadline where
  newsId
  source := .dowJones
  headline := text
  rawBodyHash :=
    "0000000000000000000000000000000000000000000000000000000000000000"
  sequenceNumber := 1
  eventTimeNs := 1000
  receiveTimeNs
  entityTickers := ["aapl.us"]

def first : NewsHeadline := headline "news.001" "Apple reports record quarter" 1050

def second : NewsHeadline := headline "news.002" "Tesla misses forecast" 1100

/-- Either order of the two headlines gives one feed. -/
theorem news_feed_causal_sample :
    ∃ feed, ReplayNewsFeed.fromHeadlines String.toLower [second, first] = .ok feed ∧
      ReplayNewsFeed.fromHeadlines String.toLower [first, second]
        = .ok feed := by
  have hvalid : ∀ headline ∈ [first, second],
      validateHeadlineAvailability headline = .ok () := by
    decide +kernel
  obtain ⟨feed, vectors, hfeed, -⟩ :=
    (ReplayNewsFeed.news_feed_causal String.toLower).1 [first, second] hvalid
      (by decide)
  exact ⟨feed, hfeed [second, first] (List.Perm.swap _ _ _),
    hfeed [first, second] (List.Perm.refl _)⟩

end FeedSample

end Follon.News
