import Follon.Foundation.Fallible
import Follon.Foundation.SequenceCover
import Follon.Foundation.Transition
import Follon.MarketData.SequenceRanges

/-!
# Feed quality

The monitor of one feed: it classifies each quote and, per instrument, keeps
the last sequence.  Over any run the ranges reported as missing are exactly
the sequences passed over.
-/

namespace Follon.MarketData

open Foundation Domain Fallible

inductive FeedStatus
  | healthy
  | delayed
  | stale
  | sequenceGap
  | outOfOrder
  | duplicate
  deriving DecidableEq

structure FeedQualityPolicy where
  (maximumTransportDelayMilliseconds maximumStalenessSeconds : Int)

structure FeedQualitySnapshot where
  (instrumentId quoteId : String)
  sourceSequence : UInt64
  status : FeedStatus
  (transportDelayMilliseconds stalenessSeconds : Int)
  (missingSequenceFrom missingSequenceTo : Option UInt64)

structure FeedQualityMonitor where
  lastSequence : OrderedMap String UInt64
  quoteIds : OrderedSet String

def FeedStatus.moves : FeedStatus → Bool
  | .healthy | .delayed | .stale | .sequenceGap => true
  | .outOfOrder | .duplicate => false

namespace FeedQualityMonitor

def empty : FeedQualityMonitor where
  lastSequence := ∅
  quoteIds := ∅

/-! ## One observation -/

def missingAfter (prior : Option UInt64) (sequence : UInt64) : Option (UInt64 × UInt64) :=
  prior.bind fun previous =>
    ((checkedSucc previous).filter fun expected => expected < sequence).map
      fun expected => (expected, sequence - 1)

def statusOf (policy : FeedQualityPolicy) (duplicate : Bool)
    (prior : Option UInt64) (sequence : UInt64)
    (stalenessSeconds transportDelayMilliseconds : Int) : FeedStatus :=
  if duplicate then
    .duplicate
  else if prior.any (fun previous => sequence < previous) ∨
      prior = some sequence then
    .outOfOrder
  else if (missingAfter prior sequence).isSome then
    .sequenceGap
  else if policy.maximumStalenessSeconds < stalenessSeconds then
    .stale
  else if policy.maximumTransportDelayMilliseconds <
      transportDelayMilliseconds then
    .delayed
  else
    .healthy

def observe (quote : Quote) (asOf : String) (policy : FeedQualityPolicy) :
    Fallible FeedQualityMonitor PaperError FeedQualitySnapshot := do
  lift quote.validate
  let monitor ← read
  lift (refuseIf (policy.maximumTransportDelayMilliseconds < 0 ∨
      policy.maximumStalenessSeconds < 0 ∨ 10000000 < monitor.quoteIds.size)
    "invalid feed-quality policy or state")
  let eventTime ← lift (parseUtc quote.eventTime)
  let receivedAt ← lift (parseUtc quote.receivedAt)
  let asOf ← lift (parseUtc asOf)
  lift (refuseIf (asOf < receivedAt) "feed decision time precedes adapter receipt")
  let transportDelayMilliseconds := (receivedAt - eventTime).tdiv 1000000
  let stalenessSeconds := (asOf - eventTime).tdiv 1000000000
  let duplicate := monitor.quoteIds.contains quote.quoteId
  let prior := monitor.lastSequence[quote.instrumentId]?
  let gap := missingAfter prior quote.sourceSequence
  let status := statusOf policy duplicate prior quote.sourceSequence
    stalenessSeconds transportDelayMilliseconds
  update fun monitor =>
    if duplicate then
      monitor
    else
      { monitor with quoteIds := monitor.quoteIds.insert quote.quoteId }
  update fun monitor =>
    if status.moves then
      { monitor with lastSequence :=
          monitor.lastSequence.insert quote.instrumentId quote.sourceSequence }
    else
      monitor
  pure
    { instrumentId := quote.instrumentId, quoteId := quote.quoteId
      sourceSequence := quote.sourceSequence
      status, transportDelayMilliseconds, stalenessSeconds
      missingSequenceFrom := gap.map Prod.fst
      missingSequenceTo := gap.map Prod.snd }

end FeedQualityMonitor

/-! ## What an observation reports -/

namespace FeedQualitySnapshot

def missingRange (snapshot : FeedQualitySnapshot) : Option (ℕ × ℕ) :=
  if snapshot.status = .sequenceGap then
    snapshot.missingSequenceFrom.bind fun missingFrom =>
      snapshot.missingSequenceTo.map fun missingTo =>
        (missingFrom.toNat, missingTo.toNat)
  else
    none

end FeedQualitySnapshot

def observedSequences (instrumentId : String)
    (snapshots : List FeedQualitySnapshot) : List ℕ :=
  (snapshots.filter fun snapshot =>
    snapshot.instrumentId = instrumentId ∧ snapshot.status.moves).map
      fun snapshot => snapshot.sourceSequence.toNat

def missingRanges (instrumentId : String)
    (snapshots : List FeedQualitySnapshot) : List (ℕ × ℕ) :=
  (snapshots.filter fun snapshot =>
    snapshot.instrumentId = instrumentId).filterMap
      FeedQualitySnapshot.missingRange

namespace FeedQualityMonitor

variable {sequence : UInt64} {policy : FeedQualityPolicy} {duplicate : Bool}
  {prior : Option UInt64} {staleness delay : Int}

theorem missingAfter_none (sequence : UInt64) : missingAfter none sequence = none := rfl

theorem missingAfter_some {previous : UInt64} (h : previous < sequence) :
    ((missingAfter (some previous) sequence).map fun gap =>
        (gap.1.toNat, gap.2.toNat)).toList =
      skipped (some previous.toNat) sequence.toNat := by
  have hsucc := toNat_succ h
  have hpred := toNat_pred h
  have hlimit := sequence.toNat_lt
  have hlt := UInt64.lt_iff_toNat_lt.mp h
  have hchecked : checkedSucc previous = some (previous + 1) := by
    unfold checkedSucc
    rw [if_pos (by omega)]
  rw [skipped_some, missingAfter, bind_some, hchecked]
  by_cases hgap : previous + 1 < sequence
  · have hgap' := UInt64.lt_iff_toNat_lt.mp hgap
    rw [hsucc] at hgap'
    rw [Option.filter_some_pos (by simpa using hgap), if_pos hgap']
    simp only [Option.map_some, Option.toList_some, hsucc, hpred]
  · have hgap' := mt UInt64.lt_iff_toNat_lt.mpr hgap
    rw [hsucc] at hgap'
    rw [Option.filter_some_neg (by simpa using hgap), if_neg hgap']
    rfl

theorem statusOf_moves :
    (statusOf policy duplicate prior sequence staleness delay).moves = true ↔
      duplicate = false ∧ ∀ previous ∈ prior, previous < sequence := by
  have hordered : (prior.any (fun previous => sequence < previous) = true ∨
      prior = some sequence) ↔ ¬∀ previous ∈ prior, previous < sequence := by
    cases prior with
    | none => simp
    | some previous =>
      simp only [Option.any_some, decide_eq_true_eq, Option.some.injEq,
        Option.mem_def, forall_eq', UInt64.not_lt, UInt64.le_iff_lt_or_eq]
      exact or_congr_right eq_comm
  unfold statusOf
  cases duplicate with
  | true => simp [FeedStatus.moves]
  | false =>
    rw [if_neg Bool.false_ne_true]
    by_cases hahead : ∀ previous ∈ prior, previous < sequence
    · rw [if_neg (mt hordered.mp (not_not.mpr hahead))]
      constructor
      · intro _
        exact ⟨rfl, hahead⟩
      · intro _
        split
        · rfl
        · split
          · rfl
          · split <;> rfl
    · rw [if_pos (hordered.mpr hahead)]
      constructor
      · nofun
      · rintro ⟨-, h⟩
        exact absurd h hahead

theorem statusOf_sequenceGap :
    statusOf policy duplicate prior sequence staleness delay = .sequenceGap ↔
      (statusOf policy duplicate prior sequence staleness delay).moves = true ∧
        (missingAfter prior sequence).isSome = true := by
  unfold statusOf
  split
  · simp [FeedStatus.moves]
  · split
    · simp [FeedStatus.moves]
    · split
      · next h => simp [FeedStatus.moves, h]
      · next h =>
          constructor
          · intro hstatus
            split at hstatus
            · contradiction
            · split at hstatus <;> contradiction
          · rintro ⟨-, hgap⟩
            exact absurd hgap h

theorem missingRange_eq (snapshot : FeedQualitySnapshot)
    (hfrom : snapshot.missingSequenceFrom =
      (missingAfter prior sequence).map Prod.fst) (hto : snapshot.missingSequenceTo =
      (missingAfter prior sequence).map Prod.snd) (hstatus : snapshot.status =
      statusOf policy duplicate prior sequence staleness delay)
    (hmoves : snapshot.status.moves = true) : snapshot.missingRange.toList =
      skipped (prior.map UInt64.toNat) sequence.toNat := by
  rw [hstatus] at hmoves
  have hahead := (statusOf_moves.mp hmoves).2
  unfold FeedQualitySnapshot.missingRange
  rw [hfrom, hto, hstatus, if_congr statusOf_sequenceGap rfl rfl]
  cases prior with
  | none => simp [missingAfter_none, skipped]
  | some previous =>
    rw [Option.map_some, ← missingAfter_some (hahead previous rfl)]
    cases missingAfter (some previous) sequence with
    | none => simp
    | some gap => simp [hmoves]

structure Observes (quote : Quote) (monitor monitor' : FeedQualityMonitor)
    (snapshot : FeedQualitySnapshot) : Prop where
  instrument : snapshot.instrumentId = quote.instrumentId
  sequence : snapshot.sourceSequence = quote.sourceSequence
  cursor : monitor'.lastSequence =
    if snapshot.status.moves then
      monitor.lastSequence.insert quote.instrumentId quote.sourceSequence
    else
      monitor.lastSequence
  ahead : snapshot.status.moves = true →
    ∀ previous ∈ monitor.lastSequence[quote.instrumentId]?,
      previous < quote.sourceSequence
  missing : snapshot.missingRange.toList =
    if snapshot.status.moves then
      skipped (monitor.lastSequence[quote.instrumentId]?.map UInt64.toNat)
        quote.sourceSequence.toNat
    else
      []

variable {quote : Quote} {asOf : String}
  {monitor monitor' : FeedQualityMonitor}

theorem observe_ok {snapshot : FeedQualitySnapshot}
    (h : (observe quote asOf policy).run monitor = (.ok snapshot, monitor')) :
    Observes quote monitor monitor' snapshot := by
  simp only [observe, run_lift_bind_eq_ok, run_read_bind,
    run_update_bind, run_pure, Prod.mk.injEq, Except.ok.injEq] at h
  obtain ⟨_, -, _, -, eventTime, -, receivedAt, -, asOf, -, _, -, rfl, rfl⟩ := h
  constructor
  · rfl
  · rfl
  · dsimp only
    split <;> split <;> rfl
  · intro hmoves
    exact (statusOf_moves.mp hmoves).2
  · generalize hstatus : statusOf policy _ _ _ _ _ = status
    by_cases hmoves : status.moves = true
    · rw [if_pos hmoves]
      exact missingRange_eq _ rfl rfl hstatus.symm hmoves
    · rw [if_neg hmoves]
      have hgap : status ≠ .sequenceGap := by
        rintro rfl
        exact hmoves rfl
      simp [FeedQualitySnapshot.missingRange, hgap]

theorem observe_error {e : PaperError}
    (h : (observe quote asOf policy).run monitor = (.error e, monitor')) :
    monitor' = monitor := by
  simp only [observe, run_lift_bind_eq_error, run_read_bind,
    run_update_bind, run_pure, Prod.mk.injEq, reduceCtorEq, false_and,
    and_false, exists_const, or_false] at h
  rcases h with ⟨-, h⟩ | ⟨_, -, ⟨-, h⟩ | ⟨_, -, ⟨-, h⟩ | ⟨_, -, ⟨-, h⟩ |
    ⟨_, -, ⟨-, h⟩ | ⟨_, -, -, h⟩⟩⟩⟩⟩ <;> exact h

end FeedQualityMonitor

/-! ## Runs of the monitor -/

structure ObservedFeed where
  monitor : FeedQualityMonitor
  snapshots : List FeedQualitySnapshot

namespace ObservedFeed

def start : ObservedFeed where
  monitor := .empty
  snapshots := []

inductive Step : ObservedFeed → ObservedFeed → Prop
  | observed {feed : ObservedFeed} {quote : Quote} {asOf : String}
      {policy : FeedQualityPolicy} {monitor : FeedQualityMonitor}
      {snapshot : FeedQualitySnapshot}
      (h : (FeedQualityMonitor.observe quote asOf policy).run feed.monitor =
        (.ok snapshot, monitor)) :
      Step feed ⟨monitor, feed.snapshots ++ [snapshot]⟩
  | failed {feed : ObservedFeed} {quote : Quote} {asOf : String}
      {policy : FeedQualityPolicy} {monitor : FeedQualityMonitor}
      {e : PaperError}
      (h : (FeedQualityMonitor.observe quote asOf policy).run feed.monitor =
        (.error e, monitor)) :
      Step feed ⟨monitor, feed.snapshots⟩

def after (feed : ObservedFeed) (quote : Quote) (asOf : String)
    (policy : FeedQualityPolicy) : ObservedFeed :=
  match (FeedQualityMonitor.observe quote asOf policy).run feed.monitor with
  | (.ok snapshot, monitor) => ⟨monitor, feed.snapshots ++ [snapshot]⟩
  | (.error _, monitor) => ⟨monitor, feed.snapshots⟩

theorem step_after (feed : ObservedFeed) (quote : Quote) (asOf : String)
    (policy : FeedQualityPolicy) : Step feed (feed.after quote asOf policy) := by
  unfold after
  split
  · next h => exact .observed h
  · next h => exact .failed h

/-- The cursor of every instrument is its last sequence, and its ranges cover
what was passed over. -/
structure Covered (feed : ObservedFeed) (instrumentId : String) : Prop where
  cursor : (observedSequences instrumentId feed.snapshots).getLast? =
    feed.monitor.lastSequence[instrumentId]?.map UInt64.toNat
  cover : SequenceCover (observedSequences instrumentId feed.snapshots)
    (missingRanges instrumentId feed.snapshots)

theorem start_covered (instrumentId : String) : start.Covered instrumentId where
  cursor := by simp [start, observedSequences, FeedQualityMonitor.empty]
  cover := SequenceCover.nil

theorem observedSequences_concat (instrumentId : String)
    (snapshots : List FeedQualitySnapshot) (snapshot : FeedQualitySnapshot) :
    observedSequences instrumentId (snapshots ++ [snapshot]) =
      observedSequences instrumentId snapshots ++
        if snapshot.instrumentId = instrumentId ∧ snapshot.status.moves then
          [snapshot.sourceSequence.toNat]
        else
          [] := by
  simp only [observedSequences, filter_append, map_append]
  congr 1
  split
  · next h => simp [h]
  · next h => simp [List.filter_cons_of_neg, h]

theorem missingRanges_concat (instrumentId : String)
    (snapshots : List FeedQualitySnapshot) (snapshot : FeedQualitySnapshot) :
    missingRanges instrumentId (snapshots ++ [snapshot]) =
      missingRanges instrumentId snapshots ++
        if snapshot.instrumentId = instrumentId then
          snapshot.missingRange.toList
        else
          [] := by
  simp only [missingRanges, filter_append, filterMap_append]
  congr 1
  split
  · next h =>
      simp only [h, List.filter_cons, decide_true, if_true, List.filter_nil]
      cases hrange : snapshot.missingRange with
      | none =>
        rw [List.filterMap_cons_none hrange]
        rfl
      | some range =>
        rw [List.filterMap_cons_some hrange]
        rfl
  · next h => simp [List.filter_cons_of_neg, h]

variable {feed : ObservedFeed}

variable {instrumentId : String}

theorem Covered.observed {quote : Quote} {monitor : FeedQualityMonitor}
    {snapshot : FeedQualitySnapshot} (h : feed.Covered instrumentId)
    (hobserves : FeedQualityMonitor.Observes quote feed.monitor monitor
      snapshot) : (ObservedFeed.mk monitor (feed.snapshots ++ [snapshot])).Covered
      instrumentId := by
  obtain ⟨hinstrument, hsequence, hcursor, hahead, hmissing⟩ := hobserves
  by_cases hsame : quote.instrumentId = instrumentId
  · subst hsame
    by_cases hmoves : snapshot.status.moves = true
    · rw [if_pos hmoves] at hcursor hmissing
      have hseqs := observedSequences_concat quote.instrumentId
        feed.snapshots snapshot
      have hranges := missingRanges_concat quote.instrumentId
        feed.snapshots snapshot
      rw [if_pos ⟨hinstrument, hmoves⟩, hsequence] at hseqs
      rw [if_pos hinstrument, hmissing, ← h.cursor] at hranges
      constructor
      · simp only [hseqs, hcursor, List.getLast?_concat]
        simp
      · simp only [hseqs, hranges]
        apply h.cover.snoc
        intro last hlast
        rw [h.cursor] at hlast
        obtain ⟨previous, hprevious, rfl⟩ := map_eq_some_iff.mp hlast
        exact UInt64.lt_iff_toNat_lt.mp (hahead hmoves previous hprevious)
    · rw [if_neg hmoves] at hcursor hmissing
      have hseqs := observedSequences_concat quote.instrumentId
        feed.snapshots snapshot
      have hranges := missingRanges_concat quote.instrumentId
        feed.snapshots snapshot
      rw [if_neg fun h => hmoves h.2, append_nil] at hseqs
      rw [if_pos hinstrument, hmissing, append_nil] at hranges
      constructor
      · simp only [hseqs, hcursor, h.cursor]
      · simp only [hseqs, hranges, h.cover]
  · have hother : snapshot.instrumentId ≠ instrumentId := hinstrument ▸ hsame
    have hseqs := observedSequences_concat instrumentId feed.snapshots snapshot
    have hranges := missingRanges_concat instrumentId feed.snapshots snapshot
    rw [if_neg fun h => hother h.1, append_nil] at hseqs
    rw [if_neg hother, append_nil] at hranges
    have hkept : monitor.lastSequence[instrumentId]? =
        feed.monitor.lastSequence[instrumentId]? := by
      rw [hcursor]
      split
      · simp [getElem?_insert, hsame]
      · rfl
    constructor
    · simp only [hseqs, hkept, h.cursor]
    · simp only [hseqs, hranges, h.cover]

theorem Covered.step {feed' : ObservedFeed} (h : feed.Covered instrumentId)
    (hstep : Step feed feed') : feed'.Covered instrumentId := by
  cases hstep with
  | observed hrun => exact h.observed (FeedQualityMonitor.observe_ok hrun)
  | failed hrun =>
    rw [FeedQualityMonitor.observe_error hrun]
    exact h

theorem covered (hfeed : Reachable (· = start) Step feed) (instrumentId : String) :
    feed.Covered instrumentId := by
  apply hfeed.invariant
  · rintro _ rfl
    exact start_covered instrumentId
  · intro _ _ _ h hstep
    exact h.step hstep

end ObservedFeed

/-- The sequences that moved an instrument's cursor increase, the reported
ranges do not overlap and hold exactly what lies between the first and the last
of these sequences and was not so observed.  A failing call changes nothing. -/
theorem gaps_reported_once :
    (∀ feed, Reachable (· = ObservedFeed.start) ObservedFeed.Step feed →
      ∀ instrumentId : String,
        let observed := observedSequences instrumentId feed.snapshots
        let missing := missingRanges instrumentId feed.snapshots
        observed.Pairwise (· < ·) ∧
        missing.Pairwise (fun range later =>
          Disjoint (Set.Icc range.1 range.2) (Set.Icc later.1 later.2)) ∧
        ∀ n : ℕ, (∃ range ∈ missing, n ∈ Set.Icc range.1 range.2) ↔
          n ∉ observed ∧ (∃ first ∈ observed.head?, first < n) ∧
            ∃ last ∈ observed.getLast?, n < last) ∧
    ∀ quote asOf policy monitor e monitor',
      (FeedQualityMonitor.observe quote asOf policy).run monitor = (.error e, monitor') →
        monitor' = monitor := by
  refine ⟨?_, fun _ _ _ _ _ _ => FeedQualityMonitor.observe_error⟩
  intro feed hfeed instrumentId
  obtain ⟨hincreasing, -, hdisjoint, hexact⟩ :=
    (ObservedFeed.covered hfeed instrumentId).cover
  refine ⟨hincreasing, hdisjoint.imp ?_, hexact⟩
  intro range later hbefore
  rw [Set.disjoint_left]
  rintro n ⟨-, hn⟩ ⟨hn', -⟩
  omega

def sampleQuote (quoteId : String) (sequence : UInt64) : Quote where
  eventTime := "2026-01-01T00:00:00Z"
  receivedAt := "2026-01-01T00:00:00Z"
  instrumentId := "inst-1"
  quoteId := quoteId
  sourceSequence := sequence
  bidPrice := .ulp
  bidQuantity := Decimal.zero
  askPrice := .twoUlps
  askQuantity := Decimal.zero

def sampleFeed : ObservedFeed :=
  ((ObservedFeed.start.after (sampleQuote "quote-1" 3) "2026-01-01T00:00:01Z"
    ⟨1000, 60⟩).after (sampleQuote "quote-2" 6) "2026-01-01T00:00:01Z"
    ⟨1000, 60⟩).after (sampleQuote "quote-3" 0) "2026-01-01T00:00:01Z"
    ⟨1000, 60⟩

theorem gaps_reported_once_sampleFeed :
    Reachable (· = ObservedFeed.start) ObservedFeed.Step sampleFeed ∧
      observedSequences "inst-1" sampleFeed.snapshots = [3, 6] ∧
      missingRanges "inst-1" sampleFeed.snapshots = [(4, 5)] ∧
      (observedSequences "inst-1" sampleFeed.snapshots).Pairwise (· < ·) := by
  have hreach :
      Reachable (· = ObservedFeed.start) ObservedFeed.Step sampleFeed :=
    .step (.step (.step (.init rfl) (ObservedFeed.step_after _ _ _ _))
      (ObservedFeed.step_after _ _ _ _)) (ObservedFeed.step_after _ _ _ _)
  exact ⟨hreach, by decide +kernel, by decide +kernel,
    (gaps_reported_once.1 sampleFeed hreach "inst-1").1⟩

end Follon.MarketData
