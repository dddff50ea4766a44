import Follon.Foundation.MapTotals
import Follon.MarketData.SequenceRanges

/-!
# Repair of gaps

Recorded gaps filled from a recovery batch; what the batch does not supply
stays declared as residual.
-/

namespace Follon.MarketData

open Foundation Domain SequenceRange

structure QuoteGapRepair where
  quotes : List Quote
  (gaps recovered residual : List SequenceRange)
  (recordedRedeliveries corroborated : Nat)
  deriving DecidableEq

abbrev QuoteMap : Type :=
  OrderedMap QuoteKey Quote

abbrev SequenceBounds : Type :=
  OrderedMap String (UInt64 × UInt64)

def recordedIds (merged : QuoteMap) : OrderedMap String QuoteKey :=
  Std.ExtTreeMap.ofList
    (merged.toList.map fun entry => (entry.2.quoteId, entry.1)) compare

def extendBounds (bounds : SequenceBounds) (key : QuoteKey) : SequenceBounds :=
  match bounds[key.1]? with
  | some (first, _) => bounds.insert key.1 (first, key.2)
  | none => bounds.insert key.1 (key.2, key.2)

def boundsOf (keys : List QuoteKey) : SequenceBounds := keys.foldl extendBounds ∅

def insideBounds (bounds : SequenceBounds) (key : QuoteKey) : Bool :=
  bounds[key.1]?.any fun (first, last) => first < key.2 && key.2 < last

structure Acceptance where
  corroborated : Nat
  accepted : QuoteMap

def acceptQuote (merged : QuoteMap) (acceptance : Acceptance)
    (entry : QuoteKey × Quote) : Result Acceptance :=
  match merged[entry.1]? with
  | some existing => do
    refuseIf (existing ≠ entry.2)
      ("recovery quote " ++ entry.2.quoteId ++
        " conflicts with the recorded quote for " ++ entry.1.1 ++
        " sequence " ++ toString entry.1.2.toNat)
    pure { acceptance with corroborated := acceptance.corroborated + 1 }
  | none => do
    refuseIf (entry.2.quoteId ∈ recordedIds merged)
      ("recovery quote " ++ entry.2.quoteId ++
        " reuses a recorded quote identity for another sequence")
    refuseIf (insideBounds (boundsOf merged.keys) entry.1 = false)
      ("recovery quote " ++ entry.2.quoteId ++ " lies outside every recorded gap")
    pure { acceptance with
      accepted := acceptance.accepted.insert entry.1 entry.2 }

def checkNeighbours (recovered : OrderedSet QuoteKey)
    (previous next : QuoteKey × Quote) : Result Unit :=
  if previous.1.1 = next.1.1 ∧
      (next.1 ∈ recovered ∨ previous.1 ∈ recovered) then do
    let time ← parseUtc next.2.eventTime
    let previousTime ← parseUtc previous.2.eventTime
    refuseIf (time < previousTime)
      ("recovery quote " ++
        (if next.1 ∈ recovered then next.2 else previous.2).quoteId ++
        " contradicts the recorded event-time order")
  else
    .ok ()

def checkEventOrder (recovered : OrderedSet QuoteKey) :
    List (QuoteKey × Quote) → Result Unit
  | previous :: next :: rest => do
    checkNeighbours recovered previous next
    checkEventOrder recovered (next :: rest)
  | _ => .ok ()

def repairQuoteGaps (recorded recovery : List Quote) : Result QuoteGapRepair := do
  let (recordedMap, recordedRedeliveries) ←
    indexQuotes recorded "recorded stream"
  refuseIf (recordedMap.isEmpty = true) "gap repair requires a recorded stream"
  let (recoveryMap, _) ← indexQuotes recovery "recovery batch"
  let acceptance ←
    recoveryMap.toList.foldlM (acceptQuote recordedMap) ⟨0, ∅⟩
  let merged := recordedMap ∪ acceptance.accepted
  checkEventOrder (Std.ExtTreeSet.ofList acceptance.accepted.keys compare)
    merged.toList
  pure
    { quotes := merged.values, gaps := gapsOf recordedMap.keys
      recovered := runs acceptance.accepted.keys, residual := gapsOf merged.keys
      recordedRedeliveries
      corroborated := acceptance.corroborated }

/-! ## Bounds -/

def BoundsOf (seen : List QuoteKey) (bounds : SequenceBounds) : Prop :=
  ∀ instrumentId : String, match bounds[instrumentId]? with
    | none => ∀ sequence, (instrumentId, sequence) ∉ seen
    | some (first, last) =>
      (instrumentId, first) ∈ seen ∧ (instrumentId, last) ∈ seen ∧
        ∀ sequence, (instrumentId, sequence) ∈ seen → first ≤ sequence ∧ sequence ≤ last

variable {key : QuoteKey} {merged map : QuoteMap}

theorem BoundsOf.extend {seen : List QuoteKey} {bounds : SequenceBounds}
    (h : BoundsOf seen bounds) (hkey : ∀ earlier ∈ seen, earlier.Before key) :
    BoundsOf (seen ++ [key]) (extendBounds bounds key) := by
  intro instrumentId
  by_cases hsame : key.1 = instrumentId
  · subst hsame
    have hbounds := h key.1
    unfold extendBounds
    cases hfound : bounds[key.1]? with
    | none =>
      rw [hfound] at hbounds
      rw [getElem?_insert_self]
      refine ⟨by simp, by simp, ?_⟩
      intro sequence hin
      rw [mem_append, mem_singleton] at hin
      cases hin with
      | inl hold => exact absurd hold (hbounds sequence)
      | inr heq =>
        obtain rfl : sequence = key.2 := congrArg Prod.snd heq
        exact ⟨UInt64.le_refl _, UInt64.le_refl _⟩
    | some pair =>
      obtain ⟨first, last⟩ := pair
      rw [hfound] at hbounds
      dsimp only
      rw [getElem?_insert_self]
      refine ⟨mem_append_left _ hbounds.1, by simp, ?_⟩
      intro sequence hin
      rw [mem_append, mem_singleton] at hin
      have hfirst := (hkey _ hbounds.1).sequence rfl
      cases hin with
      | inl hold =>
        exact ⟨(hbounds.2.2 sequence hold).1,
          UInt64.le_of_lt ((hkey _ hold).sequence rfl)⟩
      | inr heq =>
        obtain rfl : sequence = key.2 := congrArg Prod.snd heq
        exact ⟨UInt64.le_of_lt hfirst, UInt64.le_refl _⟩
  · have hother : (extendBounds bounds key)[instrumentId]?
        = bounds[instrumentId]? := by
      unfold extendBounds
      split <;> exact getElem?_insert_of_ne _ _ hsame
    have hmem : ∀ sequence, (instrumentId, sequence) ∈ seen ++ [key] ↔
        (instrumentId, sequence) ∈ seen := by
      intro sequence
      rw [mem_append, mem_singleton, or_iff_left]
      intro heq
      exact hsame (by rw [← heq])
    have hbounds := h instrumentId
    simp only [hother, hmem]
    exact hbounds

variable {keys : List QuoteKey} {acceptance : Acceptance}

theorem boundsOf_boundsOf (h : keys.Pairwise QuoteKey.Before)
    : BoundsOf keys (boundsOf keys) := by
  have hall : ∀ (seen : List QuoteKey) (bounds : SequenceBounds),
      BoundsOf seen bounds → (seen ++ keys).Pairwise QuoteKey.Before →
        BoundsOf (seen ++ keys) (keys.foldl extendBounds bounds) := by
    clear h
    induction keys with
    | nil =>
      intro seen bounds h hsorted
      rwa [append_nil]
    | cons key keys ih =>
      intro seen bounds h hsorted
      rw [List.append_cons] at hsorted ⊢
      have hkey : ∀ earlier ∈ seen, earlier.Before key := by
        intro earlier hearlier
        exact (pairwise_append.mp (pairwise_append.mp hsorted).1).2.2
          earlier hearlier key mem_cons_self
      exact ih (seen ++ [key]) (extendBounds bounds key) (h.extend hkey)
        hsorted
  exact hall [] ∅ (by intro instrumentId; simp) h

theorem insideBounds_iff (h : keys.Pairwise QuoteKey.Before) :
    insideBounds (boundsOf keys) key = true ↔ Between keys key := by
  have hbounds := boundsOf_boundsOf h key.1
  unfold insideBounds
  cases hfound : (boundsOf keys)[key.1]? with
  | none =>
    rw [hfound] at hbounds
    simp only [Option.any_none, Bool.false_eq_true, false_iff]
    rintro ⟨first, hfirst, -, -, hsame, -⟩
    apply hbounds first.2
    rwa [← hsame]
  | some pair =>
    obtain ⟨first, last⟩ := pair
    rw [hfound] at hbounds
    simp only [Option.any_some, and_eq_true, decide_eq_true_eq]
    constructor
    · intro hinside
      exact ⟨_, hbounds.1, _, hbounds.2.1, rfl, rfl, hinside⟩
    · rintro ⟨low, hlow, high, hhigh, hsame, hsame', hlt, hlt'⟩
      have hfirst := (hbounds.2.2 low.2 (by rwa [← hsame])).1
      have hlast := (hbounds.2.2 high.2 (by rwa [← hsame'])).2
      exact ⟨UInt64.lt_of_le_of_lt hfirst hlt, UInt64.lt_of_lt_of_le hlt' hlast⟩

/-! ## Acceptance -/

def Acceptable (merged : QuoteMap) (entry : QuoteKey × Quote) : Prop :=
  merged[entry.1]? = some entry.2 ∨
    merged[entry.1]? = none ∧ entry.2.quoteId ∉ recordedIds merged ∧
      insideBounds (boundsOf merged.keys) entry.1 = true

structure Accepts (merged recovery : QuoteMap)
    (seen : List (QuoteKey × Quote)) (accepted : QuoteMap) : Prop where
  acceptable : ∀ entry ∈ seen, Acceptable merged entry
  holds : ∀ (key : QuoteKey) (quote : Quote), accepted[key]? = some quote ↔
      (key, quote) ∈ seen ∧ merged[key]? = none

theorem accepts_acceptQuote {recovery : QuoteMap}
    {seen : List (QuoteKey × Quote)} {acceptance' : Acceptance}
    {entry : QuoteKey × Quote} (hentries : ∀ entry' ∈ seen ++ [entry],
      recovery[entry'.1]? = some entry'.2)
    (h : Accepts merged recovery seen acceptance.accepted)
    (haccept : acceptQuote merged acceptance entry = .ok acceptance') :
    Accepts merged recovery (seen ++ [entry]) acceptance'.accepted := by
  unfold acceptQuote at haccept
  cases hfound : merged[entry.1]? with
  | some existing =>
    simp only [hfound, bind_eq_ok, refuseIf_eq_ok, not_not] at haccept
    obtain ⟨u, rfl, hsame⟩ := haccept
    obtain rfl := Except.ok.inj hsame
    refine ⟨?_, ?_⟩
    · intro entry' hentry'
      rw [mem_append, mem_singleton] at hentry'
      cases hentry' with
      | inl hold => exact h.acceptable entry' hold
      | inr heq => exact .inl (heq ▸ hfound)
    · intro key quote
      rw [h.holds, mem_append, mem_singleton]
      constructor
      · intro hold
        exact ⟨.inl hold.1, hold.2⟩
      · intro hcases
        refine ⟨hcases.1.resolve_right ?_, hcases.2⟩
        intro heq
        have hkey := hcases.2
        rw [← heq] at hfound
        simp [hkey] at hfound
  | none =>
    simp only [hfound, bind_eq_ok, refuseIf_eq_ok, not_eq_false]
      at haccept
    obtain ⟨u, hid, u', hinside, hsame⟩ := haccept
    obtain rfl := Except.ok.inj hsame
    refine ⟨?_, ?_⟩
    · intro entry' hentry'
      rw [mem_append, mem_singleton] at hentry'
      cases hentry' with
      | inl hold => exact h.acceptable entry' hold
      | inr heq => exact .inr (heq ▸ ⟨hfound, hid, hinside⟩)
    · intro key quote
      rw [mem_append, mem_singleton]
      dsimp only
      by_cases hsame : entry.1 = key
      · subst hsame
        rw [getElem?_insert_self]
        constructor
        · intro heq
          exact ⟨.inr (by rw [← Option.some.inj heq]), hfound⟩
        · intro hcases
          cases hcases.1 with
          | inr heq => rw [← heq]
          | inl hold =>
            have hfirst := hentries _ (mem_append_left _ hold)
            have hlast := hentries entry (by simp)
            rw [hlast] at hfirst
            exact hfirst
      · rw [getElem?_insert_of_ne _ _ hsame, h.holds]
        constructor
        · intro hold
          exact ⟨.inl hold.1, hold.2⟩
        · intro hcases
          refine ⟨hcases.1.resolve_right ?_, hcases.2⟩
          intro heq
          exact hsame (by rw [← heq])

theorem accepts_of_foldlM {recovery : QuoteMap}
    (h : recovery.toList.foldlM (acceptQuote merged) ⟨0, ∅⟩ = .ok acceptance) :
    Accepts merged recovery recovery.toList acceptance.accepted := by
  have hentries : ∀ entry ∈ recovery.toList,
      recovery[entry.1]? = some entry.2 := fun entry hentry =>
    mem_toList_iff_getElem?_eq_some.mp hentry
  have hover := @foldlM_over _ _ _
    (fun seen acceptance =>
      (∀ entry ∈ seen, recovery[entry.1]? = some entry.2) →
        Accepts merged recovery seen acceptance.accepted)
    (fun seen entry acceptance acceptance' hseen hstep hentries =>
      accepts_acceptQuote hentries
        (hseen fun entry' hentry' =>
          hentries entry' (mem_append_left _ hentry')) hstep)
    [] _ _ _ (fun _ => ⟨by simp, by simp⟩) h
  exact hover hentries

theorem foldlM_corroborated {entries : List (QuoteKey × Quote)}
    (h : ∀ entry ∈ entries, merged[entry.1]? = some entry.2) (acceptance : Acceptance) :
    ∃ acceptance', entries.foldlM (acceptQuote merged) acceptance
        = .ok acceptance' ∧ acceptance'.accepted = acceptance.accepted := by
  induction entries generalizing acceptance with
  | nil => exact ⟨acceptance, rfl, rfl⟩
  | cons entry entries ih =>
    rw [forall_mem_cons] at h
    have hstep : acceptQuote merged acceptance entry = .ok
        { acceptance with corroborated := acceptance.corroborated + 1 } := by
      simp [acceptQuote, h.1, refuseIf]
    rw [foldlM_cons, hstep]
    exact ih h.2 _

/-! ## The merged stream -/

theorem mem_keys_iff : key ∈ map.keys ↔ ∃ quote, map[key]? = some quote := by
  rw [Std.ExtTreeMap.mem_keys, mem_iff_isSome_getElem?, isSome_iff_exists]

theorem not_mem_keys_iff : key ∉ map.keys ↔ map[key]? = none := by
  rw [mem_keys_iff, not_exists, Option.eq_none_iff_forall_ne_some]

theorem mem_recordedIds {quoteId : String} : quoteId ∈ recordedIds merged ↔
      ∃ (key : QuoteKey) (quote : Quote), merged[key]? = some quote ∧
        quote.quoteId = quoteId := by
  unfold recordedIds
  rw [Std.ExtTreeMap.mem_ofList, List.contains_iff_mem, map_map, mem_map]
  constructor
  · rintro ⟨⟨key, quote⟩, hentry, rfl⟩
    exact ⟨key, quote, mem_toList_iff_getElem?_eq_some.mp hentry, rfl⟩
  · rintro ⟨key, quote, hfound, rfl⟩
    exact ⟨(key, quote), mem_toList_iff_getElem?_eq_some.mpr hfound, rfl⟩

theorem map_key_values (h : ∀ (key : QuoteKey) (quote : Quote), map[key]? = some quote →
      quote.key = key) : map.values.map Quote.key = map.keys := by
  rw [OrderedMap.values_eq_map_snd, map_map, ← Std.ExtTreeMap.map_fst_toList_eq_keys]
  apply List.map_congr_left
  rintro ⟨key, quote⟩ hentry
  exact h key quote (mem_toList_iff_getElem?_eq_some.mp hentry)

structure Merging (recorded recovery : List Quote)
    (recordedMap recoveryMap accepted : QuoteMap) (redeliveries : Nat) :
    Prop where
  recorded : IsIndex recorded recordedMap redeliveries
  recovery : ∃ count, IsIndex recovery recoveryMap count
  accepts : Accepts recordedMap recoveryMap recoveryMap.toList accepted

namespace Merging

variable {recorded recovery : List Quote}
  {recordedMap recoveryMap accepted : QuoteMap} {redeliveries : Nat}

variable {key : QuoteKey} {quote : Quote}

theorem accepted_iff (h : Merging recorded recovery recordedMap recoveryMap accepted
      redeliveries) : accepted[key]? = some quote ↔
      recoveryMap[key]? = some quote ∧ recordedMap[key]? = none := by
  rw [h.accepts.holds, mem_toList_iff_getElem?_eq_some]

theorem recovery_iff (h : Merging recorded recovery recordedMap recoveryMap accepted
      redeliveries) :
    recoveryMap[key]? = some quote ↔ quote ∈ recovery ∧ quote.key = key :=
  h.recovery.choose_spec.holds key quote

theorem acceptable (h : Merging recorded recovery recordedMap recoveryMap accepted
      redeliveries) (hfound : recoveryMap[key]? = some quote) :
    Acceptable recordedMap (key, quote) :=
  h.accepts.acceptable _
    (mem_toList_iff_getElem?_eq_some.mpr hfound)

theorem missing (h : Merging recorded recovery recordedMap recoveryMap accepted
      redeliveries) (hfound : accepted[key]? = some quote) :
    key ∉ recordedMap.keys ∧ Between recordedMap.keys key ∧
      quote.quoteId ∉ recordedIds recordedMap := by
  rw [h.accepted_iff] at hfound
  have hnot := not_mem_keys_iff.mpr hfound.2
  cases h.acceptable hfound.1 with
  | inl hsame => simp [hfound.2] at hsame
  | inr hfills =>
    exact ⟨hnot, (insideBounds_iff (QuoteKey.keys_before _)).mp hfills.2.2, hfills.2.1⟩

theorem merged_iff (h : Merging recorded recovery recordedMap recoveryMap accepted
      redeliveries) : (recordedMap ∪ accepted)[key]? = some quote ↔
      recordedMap[key]? = some quote ∨ accepted[key]? = some quote := by
  rw [Std.ExtTreeMap.getElem?_union]
  cases hfound : accepted[key]? with
  | none => simp
  | some quote' =>
    have hnone := (h.accepted_iff.mp hfound).2
    simp [hnone]

theorem mem_merged_keys (h : Merging recorded recovery recordedMap recoveryMap accepted
      redeliveries) : key ∈ (recordedMap ∪ accepted).keys ↔
      key ∈ recordedMap.keys ∨ key ∈ accepted.keys := by
  simp only [mem_keys_iff, h.merged_iff, exists_or]

theorem merged_key (h : Merging recorded recovery recordedMap recoveryMap accepted
      redeliveries) (hfound : (recordedMap ∪ accepted)[key]? = some quote) :
    quote.key = key := by
  cases h.merged_iff.mp hfound with
  | inl hrecorded => exact ((h.recorded.holds key quote).mp hrecorded).2
  | inr haccepted =>
    exact (h.recovery_iff.mp (h.accepted_iff.mp haccepted).1).2

theorem between_merged (h : Merging recorded recovery recordedMap recoveryMap accepted
      redeliveries) : Between (recordedMap ∪ accepted).keys key ↔
      Between recordedMap.keys key := by
  constructor
  · rintro ⟨first, hfirst, last, hlast, hsame, hsame', hlt, hlt'⟩
    have hlow : ∃ low ∈ recordedMap.keys, low.1 = key.1 ∧ low.2 < key.2 := by
      cases h.mem_merged_keys.mp hfirst with
      | inl hrecorded => exact ⟨first, hrecorded, hsame, hlt⟩
      | inr haccepted =>
        obtain ⟨quote, hquote⟩ := mem_keys_iff.mp haccepted
        obtain ⟨-, ⟨low, hlow, -, -, hlowSame, -, hlowLt, -⟩, -⟩ :=
          h.missing hquote
        exact ⟨low, hlow, hlowSame.trans hsame, UInt64.lt_trans hlowLt hlt⟩
    have hhigh : ∃ high ∈ recordedMap.keys, high.1 = key.1 ∧
        key.2 < high.2 := by
      cases h.mem_merged_keys.mp hlast with
      | inl hrecorded => exact ⟨last, hrecorded, hsame', hlt'⟩
      | inr haccepted =>
        obtain ⟨quote, hquote⟩ := mem_keys_iff.mp haccepted
        obtain ⟨-, ⟨-, -, high, hhigh, -, hhighSame, -, hhighLt⟩, -⟩ :=
          h.missing hquote
        exact ⟨high, hhigh, hhighSame.trans hsame', UInt64.lt_trans hlt' hhighLt⟩
    obtain ⟨low, hlow, hlowSame, hlowLt⟩ := hlow
    obtain ⟨high, hhigh, hhighSame, hhighLt⟩ := hhigh
    exact ⟨low, hlow, high, hhigh, hlowSame, hhighSame, hlowLt, hhighLt⟩
  · rintro ⟨first, hfirst, last, hlast, hkeys⟩
    exact ⟨first, h.mem_merged_keys.mpr (.inl hfirst), last,
      h.mem_merged_keys.mpr (.inl hlast), hkeys⟩

theorem isIndex_values
    (h : Merging recorded recovery recordedMap recoveryMap accepted redeliveries) :
    IsIndex (recordedMap ∪ accepted).values (recordedMap ∪ accepted) 0 := by
  have hvalues : ∀ quote, quote ∈ (recordedMap ∪ accepted).values ↔
      (recordedMap ∪ accepted)[quote.key]? = some quote := by
    intro quote
    rw [OrderedMap.mem_values]
    constructor
    · rintro ⟨key, hkey⟩
      rw [h.merged_key hkey, hkey]
    · intro hkey
      exact ⟨quote.key, hkey⟩
  obtain ⟨count, hrecovery⟩ := h.recovery
  have hrecovered : ∀ {quote : Quote}, accepted[quote.key]? = some quote →
      quote ∈ recovery := fun hquote =>
    (h.recovery_iff.mp (h.accepted_iff.mp hquote).1).1
  have hrecorded : ∀ {quote : Quote},
      recordedMap[quote.key]? = some quote → quote ∈ recorded :=
    fun hquote => ((h.recorded.holds _ _).mp hquote).1
  refine ⟨⟨?_, ?_, ?_⟩, ?_, ?_⟩
  · intro quote hquote
    cases h.merged_iff.mp ((hvalues quote).mp hquote) with
    | inl hold => exact h.recorded.consistent.valid quote (hrecorded hold)
    | inr hnew => exact hrecovery.consistent.valid quote (hrecovered hnew)
  · intro quote hquote quote' hquote' hkey
    have hfirst := (hvalues quote).mp hquote
    have hsecond := (hvalues quote').mp hquote'
    rw [hkey, hsecond] at hfirst
    exact (Option.some.inj hfirst).symm
  · intro quote hquote quote' hquote' hid
    cases h.merged_iff.mp ((hvalues quote).mp hquote) with
    | inl hold =>
      cases h.merged_iff.mp ((hvalues quote').mp hquote') with
      | inl hold' =>
        exact h.recorded.consistent.identities quote (hrecorded hold)
          quote' (hrecorded hold') hid
      | inr hnew' =>
        exact absurd (mem_recordedIds.mpr ⟨quote.key, quote, hold, hid⟩)
          (h.missing hnew').2.2
    | inr hnew =>
      cases h.merged_iff.mp ((hvalues quote').mp hquote') with
      | inl hold' =>
        exact absurd
          (mem_recordedIds.mpr ⟨quote'.key, quote', hold', hid.symm⟩)
          (h.missing hnew).2.2
      | inr hnew' =>
        exact hrecovery.consistent.identities quote (hrecovered hnew)
          quote' (hrecovered hnew') hid
  · intro key quote
    rw [hvalues]
    constructor
    · intro hfound
      have hkey := h.merged_key hfound
      exact ⟨hkey ▸ hfound, hkey⟩
    · rintro ⟨hfound, rfl⟩
      exact hfound
  · rw [OrderedMap.values_eq_map_snd, List.length_map,
      Std.ExtTreeMap.length_toList, Nat.add_zero]

end Merging

/-! ## Repairs -/

/-- A repair is a checked union of the recorded quotes and the recovery quotes
at missing sequences. -/
structure IsRepair (recorded recovery : List Quote) (repair : QuoteGapRepair) :
    Prop where
  quotes : ∀ quote, quote ∈ repair.quotes ↔ quote ∈ recorded ∨
    quote ∈ recovery ∧ quote.key ∈ covered repair.gaps
  sorted : repair.quotes.Pairwise fun quote later =>
    quote.key.Before later.key
  gaps : ∀ key, key ∈ covered repair.gaps ↔
    key ∉ recorded.map Quote.key ∧ Between (recorded.map Quote.key) key
  partition : covered (repair.recovered ++ repair.residual) = covered repair.gaps
  apart : Apart (repair.recovered ++ repair.residual)
  order : ∀ recorded' recovery' : List Quote, recorded'.Perm recorded →
    recovery'.Perm recovery → repairQuoteGaps recorded' recovery' = .ok repair
  again : ∃ again, repairQuoteGaps repair.quotes recovery = .ok again ∧
    again.recovered = [] ∧ again.residual = repair.residual

theorem repairQuoteGaps_eq_ok {recorded recovery : List Quote}
    {repair : QuoteGapRepair} : repairQuoteGaps recorded recovery = .ok repair ↔
      ∃ recordedMap recoveryMap redeliveries acceptance count,
        IsIndex recorded recordedMap redeliveries ∧
        IsIndex recovery recoveryMap count ∧
        recordedMap.isEmpty = false ∧
        recoveryMap.toList.foldlM (acceptQuote recordedMap) ⟨0, ∅⟩ = .ok acceptance ∧
        checkEventOrder
          (Std.ExtTreeSet.ofList acceptance.accepted.keys compare)
          (recordedMap ∪ acceptance.accepted).toList = .ok () ∧
        repair =
          { quotes := (recordedMap ∪ acceptance.accepted).values
            gaps := gapsOf recordedMap.keys
            recovered := runs acceptance.accepted.keys
            residual := gapsOf (recordedMap ∪ acceptance.accepted).keys
            recordedRedeliveries := redeliveries
            corroborated := acceptance.corroborated } := by
  unfold repairQuoteGaps
  simp only [bind_eq_ok, Prod.exists, indexQuotes_eq_ok, refuseIf_eq_ok, not_eq_true]
  constructor
  · rintro ⟨recordedMap, redeliveries, hrecorded, -, hempty, recoveryMap, count,
      hrecovery, acceptance, haccept, ⟨⟩, horder, hrepair⟩
    exact ⟨recordedMap, recoveryMap, redeliveries, acceptance, count, hrecorded,
      hrecovery, hempty, haccept, horder, (Except.ok.inj hrepair).symm⟩
  · rintro ⟨recordedMap, recoveryMap, redeliveries, acceptance, count,
      hrecorded, hrecovery, hempty, haccept, horder, hrepair⟩
    exact ⟨recordedMap, redeliveries, hrecorded, (), hempty, recoveryMap, count,
      hrecovery, acceptance, haccept, (), horder, by rw [hrepair]; rfl⟩

theorem checkEventOrder_empty (entries : List (QuoteKey × Quote)) :
    checkEventOrder (Std.ExtTreeSet.ofList [] compare) entries = .ok () := by
  induction entries with
  | nil => rfl
  | cons previous rest ih =>
    cases rest with
    | nil => rfl
    | cons next rest =>
      rw [checkEventOrder, ih]
      simp [checkNeighbours]

namespace Merging

variable {recorded recovery : List Quote}
  {recordedMap recoveryMap accepted : QuoteMap} {redeliveries : Nat}

theorem mem_recorded_keys (h : Merging recorded recovery recordedMap recoveryMap accepted
      redeliveries) {key : QuoteKey} :
    key ∈ recordedMap.keys ↔ key ∈ recorded.map Quote.key := by
  simp only [mem_keys_iff, h.recorded.holds, mem_map]

theorem mem_gaps (h : Merging recorded recovery recordedMap recoveryMap accepted
      redeliveries) {key : QuoteKey} : key ∈ covered (gapsOf recordedMap.keys) ↔
      key ∉ recorded.map Quote.key ∧ Between (recorded.map Quote.key) key := by
  rw [mem_gapsOf (QuoteKey.keys_before _)]
  simp only [Between, h.mem_recorded_keys]

theorem mem_values (h : Merging recorded recovery recordedMap recoveryMap accepted
      redeliveries) {quote : Quote} :
    quote ∈ (recordedMap ∪ accepted).values ↔ quote ∈ recorded ∨
      quote ∈ recovery ∧ quote.key ∈ covered (gapsOf recordedMap.keys) := by
  rw [OrderedMap.mem_values, mem_gapsOf (QuoteKey.keys_before _)]
  constructor
  · rintro ⟨key, hkey⟩
    cases h.merged_iff.mp hkey with
    | inl hrecorded =>
      exact .inl ((h.recorded.holds key quote).mp hrecorded).1
    | inr haccepted =>
      have hmissing := h.missing haccepted
      have hrecovery := h.recovery_iff.mp (h.accepted_iff.mp haccepted).1
      rw [hrecovery.2]
      exact .inr ⟨hrecovery.1, hmissing.1, hmissing.2.1⟩
  · intro hcases
    refine ⟨quote.key, h.merged_iff.mpr ?_⟩
    cases hcases with
    | inl hrecorded =>
      exact .inl ((h.recorded.holds _ _).mpr ⟨hrecorded, rfl⟩)
    | inr hrecovery =>
      refine .inr (h.accepted_iff.mpr ⟨?_, ?_⟩)
      · exact h.recovery_iff.mpr ⟨hrecovery.1, rfl⟩
      · exact not_mem_keys_iff.mp hrecovery.2.1

theorem sorted_values (h : Merging recorded recovery recordedMap recoveryMap accepted
      redeliveries) : (recordedMap ∪ accepted).values.Pairwise fun quote later =>
      quote.key.Before later.key := by
  have hkeys := QuoteKey.keys_before (recordedMap ∪ accepted)
  rw [← map_key_values fun _ _ hfound => h.merged_key hfound,
    pairwise_map] at hkeys
  exact hkeys

theorem covered_parts
    (h : Merging recorded recovery recordedMap recoveryMap accepted redeliveries) :
    covered (runs accepted.keys ++ gapsOf (recordedMap ∪ accepted).keys)
      = covered (gapsOf recordedMap.keys) := by
  ext key
  rw [mem_covered_append,
    (runsOf_runs (nodup_of_before (QuoteKey.keys_before _))).covered,
    mem_gapsOf (QuoteKey.keys_before _), mem_gapsOf (QuoteKey.keys_before _),
    h.between_merged, h.mem_merged_keys, not_or]
  constructor
  · intro hcases
    cases hcases with
    | inl haccepted =>
      obtain ⟨quote, hquote⟩ := mem_keys_iff.mp haccepted
      have hmissing := h.missing hquote
      exact ⟨hmissing.1, hmissing.2.1⟩
    | inr hresidual => exact ⟨hresidual.1.1, hresidual.2⟩
  · intro hgap
    by_cases haccepted : key ∈ accepted.keys
    · exact .inl haccepted
    · exact .inr ⟨⟨hgap.1, haccepted⟩, hgap.2⟩

theorem apart_parts (h : Merging recorded recovery recordedMap recoveryMap accepted
      redeliveries) :
    Apart (runs accepted.keys ++ gapsOf (recordedMap ∪ accepted).keys) := by
  have hruns := runsOf_runs (nodup_of_before (QuoteKey.keys_before accepted))
  rw [Apart, pairwise_append]
  refine ⟨hruns.apart, apart_gapsOf (QuoteKey.keys_before _), ?_⟩
  intro range hrange range' hrange'
  rw [Set.disjoint_left]
  intro key hkey hkey'
  have haccepted := (hruns.covered key).mp ⟨range, hrange, hkey⟩
  have hresidual := (mem_gapsOf (QuoteKey.keys_before _)).mp
    ⟨range', hrange', hkey'⟩
  exact hresidual.1 (h.mem_merged_keys.mpr (.inr haccepted))

theorem repair_again (h : Merging recorded recovery recordedMap recoveryMap accepted
      redeliveries) (hempty : recordedMap.isEmpty = false) :
    ∃ again, repairQuoteGaps (recordedMap ∪ accepted).values recovery = .ok again ∧
      again.recovered = [] ∧
        again.residual = gapsOf (recordedMap ∪ accepted).keys := by
  obtain ⟨count, hrecovery⟩ := h.recovery
  have hthere : ∀ entry ∈ recoveryMap.toList,
      (recordedMap ∪ accepted)[entry.1]? = some entry.2 := by
    rintro ⟨key, quote⟩ hentry
    rw [mem_toList_iff_getElem?_eq_some] at hentry
    rw [h.merged_iff]
    cases h.acceptable hentry with
    | inl hsame => exact .inl hsame
    | inr hfills => exact .inr (h.accepted_iff.mpr ⟨hentry, hfills.1⟩)
  obtain ⟨acceptance, haccept, hnone⟩ := foldlM_corroborated hthere ⟨0, ∅⟩
  have hkeys : acceptance.accepted.keys = [] := by
    rw [hnone]
    rfl
  have hunion : (recordedMap ∪ accepted) ∪ acceptance.accepted
      = recordedMap ∪ accepted := by
    apply ext_getElem?
    intro key
    rw [Std.ExtTreeMap.getElem?_union, hnone]
    simp
  have hsome : (recordedMap ∪ accepted).isEmpty = false := by
    rw [Std.ExtTreeMap.isEmpty_eq_false_iff] at hempty ⊢
    intro hnone
    apply hempty
    rw [Std.ExtTreeMap.eq_empty_iff_forall_not_mem] at hnone ⊢
    intro key hkey
    exact hnone key (Std.ExtTreeMap.mem_keys.mp (h.mem_merged_keys.mpr
      (.inl (Std.ExtTreeMap.mem_keys.mpr hkey))))
  refine ⟨_, repairQuoteGaps_eq_ok.mpr ⟨_, recoveryMap, 0, acceptance, count,
    h.isIndex_values, hrecovery, hsome, haccept, ?_, rfl⟩, ?_, ?_⟩
  · rw [hkeys]
    exact checkEventOrder_empty _
  · dsimp only
    rw [hkeys]
    rfl
  · dsimp only
    rw [hunion]

end Merging

/-- A gap repair is exactly a checked union, whatever the order of its
inputs, and stands when it is made again. -/
theorem repairQuoteGaps_isRepair {recorded recovery : List Quote}
    {repair : QuoteGapRepair} (h : repairQuoteGaps recorded recovery = .ok repair) :
    IsRepair recorded recovery repair := by
  obtain ⟨recordedMap, recoveryMap, redeliveries, acceptance, count, hrecorded,
    hrecovery, hempty, haccept, horder, rfl⟩ := repairQuoteGaps_eq_ok.mp h
  have hmerging : Merging recorded recovery recordedMap recoveryMap
      acceptance.accepted redeliveries :=
    ⟨hrecorded, ⟨count, hrecovery⟩, accepts_of_foldlM haccept⟩
  exact
    { quotes := fun quote => hmerging.mem_values
      sorted := hmerging.sorted_values
      gaps := fun key => hmerging.mem_gaps
      partition := hmerging.covered_parts
      apart := hmerging.apart_parts
      order := fun recorded' recovery' hperm hperm' =>
        repairQuoteGaps_eq_ok.mpr ⟨recordedMap, recoveryMap, redeliveries,
          acceptance, count, hrecorded.perm hperm, hrecovery.perm hperm',
          hempty, haccept, horder, rfl⟩
      again := hmerging.repair_again hempty }

namespace GapRepairRun

def one : Decimal := .one

def quoteAt (quoteId : String) (sequence : UInt64) (eventTime : String) : Quote where
  eventTime := eventTime
  receivedAt := "2026-01-05T15:00:00Z"
  instrumentId := "aapl"
  quoteId := quoteId
  sourceSequence := sequence
  bidPrice := one
  bidQuantity := one
  askPrice := one
  askQuantity := one

def recorded : List Quote :=
  [quoteAt "q5" 5 "2026-01-05T14:30:05Z", quoteAt "q1" 1 "2026-01-05T14:30:01Z",
    quoteAt "q1" 1 "2026-01-05T14:30:01Z"]

def recovery : List Quote :=
  [quoteAt "q3" 3 "2026-01-05T14:30:03Z", quoteAt "q1" 1 "2026-01-05T14:30:01Z"]

def repair : QuoteGapRepair where
  quotes :=
    [quoteAt "q1" 1 "2026-01-05T14:30:01Z", quoteAt "q3" 3 "2026-01-05T14:30:03Z",
      quoteAt "q5" 5 "2026-01-05T14:30:05Z"]
  gaps := [⟨"aapl", 2, 4⟩]
  recovered := [⟨"aapl", 3, 3⟩]
  residual := [⟨"aapl", 2, 2⟩, ⟨"aapl", 4, 4⟩]
  recordedRedeliveries := 1
  corroborated := 1

theorem repaired : IsRepair recorded recovery repair := by
  have hsome : (repairQuoteGaps recorded recovery).toOption = some repair := by
    decide +kernel
  apply repairQuoteGaps_isRepair
  revert hsome
  cases repairQuoteGaps recorded recovery with
  | error e => intro hsome; exact absurd hsome (by simp [Except.toOption])
  | ok found => intro hsome; exact congrArg Except.ok (Option.some.inj hsome)

end GapRepairRun

end Follon.MarketData
