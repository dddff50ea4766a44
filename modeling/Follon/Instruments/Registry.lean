import Follon.Domain.Identity
import Follon.Foundation.OrderedMap
import Mathlib.Data.Set.Basic

/-!
# Reference data by time

A version of an instrument is valid from one instant until before another.
The registry accepts a version whose validity meets that of no version of the
same instrument, so at most one version applies at an instant.
-/

namespace Follon.Instruments

open Foundation Domain

/-! ## Half-open validity -/

section

variable {τ : Type} [LinearOrder τ] {start start' : τ} {stop stop' : Option τ}

/-- From `start` until before `stop`, if there is one. -/
def validity (start : τ) (stop : Option τ) : Set τ :=
  {time | start ≤ time ∧ ∀ last ∈ stop, time < last}

theorem validity_meets_iff (h : ∀ last ∈ stop, start < last)
    (h' : ∀ last ∈ stop', start' < last) :
    (∃ time ∈ validity start stop, time ∈ validity start' stop') ↔
      (∀ last ∈ stop, start' < last) ∧ ∀ last ∈ stop', start < last := by
  constructor
  · rintro ⟨time, ⟨hfrom, hto⟩, hfrom', hto'⟩
    exact ⟨fun last hlast => lt_of_le_of_lt hfrom' (hto last hlast),
      fun last hlast => lt_of_le_of_lt hfrom (hto' last hlast)⟩
  · rintro ⟨hright, hleft⟩
    exact ⟨max start start',
      ⟨le_max_left _ _, fun last hlast =>
        max_lt (h last hlast) (hright last hlast)⟩,
      le_max_right _ _, fun last hlast =>
        max_lt (hleft last hlast) (h' last hlast)⟩

end

/-! ## Versions -/

inductive AssetClass where
  | equity
  | etf
  | option
  | future
  | fxSpot
  | fxForward
  | fxSwap
  deriving DecidableEq

structure Instrument where
  (instrumentId symbol exchangeSymbol : String)
  assetClass : AssetClass
  (venue currency : String)
  brokerIds : OrderedMap String String
  (tickSize lotSize multiplier : Decimal)
  tradingCalendarId : String

def Instrument.validate (instrument : Instrument) : Result Unit := do
  validateCanonicalId "instrument_id" instrument.instrumentId
  validateCanonicalId "venue" instrument.venue
  validateCanonicalId "trading_calendar_id" instrument.tradingCalendarId
  refuseIf (instrument.symbol = "" ∨ instrument.exchangeSymbol = ""
    ∨ isCurrencyCode instrument.currency = false
    ∨ instrument.tickSize ≤ Decimal.zero ∨ instrument.lotSize ≤ Decimal.zero
    ∨ instrument.multiplier ≤ Decimal.zero)
    "instrument has invalid trading reference data"
  checkAll (fun (adapter, brokerId) => do
    validateCanonicalId "broker adapter" adapter
    refuseIf (brokerId = "") "broker instrument ID cannot be empty")
    instrument.brokerIds.toList

structure InstrumentVersion where
  instrument : Instrument
  effectiveFrom : String
  effectiveTo : Option String
  referenceVersion : String

namespace InstrumentVersion

variable {version other : InstrumentVersion}

def checkEnd (version : InstrumentVersion) : Option String → Result Unit
  | none => .ok ()
  | some effectiveTo => do
    validateUtcTimestamp "instrument effective_to" effectiveTo
    refuseIf (effectiveTo ≤ version.effectiveFrom)
      "instrument version has invalid effective dates"

def validate (version : InstrumentVersion) : Result Unit := do
  version.instrument.validate
  validateUtcTimestamp "instrument effective_from" version.effectiveFrom
  version.checkEnd version.effectiveTo
  refuseIf (version.referenceVersion = "")
    "instrument version has invalid effective dates"

def appliesAt (version : InstrumentVersion) (utcTime : String) : Bool :=
  version.effectiveFrom ≤ utcTime &&
    version.effectiveTo.all fun last => utcTime < last

def rangesOverlap (left right : InstrumentVersion) : Bool :=
  (left.effectiveTo.all fun last => right.effectiveFrom < last) &&
    right.effectiveTo.all fun last => left.effectiveFrom < last

theorem all_eq_true {p : String → Prop} [DecidablePred p] (stop : Option String) :
    (stop.all fun last => decide (p last)) = true ↔ ∀ last ∈ stop, p last := by
  cases stop <;> simp

theorem appliesAt_iff {time : String} : version.appliesAt time = true ↔
    time ∈ validity version.effectiveFrom version.effectiveTo := by
  rw [appliesAt, and_eq_true, decide_eq_true_iff, all_eq_true]
  rfl

/-- At some instant both apply. -/
def Meets (version other : InstrumentVersion) : Prop :=
  version.instrument.instrumentId = other.instrument.instrumentId ∧
    ∃ time, version.appliesAt time = true ∧ other.appliesAt time = true

theorem Meets.symm (h : version.Meets other) : other.Meets version :=
  ⟨h.1.symm, h.2.imp fun _ => And.symm⟩

theorem starts_before_end (h : version.validate = .ok ()) :
    ∀ last ∈ version.effectiveTo, version.effectiveFrom < last := by
  simp only [validate, bind_eq_ok] at h
  obtain ⟨-, -, -, -, _, hend, -⟩ := h
  intro last hlast
  rw [Option.mem_def.mp hlast] at hend
  simp only [checkEnd, bind_eq_ok, refuseIf_eq_ok] at hend
  obtain ⟨-, -, hend⟩ := hend
  exact not_le.mp hend

theorem rangesOverlap_iff (h : version.validate = .ok ())
    (hother : other.validate = .ok ()) : version.rangesOverlap other = true ↔
      ∃ time, version.appliesAt time = true ∧ other.appliesAt time = true := by
  simp only [appliesAt_iff]
  rw [validity_meets_iff (starts_before_end h) (starts_before_end hother),
    rangesOverlap, and_eq_true, all_eq_true, all_eq_true]

end InstrumentVersion

/-! ## The registry -/

structure InstrumentRegistry where
  versions : OrderedMap String (List InstrumentVersion)

namespace InstrumentRegistry

variable {registry after : InstrumentRegistry} {version : InstrumentVersion}
  {accepted : List InstrumentVersion}

def entries (registry : InstrumentRegistry) (instrumentId : String) :
    List InstrumentVersion :=
  registry.versions[instrumentId]?.getD []

def store (registry : InstrumentRegistry) (instrumentId : String)
    (entries : List InstrumentVersion) : InstrumentRegistry :=
  ⟨registry.versions.insert instrumentId entries⟩

def register (registry : InstrumentRegistry) (version : InstrumentVersion) :
    Result Unit × InstrumentRegistry :=
  match version.validate with
  | .error e => (.error e, registry)
  | .ok () =>
    let instrumentId := version.instrument.instrumentId
    let entries := registry.entries instrumentId
    if entries.any (·.rangesOverlap version) then
      (.error ⟨"instrument reference-data ranges overlap"⟩,
        registry.store instrumentId entries)
    else
      (.ok (), registry.store instrumentId ((entries ++ [version]).insertionSort
          (·.effectiveFrom ≤ ·.effectiveFrom)))

def resolve (registry : InstrumentRegistry) (instrumentId utcTime : String) :
    Option InstrumentVersion :=
  (registry.entries instrumentId).find? (·.appliesAt utcTime)

/-- The registry, and what it has accepted. -/
def registerNext (state : InstrumentRegistry × List InstrumentVersion)
    (version : InstrumentVersion) : InstrumentRegistry × List InstrumentVersion :=
  match state.1.register version with
  | (.ok (), registry) => (registry, state.2 ++ [version])
  | (.error _, registry) => (registry, state.2)

def registerAll (calls : List InstrumentVersion) :
    InstrumentRegistry × List InstrumentVersion :=
  calls.foldl registerNext (⟨∅⟩, [])

/-- Valid versions of which no two meet, each under its instrument. -/
structure Holds (registry : InstrumentRegistry)
    (accepted : List InstrumentVersion) : Prop where
  valid : ∀ version ∈ accepted, version.validate = .ok ()
  apart : accepted.Pairwise fun version other => ¬version.Meets other
  entries : ∀ id, (registry.entries id).Perm
    (accepted.filter (·.instrument.instrumentId = id))

theorem entries_store (id other : String) (stored : List InstrumentVersion) :
    (registry.store id stored).entries other
      = if id = other then stored else registry.entries other := by
  rw [entries, store, getElem?_insert]
  by_cases h : id = other
  · simp [h]
  · simp [h, entries]

theorem Holds.refused_iff (h : registry.Holds accepted) :
    (∃ e, (registry.register version).1 = .error e) ↔
      version.validate ≠ .ok () ∨ ∃ other ∈ accepted, other.Meets version := by
  unfold register
  cases hvalid : version.validate with
  | error e => exact ⟨fun _ => .inl nofun, fun _ => ⟨e, rfl⟩⟩
  | ok u =>
    have hany : (registry.entries version.instrument.instrumentId).any
        (·.rangesOverlap version) = true ↔
          ∃ other ∈ accepted, other.Meets version := by
      rw [List.any_eq_true]
      refine exists_congr fun other => ?_
      rw [(h.entries _).mem_iff, mem_filter, and_assoc]
      refine and_congr_right fun hmem => ?_
      rw [decide_eq_true_iff, InstrumentVersion.rangesOverlap_iff
        (h.valid other hmem) hvalid]
      rfl
    dsimp only
    split
    · next hoverlap => exact ⟨fun _ => .inr (hany.mp hoverlap), fun _ => ⟨_, rfl⟩⟩
    · next hclear =>
      refine ⟨fun ⟨e, he⟩ => by contradiction, fun hmeets => ?_⟩
      exact absurd (hany.mpr (hmeets.resolve_left fun hne => hne rfl)) hclear

theorem entries_of_refused {e : PaperError}
    (h : registry.register version = (.error e, after)) (id : String) :
    after.entries id = registry.entries id := by
  unfold register at h
  split at h
  · rw [← (Prod.mk.inj h).2]
  · dsimp only at h
    split at h
    · rw [← (Prod.mk.inj h).2, entries_store]
      split
      · next heq => rw [heq]
      · rfl
    · exact absurd (Prod.mk.inj h).1 nofun

theorem Holds.of_refused {e : PaperError} (h : registry.Holds accepted)
    (hrefused : registry.register version = (.error e, after)) : after.Holds accepted :=
  ⟨h.valid, h.apart, fun id => by
    rw [entries_of_refused hrefused]
    exact h.entries id⟩

theorem Holds.of_accepted (h : registry.Holds accepted)
    (haccepted : registry.register version = (.ok (), after)) :
    after.Holds (accepted ++ [version]) := by
  have hclear : ¬(version.validate ≠ .ok () ∨
      ∃ other ∈ accepted, other.Meets version) := by
    rw [← h.refused_iff, haccepted]
    rintro ⟨e, he⟩
    contradiction
  obtain ⟨hvalid, hapart⟩ := not_or.mp hclear
  have hvalid := not_not.mp hvalid
  refine ⟨?_, ?_, fun id => ?_⟩
  · intro other hmem
    rcases mem_append.mp hmem with hmem | hmem
    · exact h.valid other hmem
    · rw [mem_singleton.mp hmem, hvalid]
  · refine pairwise_append.mpr ⟨h.apart, List.pairwise_singleton _ _, ?_⟩
    intro other hother last hlast hmeets
    exact hapart ⟨other, hother, mem_singleton.mp hlast ▸ hmeets⟩
  · unfold register at haccepted
    rw [hvalid] at haccepted
    dsimp only at haccepted
    split at haccepted
    · exact absurd (Prod.mk.inj haccepted).1 nofun
    · rw [← (Prod.mk.inj haccepted).2, entries_store, filter_append]
      split
      · next heq =>
        subst heq
        rw [List.filter_singleton, decide_eq_true rfl]
        exact (perm_insertionSort _ _).trans
          ((h.entries _).append_right _)
      · next hne =>
        rw [List.filter_singleton, decide_eq_false hne]
        simpa using h.entries id

theorem Holds.registerNext {state : InstrumentRegistry × List InstrumentVersion}
    (h : state.1.Holds state.2) (version : InstrumentVersion) :
    (registerNext state version).1.Holds (registerNext state version).2 := by
  unfold InstrumentRegistry.registerNext
  split
  · next hstep => exact h.of_accepted hstep
  · next hstep => exact h.of_refused hstep

theorem holds_registerAll (calls : List InstrumentVersion) :
    (registerAll calls).1.Holds (registerAll calls).2 := by
  refine List.foldlRecOn (motive := fun state => state.1.Holds state.2) calls
    InstrumentRegistry.registerNext ?_ fun state h version _ => h.registerNext version
  exact ⟨fun version hmem => absurd hmem not_mem_nil, .nil, fun id => by
    simp [InstrumentRegistry.entries]⟩

theorem mem_of_resolve {id time : String} (h : registry.resolve id time = some version) :
    version ∈ registry.entries id ∧ version.appliesAt time = true := by
  have hfind : (registry.entries id).find? (·.appliesAt time) = some version := h
  exact ⟨List.mem_of_find?_eq_some hfind, by simpa using List.find?_some hfind⟩

theorem Holds.applying (h : registry.Holds accepted) (id time : String) :
    (accepted.filter fun version =>
      version.instrument.instrumentId = id ∧ version.appliesAt time = true)
      = (registry.resolve id time).toList := by
  have hmem : ∀ version, version ∈ (accepted.filter fun version =>
      version.instrument.instrumentId = id ∧ version.appliesAt time = true) ↔
        version ∈ registry.entries id ∧ version.appliesAt time = true := by
    intro version
    rw [(h.entries id).mem_iff, mem_filter, mem_filter, and_assoc]
    simp
  have hapart := h.apart.filter fun version =>
    version.instrument.instrumentId = id ∧ version.appliesAt time = true
  generalize haccepted : (accepted.filter fun version =>
    version.instrument.instrumentId = id ∧ version.appliesAt time = true)
      = applying at hmem hapart ⊢
  have hid : ∀ version ∈ applying, version.instrument.instrumentId = id ∧
      version.appliesAt time = true := by
    intro version hversion
    rw [← haccepted, mem_filter] at hversion
    simpa using hversion.2
  match applying with
  | [] =>
    cases hresolve : registry.resolve id time with
    | none => rfl
    | some version =>
      have hfound := (hmem version).mpr (mem_of_resolve hresolve)
      contradiction
  | [version] =>
    have hfound := (hmem version).mp (List.mem_singleton_self _)
    cases hresolve : registry.resolve id time with
    | none =>
      exact absurd hfound.2 (List.find?_eq_none.mp hresolve version hfound.1)
    | some other =>
      have hother := (hmem other).mpr (mem_of_resolve hresolve)
      rw [mem_singleton.mp hother]
      rfl
  | version :: other :: rest =>
    have hfirst := hid version mem_cons_self
    have hsecond := hid other (mem_cons_of_mem _ mem_cons_self)
    refine absurd ⟨hfirst.1.trans hsecond.1.symm, time, hfirst.2, hsecond.2⟩
      ((pairwise_cons.mp hapart).1 other mem_cons_self)

theorem Holds.resolve_eq {other : InstrumentRegistry}
    {reordered : List InstrumentVersion} (h : registry.Holds accepted)
    (hother : other.Holds reordered) (hperm : reordered.Perm accepted)
    (id time : String) : other.resolve id time = registry.resolve id time := by
  have hfilter := hperm.filter fun version =>
    version.instrument.instrumentId = id ∧ version.appliesAt time = true
  rw [hother.applying, h.applying] at hfilter
  cases hresolve : registry.resolve id time with
  | none =>
    rw [hresolve, Option.toList_none, List.perm_nil] at hfilter
    exact Option.toList_eq_nil_iff.mp hfilter
  | some version =>
    rw [hresolve, Option.toList_some, List.perm_singleton] at hfilter
    exact Option.toList_eq_singleton_iff.mp hfilter

/-- Valid versions of which no two meet are accepted in any order. -/
theorem accepts_apart {order : List InstrumentVersion}
    {state : InstrumentRegistry × List InstrumentVersion} (h : state.1.Holds state.2)
    (hvalid : ∀ version ∈ order, version.validate = .ok ())
    (hapart : (state.2 ++ order).Pairwise fun version other =>
      ¬version.Meets other) : (order.foldl InstrumentRegistry.registerNext state).2
      = state.2 ++ order := by
  induction order generalizing state with
  | nil => simp
  | cons version rest ih =>
    have hnext := h.registerNext version
    have hstate : (InstrumentRegistry.registerNext state version).2
        = state.2 ++ [version] := by
      unfold InstrumentRegistry.registerNext
      split
      · rfl
      · next e after hstep =>
        have hrefused := h.refused_iff.mp ⟨e, congrArg Prod.fst hstep⟩
        rcases hrefused with hinvalid | ⟨other, hother, hmeets⟩
        · exact absurd (hvalid version mem_cons_self) hinvalid
        · exact absurd hmeets ((pairwise_append.mp hapart).2.2 other hother
            version mem_cons_self)
    rw [List.foldl_cons, ih hnext
      (fun other hmem => hvalid other (mem_cons_of_mem _ hmem)), hstate,
      append_assoc, List.singleton_append]
    rwa [hstate, append_assoc, List.singleton_append]

/-- After the calls, the versions that apply are what `resolve` returns, in
whatever order the accepted ones came; a refused version leaves every answer,
and only an invalid or a meeting version is refused. -/
structure ResolvesUniquely (calls : List InstrumentVersion) : Prop where
  unique : ∀ id time, ((registerAll calls).2.filter fun version =>
    version.instrument.instrumentId = id ∧ version.appliesAt time = true)
      = ((registerAll calls).1.resolve id time).toList
  reordered : ∀ order : List InstrumentVersion, order.Perm (registerAll calls).2 →
    (registerAll order).2 = order ∧ ∀ id time, (registerAll order).1.resolve id time
        = (registerAll calls).1.resolve id time
  refused : ∀ version e after,
    (registerAll calls).1.register version = (.error e, after) →
      ∀ id time, after.resolve id time = (registerAll calls).1.resolve id time
  refused_iff : ∀ version, (∃ e, ((registerAll calls).1.register version).1 = .error e) ↔
      version.validate ≠ .ok () ∨ ∃ other ∈ (registerAll calls).2, other.Meets version

theorem registry_resolves_uniquely (calls : List InstrumentVersion) :
    ResolvesUniquely calls := by
  have h := holds_registerAll calls
  refine ⟨h.applying, fun order hperm => ?_, fun version e after hrefused id time =>
    ?_, fun version => h.refused_iff⟩
  · have hsymmetric : ∀ {version other : InstrumentVersion},
        ¬version.Meets other → ¬other.Meets version :=
      fun hapart hmeets => hapart hmeets.symm
    have haccepted : (registerAll order).2 = order := by
      refine @accepts_apart order (⟨∅⟩, []) (holds_registerAll [])
        (fun version hmem => h.valid version (hperm.mem_iff.mp hmem)) ?_
      exact (hperm.pairwise_iff hsymmetric).mpr h.apart
    refine ⟨haccepted, fun id time => h.resolve_eq (holds_registerAll order) ?_ id time⟩
    rwa [haccepted]
  · rw [resolve, resolve, entries_of_refused hrefused]

end InstrumentRegistry

end Follon.Instruments
