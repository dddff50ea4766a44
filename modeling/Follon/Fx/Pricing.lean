import Follon.Domain.Timestamps
import Follon.Foundation.OrderedMap
import Mathlib.Data.List.MinMax
import Mathlib.Data.Prod.Lex

/-!
# FX marks

A book of price snapshots answers for an instrument, a product and a value date
with the midpoint of the latest snapshot that was received by the time asked for
and is still fresh.
-/

namespace Follon.Fx

open Foundation Domain

inductive FxProduct where
  | spot
  | forward
  | swap
  deriving DecidableEq

structure FxPair where
  (baseCurrency quoteCurrency : String)

def checkCurrency (name currency : String) : Result Unit :=
  refuseIf (isCurrencyCode currency = false)
    (name ++ " must be an uppercase three-letter code")

def FxPair.validate (pair : FxPair) : Result Unit := do
  checkCurrency "FX base currency" pair.baseCurrency
  checkCurrency "FX quote currency" pair.quoteCurrency
  refuseIf (pair.baseCurrency = pair.quoteCurrency)
    "FX base and quote currencies must differ"

structure FxValueDate where
  value : String
  deriving DecidableEq

def FxValueDate.validate (date : FxValueDate) : Result Unit := do
  let bytes := date.value.toUTF8.toList
  refuseIf (bytes.length ≠ 10 ∨ bytes[4]? ≠ some 45 ∨ bytes[7]? ≠ some 45)
    "FX value date must use canonical YYYY-MM-DD form"
  validateUtcTimestamp "FX value date" (date.value ++ "T00:00:00Z")

structure FxOutrightQuote where
  (bid ask : Decimal)

def FxOutrightQuote.validate (quote : FxOutrightQuote) : Result Unit :=
  refuseIf (quote.bid ≤ Decimal.zero ∨ quote.ask < quote.bid)
    "FX quote requires positive bid and ask >= bid"

def FxOutrightQuote.midpoint (quote : FxOutrightQuote) : Result Decimal := do
  quote.validate
  let sum ← quote.bid.checkedAdd quote.ask
  let two ← Decimal.fromInteger 2
  sum.checkedDiv two

inductive FxPriceTerms where
  | outright (valueDate : FxValueDate) (quote : FxOutrightQuote)
  | swap (nearValueDate farValueDate : FxValueDate) (nearQuote farQuote : FxOutrightQuote)

def FxPriceTerms.validateFor : FxProduct → FxPriceTerms → Result Unit
  | .spot, .outright valueDate quote | .forward, .outright valueDate quote => do
    valueDate.validate
    quote.validate
  | .swap, .swap nearValueDate farValueDate nearQuote farQuote => do
    nearValueDate.validate
    farValueDate.validate
    refuseIf (farValueDate.value ≤ nearValueDate.value)
      "FX swap near value date must precede far value date"
    nearQuote.validate
    farQuote.validate
  | _, _ => .error ⟨"FX pricing terms do not match the product kind"⟩

/-! ## Snapshots -/

structure FxPricingSnapshot where
  (snapshotId referenceVersion instrumentId : String)
  product : FxProduct
  pair : FxPair
  terms : FxPriceTerms
  sourceId : String
  sourceSequence : UInt64
  (sourceTime receivedAt : String)

def parseUtc (value : String) : Result Int :=
  match Domain.parseUtc value with
  | some instant => .ok instant
  | none => .error ⟨"invalid canonical FX UTC timestamp"⟩

def unixTimestamp (instant : Int) : Int := instant / 1000000000 - 62167219200

/-- The difference of two timestamps cannot leave the signed 64-bit range. -/
def ensureFresh (receivedAt asOf : String) (maximumAgeSeconds : Int) : Result Unit := do
  refuseIf (maximumAgeSeconds < 0) "FX maximum quote age cannot be negative"
  validateUtcTimestamp "FX pricing as_of" asOf
  let received ← parseUtc receivedAt
  let evaluation ← parseUtc asOf
  let age := unixTimestamp evaluation - unixTimestamp received
  refuseIf (age < 0 ∨ maximumAgeSeconds < age)
    "FX price is unavailable or stale at evaluation time"

def FxPriceTerms.midpointFor (valueDate : FxValueDate) : FxPriceTerms → Result Decimal
  | .outright observedDate quote =>
    if observedDate = valueDate then
      quote.midpoint
    else
      .error ⟨"FX pricing snapshot does not contain the requested value date"⟩
  | .swap nearValueDate farValueDate nearQuote farQuote =>
    if nearValueDate = valueDate then
      nearQuote.midpoint
    else if farValueDate = valueDate then
      farQuote.midpoint
    else
      .error ⟨"FX pricing snapshot does not contain the requested value date"⟩

/-- The terms hold the price of the value date. -/
def FxPriceTerms.Prices (valueDate : FxValueDate) (mark : Decimal) : FxPriceTerms → Prop
  | .outright observedDate quote => observedDate = valueDate ∧ quote.midpoint = .ok mark
  | .swap nearValueDate farValueDate nearQuote farQuote =>
    nearValueDate = valueDate ∧ nearQuote.midpoint = .ok mark ∨
      farValueDate = valueDate ∧ farQuote.midpoint = .ok mark

/-- The two dates of a swap differ, so at most one of its quotes applies. -/
theorem FxPriceTerms.midpointFor_eq_ok {product : FxProduct} {terms : FxPriceTerms}
    {valueDate : FxValueDate} {mark : Decimal} (h : terms.validateFor product = .ok ()) :
    terms.midpointFor valueDate = .ok mark ↔ terms.Prices valueDate mark := by
  cases terms with
  | outright observedDate quote =>
    simp only [midpointFor, Prices]
    split_ifs with hdate
    · simp [hdate]
    · simp [hdate]
  | swap nearValueDate farValueDate nearQuote farQuote =>
    have hdates : nearValueDate ≠ farValueDate := by
      rintro rfl
      cases product with
      | spot => contradiction
      | forward => contradiction
      | swap => simp [validateFor] at h
    simp only [midpointFor, Prices]
    split_ifs with hnear hfar
    · have hother : farValueDate ≠ valueDate := fun hsame =>
        hdates (hnear.trans hsame.symm)
      simp [hnear, hother]
    · simp [hnear, hfar]
    · simp [hnear, hfar]

namespace FxPricingSnapshot

def validate (snapshot : FxPricingSnapshot) : Result Unit := do
  validateCanonicalId "FX snapshot_id" snapshot.snapshotId
  validateCanonicalId "FX reference_version" snapshot.referenceVersion
  validateCanonicalId "FX instrument_id" snapshot.instrumentId
  validateCanonicalId "FX source_id" snapshot.sourceId
  snapshot.pair.validate
  snapshot.terms.validateFor snapshot.product
  validateUtcTimestamp "FX source_time" snapshot.sourceTime
  validateUtcTimestamp "FX received_at" snapshot.receivedAt
  refuseIf (snapshot.receivedAt < snapshot.sourceTime)
    "FX source time cannot follow received time"

def midpointAt (snapshot : FxPricingSnapshot) (valueDate : FxValueDate)
    (asOf : String) (maximumAgeSeconds : Int) : Result Decimal := do
  snapshot.validate
  ensureFresh snapshot.receivedAt asOf maximumAgeSeconds
  snapshot.terms.midpointFor valueDate

def sourceIdentity (snapshot : FxPricingSnapshot) : String × String × UInt64 :=
  (snapshot.instrumentId, snapshot.sourceId, snapshot.sourceSequence)

/-- Received time, source time, sequence and identity. -/
def rank (snapshot : FxPricingSnapshot) : String ×ₗ String ×ₗ Nat ×ₗ String :=
  toLex (snapshot.receivedAt, toLex (snapshot.sourceTime,
    toLex (snapshot.sourceSequence.toNat, snapshot.snapshotId)))

theorem snapshotId_of_rank {snapshot other : FxPricingSnapshot}
    (h : snapshot.rank = other.rank) : snapshot.snapshotId = other.snapshotId := by
  simp only [rank, EmbeddingLike.apply_eq_iff_eq, Prod.mk.injEq] at h
  exact h.2.2.2

end FxPricingSnapshot

/-! ## The book -/

structure FxPricingBook where
  snapshots : OrderedMap String FxPricingSnapshot

namespace FxPricingBook

/-- The source identities seen so far, and the book. -/
abbrev Building : Type :=
  List (String × String × UInt64) × FxPricingBook

def insertSnapshot (state : Building) (snapshot : FxPricingSnapshot) : Building :=
  (snapshot.sourceIdentity :: state.1,
    ⟨state.2.snapshots.insert snapshot.snapshotId snapshot⟩)

def add (state : Building) (snapshot : FxPricingSnapshot) : Result Building := do
  snapshot.validate
  refuseIf (snapshot.sourceIdentity ∈ state.1)
    "FX pricing book has ambiguous source sequence evidence"
  refuseIf (snapshot.snapshotId ∈ state.2.snapshots)
    "FX pricing book has duplicate snapshot_id"
  pure (insertSnapshot state snapshot)

def fromSnapshots (snapshots : List FxPricingSnapshot) : Result FxPricingBook := do
  let state ← snapshots.foldlM add ([], ⟨∅⟩)
  pure state.2

def values (book : FxPricingBook) : List FxPricingSnapshot :=
  book.snapshots.toList.map (·.2)

structure Query where
  instrumentId : String
  product : FxProduct
  valueDate : FxValueDate
  asOf : String
  maximumAgeSeconds : Int

def Query.mark (query : Query) (snapshot : FxPricingSnapshot) : Result Decimal :=
  snapshot.midpointAt query.valueDate query.asOf query.maximumAgeSeconds

def Query.eligible (query : Query) (snapshot : FxPricingSnapshot) : Bool :=
  snapshot.instrumentId == query.instrumentId && snapshot.product == query.product &&
    decide (snapshot.receivedAt ≤ query.asOf) && (query.mark snapshot).isOk

/-- `max_by` keeps the last of equal items, `argmax` the first. -/
def candidate (book : FxPricingBook) (query : Query) : Option FxPricingSnapshot :=
  (book.values.filter query.eligible).reverse.argmax FxPricingSnapshot.rank

def midpointAt (book : FxPricingBook) (query : Query) : Result (String × Decimal) := do
  validateCanonicalId "FX instrument_id" query.instrumentId
  validateUtcTimestamp "FX pricing as_of" query.asOf
  refuseIf (query.maximumAgeSeconds < 0) "FX maximum quote age cannot be negative"
  match book.candidate query with
  | none => .error ⟨"missing fresh FX pricing snapshot"⟩
  | some snapshot => do
    let mark ← query.mark snapshot
    pure (snapshot.snapshotId, mark)

/-! ## What a book holds -/

/-- Valid snapshots with distinct identities, and distinct places in their
sources. -/
structure Buildable (rows : List FxPricingSnapshot) : Prop where
  valid : ∀ snapshot ∈ rows, snapshot.validate = .ok ()
  sources : (rows.map (·.sourceIdentity)).Nodup
  identities : (rows.map (·.snapshotId)).Nodup

def Entries (rows : List FxPricingSnapshot) (book : FxPricingBook) : Prop :=
  ∀ (id : String) snapshot, book.snapshots[id]? = some snapshot ↔
    snapshot ∈ rows ∧ snapshot.snapshotId = id

structure Holds (rows : List FxPricingSnapshot) (state : Building) : Prop where
  seen : ∀ identity, identity ∈ state.1 ↔ identity ∈ rows.map (·.sourceIdentity)
  entries : Entries rows state.2

variable {rows rows' : List FxPricingSnapshot} {state state' : Building}
  {book book' : FxPricingBook} {snapshot : FxPricingSnapshot} {query : Query}

theorem holds_nil : Holds [] ([], ⟨∅⟩) where
  seen := by simp
  entries := by simp [Entries]

theorem Buildable.perm (h : Buildable rows) (hperm : rows.Perm rows') :
    Buildable rows' where
  valid := fun snapshot hmem => h.valid snapshot (hperm.mem_iff.mpr hmem)
  sources := (hperm.map _).nodup_iff.mp h.sources
  identities := (hperm.map _).nodup_iff.mp h.identities

theorem buildable_cons : Buildable (snapshot :: rows) ↔
    snapshot.validate = .ok () ∧ snapshot.sourceIdentity ∉ rows.map (·.sourceIdentity) ∧
      snapshot.snapshotId ∉ rows.map (·.snapshotId) ∧ Buildable rows := by
  constructor
  · rintro ⟨hvalid, hsources, hidentities⟩
    rw [forall_mem_cons] at hvalid
    rw [map_cons, nodup_cons] at hsources hidentities
    exact ⟨hvalid.1, hsources.1, hidentities.1, hvalid.2, hsources.2, hidentities.2⟩
  · rintro ⟨hvalid, hsource, hidentity, hrows⟩
    exact ⟨forall_mem_cons.mpr ⟨hvalid, hrows.valid⟩, nodup_cons.mpr ⟨hsource,
      hrows.sources⟩, nodup_cons.mpr ⟨hidentity, hrows.identities⟩⟩

theorem Buildable.right (h : Buildable (rows' ++ rows)) : Buildable rows := by
  induction rows' with
  | nil => exact h
  | cons snapshot rest ih => exact ih (buildable_cons.mp h).2.2.2

theorem Holds.perm (h : Holds rows state) (hperm : rows.Perm rows') :
    Holds rows' state where
  seen := fun identity => by rw [h.seen, (hperm.map _).mem_iff]
  entries := fun id snapshot => by rw [h.entries, hperm.mem_iff]

theorem Holds.mem_snapshots_iff (h : Holds rows state) {id : String} :
    id ∈ state.2.snapshots ↔ id ∈ rows.map (·.snapshotId) := by
  rw [mem_iff_isSome_getElem?, isSome_iff_exists, mem_map]
  exact exists_congr fun snapshot => h.entries id snapshot

theorem Holds.insertSnapshot (h : Holds rows state)
    (hnew : snapshot.snapshotId ∉ rows.map (·.snapshotId)) :
    Holds (snapshot :: rows) (insertSnapshot state snapshot) where
  seen := by
    intro identity
    simp only [FxPricingBook.insertSnapshot, map_cons, mem_cons, h.seen]
  entries := by
    intro id other
    simp only [FxPricingBook.insertSnapshot, getElem?_insert,
      Std.LawfulEqOrd.compare_eq_iff_eq, mem_cons]
    split
    · next hsame =>
      constructor
      · rintro ⟨⟩
        exact ⟨.inl rfl, hsame⟩
      · rintro ⟨rfl | hmem, hid⟩
        · rfl
        · exact absurd (mem_map.mpr ⟨other, hmem, hid.trans hsame.symm⟩) hnew
    · next hother =>
      rw [h.entries]
      constructor
      · rintro ⟨hmem, hid⟩
        exact ⟨.inr hmem, hid⟩
      · rintro ⟨rfl | hmem, hid⟩
        · exact absurd hid hother
        · exact ⟨hmem, hid⟩

theorem add_eq_ok : add state snapshot = .ok state' ↔
    (snapshot.validate = .ok () ∧ snapshot.sourceIdentity ∉ state.1 ∧
      snapshot.snapshotId ∉ state.2.snapshots) ∧ insertSnapshot state snapshot = state' := by
  simp only [add, bind_eq_ok, refuseIf_eq_ok, pure_eq_ok, and_assoc, Unique.exists_iff, PUnit.default_eq_unit]

theorem Holds.add_eq_ok (hrows : Buildable rows) (h : Holds rows state) :
    add state snapshot = .ok state' ↔
      Buildable (snapshot :: rows) ∧ FxPricingBook.insertSnapshot state snapshot = state' := by
  rw [FxPricingBook.add_eq_ok, h.seen, h.mem_snapshots_iff, buildable_cons]
  simp only [hrows, and_true]

/-- The loop returns exactly on a buildable collection, whose snapshots it
holds. -/
theorem Holds.foldlM (hrows : Buildable rows) (h : Holds rows state) :
    (Buildable (rows' ++ rows) ∧ ∃ state', rows'.foldlM add state = .ok state' ∧
        Holds (rows' ++ rows) state') ∨
      ¬Buildable (rows' ++ rows) ∧ ∃ e, rows'.foldlM add state = .error e := by
  induction rows' generalizing rows state with
  | nil => exact .inl ⟨hrows, state, rfl, h⟩
  | cons snapshot rest ih =>
    have hperm : (rest ++ snapshot :: rows).Perm (snapshot :: rest ++ rows) :=
      List.perm_middle
    rw [foldlM_cons]
    cases hadd : add state snapshot with
    | error e =>
      refine .inr ⟨fun hall => ?_, e, rfl⟩
      have hrow := (hall.perm hperm.symm).right
      rw [(h.add_eq_ok hrows).mpr ⟨hrow, rfl⟩] at hadd
      contradiction
    | ok next =>
      obtain ⟨hrow, rfl⟩ := (h.add_eq_ok hrows).mp hadd
      have hnext := h.insertSnapshot (buildable_cons.mp hrow).2.2.1
      rcases ih hrow hnext with ⟨hall, state', hfold, hstate⟩ | ⟨hnot, e, hfold⟩
      · exact .inl ⟨hall.perm hperm, state', hfold, hstate.perm hperm⟩
      · exact .inr ⟨fun hall => hnot (hall.perm hperm.symm), e, hfold⟩

theorem fromSnapshots_cases (rows : List FxPricingSnapshot) :
    (Buildable rows ∧ ∃ book, fromSnapshots rows = .ok book ∧ Entries rows book) ∨
      ¬Buildable rows ∧ ∃ e, fromSnapshots rows = .error e := by
  have hrun := @Holds.foldlM [] rows _ ⟨by simp, by simp, by simp⟩ holds_nil
  rw [append_nil] at hrun
  unfold fromSnapshots
  rcases hrun with ⟨hrows, state, hfold, h⟩ | ⟨hnot, e, hfold⟩
  · rw [hfold]
    exact .inl ⟨hrows, state.2, rfl, h.entries⟩
  · rw [hfold]
    exact .inr ⟨hnot, e, rfl⟩

/-! ## Marks -/

def ageSeconds (receivedAt asOf : String) : Int :=
  unixTimestamp (instantOf asOf) - unixTimestamp (instantOf receivedAt)

structure Query.Valid (query : Query) : Prop where
  instrument : isCanonicalId query.instrumentId = true
  asOf : isUtcTimestamp query.asOf = true
  age : 0 ≤ query.maximumAgeSeconds

/-- What the query asks of a snapshot, priced at `mark`. -/
structure Query.Marks (query : Query) (snapshot : FxPricingSnapshot)
    (mark : Decimal) : Prop where
  instrument : snapshot.instrumentId = query.instrumentId
  product : snapshot.product = query.product
  received : snapshot.receivedAt ≤ query.asOf
  aged : 0 ≤ ageSeconds snapshot.receivedAt query.asOf
  fresh : ageSeconds snapshot.receivedAt query.asOf ≤ query.maximumAgeSeconds
  priced : snapshot.terms.Prices query.valueDate mark

theorem parseUtc_of_valid {time : String} (h : isUtcTimestamp time = true) :
    parseUtc time = .ok (instantOf time) := by
  rw [parseUtc, parseUtc_eq_instantOf h]

theorem ensureFresh_eq_ok {receivedAt : String} (hquery : query.Valid)
    (h : isUtcTimestamp receivedAt = true) :
    ensureFresh receivedAt query.asOf query.maximumAgeSeconds = .ok () ↔
      0 ≤ ageSeconds receivedAt query.asOf ∧
        ageSeconds receivedAt query.asOf ≤ query.maximumAgeSeconds := by
  have hage := hquery.age
  simp only [ensureFresh, bind_eq_ok, refuseIf_eq_ok, validateUtcTimestamp_eq_ok,
    parseUtc_of_valid h, parseUtc_of_valid hquery.asOf, hquery.asOf, Except.ok.injEq,
    exists_eq_left', not_or, not_lt, ageSeconds, hage, Unique.exists_iff, true_and]

theorem mark_eq_ok {mark : Decimal} (hquery : query.Valid)
    (h : snapshot.validate = .ok ()) : query.mark snapshot = .ok mark ↔
      (0 ≤ ageSeconds snapshot.receivedAt query.asOf ∧
        ageSeconds snapshot.receivedAt query.asOf ≤ query.maximumAgeSeconds) ∧
      snapshot.terms.Prices query.valueDate mark := by
  have hparts := h
  simp only [FxPricingSnapshot.validate, bind_eq_ok, validateUtcTimestamp_eq_ok] at hparts
  obtain ⟨-, -, -, -, -, -, -, -, -, -, _, hterms, -, -, -, hreceived, -⟩ := hparts
  simp only [Query.mark, FxPricingSnapshot.midpointAt, bind_eq_ok, h, true_and,
    Unique.exists_iff, ensureFresh_eq_ok hquery hreceived,
    FxPriceTerms.midpointFor_eq_ok hterms]

theorem eligible_iff (hquery : query.Valid) (h : snapshot.validate = .ok ()) :
    query.eligible snapshot = true ↔ ∃ mark, query.Marks snapshot mark := by
  have hok : (query.mark snapshot).isOk = true ↔ ∃ mark, query.mark snapshot = .ok mark := by
    cases query.mark snapshot with
    | ok mark => simp [Except.isOk, Except.toBool]
    | error e => simp [Except.isOk, Except.toBool]
  simp only [Query.eligible, and_eq_true, beq_iff_eq, decide_eq_true_eq, hok,
    mark_eq_ok hquery h]
  constructor
  · rintro ⟨⟨⟨hinstrument, hproduct⟩, hreceived⟩, mark, ⟨haged, hfresh⟩, hpriced⟩
    exact ⟨mark, hinstrument, hproduct, hreceived, haged, hfresh, hpriced⟩
  · rintro ⟨mark, hmarks⟩
    exact ⟨⟨⟨hmarks.instrument, hmarks.product⟩, hmarks.received⟩, mark,
      ⟨hmarks.aged, hmarks.fresh⟩, hmarks.priced⟩

/-! ## Selection -/

theorem Entries.mem_values (h : Entries rows book) : snapshot ∈ book.values ↔
    snapshot ∈ rows := by
  rw [values, mem_map]
  constructor
  · rintro ⟨⟨id, found⟩, hentry, rfl⟩
    exact ((h id found).mp (mem_toList_iff_getElem?_eq_some.mp hentry)).1
  · intro hmem
    exact ⟨(snapshot.snapshotId, snapshot),
      mem_toList_iff_getElem?_eq_some.mpr ((h _ _).mpr ⟨hmem, rfl⟩), rfl⟩

theorem Entries.candidate_eq_some (hrows : Buildable rows) (h : Entries rows book) :
    book.candidate query = some snapshot ↔
      (snapshot ∈ rows ∧ query.eligible snapshot = true) ∧
        ∀ other ∈ rows, query.eligible other = true → other.rank ≤ snapshot.rank := by
  have hmem : ∀ other, other ∈ (book.values.filter query.eligible).reverse ↔
      other ∈ rows ∧ query.eligible other = true := by
    intro other
    rw [List.mem_reverse, mem_filter, h.mem_values]
  have hbest : ∀ best, book.candidate query = some best →
      (best ∈ rows ∧ query.eligible best = true) ∧
        ∀ other ∈ rows, query.eligible other = true → other.rank ≤ best.rank :=
    fun best hfound => ⟨(hmem best).mp (List.argmax_mem hfound), fun other hother heligible =>
      List.le_of_mem_argmax ((hmem other).mpr ⟨hother, heligible⟩) hfound⟩
  refine ⟨hbest snapshot, fun ⟨hin, hlatest⟩ => ?_⟩
  cases hfound : book.candidate query with
  | none =>
    have hempty := List.argmax_eq_none.mp hfound
    have hsnapshot := (hmem snapshot).mpr hin
    rw [hempty] at hsnapshot
    exact absurd hsnapshot not_mem_nil
  | some best =>
    obtain ⟨⟨hbestMem, heligible⟩, hmax⟩ := hbest best hfound
    have hrank : best.rank = snapshot.rank :=
      le_antisymm (hlatest best hbestMem heligible) (hmax snapshot hin.1 hin.2)
    rw [List.inj_on_of_nodup_map hrows.identities hbestMem hin.1
      (FxPricingSnapshot.snapshotId_of_rank hrank)]

theorem midpointAt_eq_ok {id : String} {mark : Decimal}
    (h : book.midpointAt query = .ok (id, mark)) : query.Valid ∧
      ∃ snapshot, book.candidate query = some snapshot ∧
        query.mark snapshot = .ok mark ∧ snapshot.snapshotId = id := by
  simp only [midpointAt, bind_eq_ok, validateCanonicalId_eq_ok,
    validateUtcTimestamp_eq_ok, refuseIf_eq_ok, not_lt] at h
  obtain ⟨-, hinstrument, -, hasOf, -, hage, h⟩ := h
  refine ⟨⟨hinstrument, hasOf, hage⟩, ?_⟩
  cases hfound : book.candidate query with
  | none =>
    rw [hfound] at h
    contradiction
  | some snapshot =>
    simp only [hfound, bind_eq_ok] at h
    obtain ⟨found, hmark, h⟩ := h
    obtain ⟨rfl, rfl⟩ := Prod.mk.inj (Except.ok.inj h)
    exact ⟨snapshot, rfl, hmark, rfl⟩

theorem entries_of_fromSnapshots (h : fromSnapshots rows = .ok book) :
    Buildable rows ∧ Entries rows book := by
  rcases fromSnapshots_cases rows with ⟨hrows, built, hbuilt, hentries⟩ | ⟨-, e, he⟩
  · rw [hbuilt] at h
    obtain rfl := Except.ok.inj h
    exact ⟨hrows, hentries⟩
  · rw [he] at h
    contradiction

theorem Entries.ext (h : Entries rows book) (h' : Entries rows' book')
    (hmem : ∀ snapshot, snapshot ∈ rows ↔ snapshot ∈ rows') : book = book' := by
  have hsame : book.snapshots = book'.snapshots := by
    refine ext_getElem? fun {id} => Option.ext fun snapshot => ?_
    rw [h id, h' id, hmem]
  exact congrArg FxPricingBook.mk hsame

theorem Entries.candidate_eq (hrows : Buildable rows) (h : Entries rows book)
    (hrows' : Buildable rows') (h' : Entries rows' book')
    (hmem : ∀ snapshot, query.eligible snapshot = true →
      (snapshot ∈ rows ↔ snapshot ∈ rows')) :
    book.candidate query = book'.candidate query := by
  refine Option.ext fun snapshot => ?_
  rw [h.candidate_eq_some hrows, h'.candidate_eq_some hrows']
  refine and_congr ?_ (forall_congr' fun other => ?_)
  · exact and_congr_left (hmem snapshot)
  · constructor
    · exact fun hmax hother heligible => hmax ((hmem other heligible).mpr hother) heligible
    · exact fun hmax hother heligible => hmax ((hmem other heligible).mp hother) heligible

/-- Marks as of a time: the order of the collection does not matter, a mark is
that of the latest snapshot the query admits, and what is received after the
time asked for changes nothing. -/
structure PointInTime (rows : List FxPricingSnapshot) : Prop where
  ordered : ∀ rows', rows.Perm rows' →
    (∃ e e', fromSnapshots rows = .error e ∧ fromSnapshots rows' = .error e') ∨
      ∃ book, fromSnapshots rows = .ok book ∧ fromSnapshots rows' = .ok book
  marked : ∀ book query id mark, fromSnapshots rows = .ok book →
    book.midpointAt query = .ok (id, mark) →
      ∃ snapshot ∈ rows, snapshot.snapshotId = id ∧ query.Marks snapshot mark ∧
        ∀ other ∈ rows, (∃ mark', query.Marks other mark') → other.rank ≤ snapshot.rank
  unseen : ∀ later all book book' query, all.Perm (rows ++ later) →
    (∀ snapshot ∈ later, query.asOf < snapshot.receivedAt) →
    fromSnapshots rows = .ok book → fromSnapshots all = .ok book' →
      book'.midpointAt query = book.midpointAt query

theorem fx_marks_point_in_time (rows : List FxPricingSnapshot) : PointInTime rows where
  ordered := by
    intro rows' hperm
    rcases fromSnapshots_cases rows with ⟨hrows, book, hbook, h⟩ | ⟨hnot, e, he⟩
    · rcases fromSnapshots_cases rows' with ⟨-, book', hbook', h'⟩ | ⟨hnot, -⟩
      · obtain rfl := h.ext h' fun snapshot => hperm.mem_iff
        exact .inr ⟨book, hbook, hbook'⟩
      · exact absurd (hrows.perm hperm) hnot
    · rcases fromSnapshots_cases rows' with ⟨hrows', -⟩ | ⟨-, e', he'⟩
      · exact absurd (hrows'.perm hperm.symm) hnot
      · exact .inl ⟨e, e', he, he'⟩
  marked := by
    intro book query id mark hbook hmark
    obtain ⟨hrows, h⟩ := entries_of_fromSnapshots hbook
    obtain ⟨hquery, snapshot, hfound, hprice, hid⟩ := midpointAt_eq_ok hmark
    obtain ⟨⟨hmem, heligible⟩, hmax⟩ := (h.candidate_eq_some hrows).mp hfound
    have hvalid := hrows.valid snapshot hmem
    obtain ⟨_, hmarks⟩ := (eligible_iff hquery hvalid).mp heligible
    have hpriced := ((mark_eq_ok hquery hvalid).mp hprice).2
    exact ⟨snapshot, hmem, hid, { hmarks with priced := hpriced },
      fun other hother hadmitted => hmax other hother
        ((eligible_iff hquery (hrows.valid other hother)).mpr hadmitted)⟩
  unseen := by
    intro later all book book' query hperm hlater hbook hbook'
    obtain ⟨hrows, h⟩ := entries_of_fromSnapshots hbook
    obtain ⟨hall, h'⟩ := entries_of_fromSnapshots hbook'
    have hsame : book'.candidate query = book.candidate query := by
      refine h'.candidate_eq hall hrows h fun snapshot heligible => ?_
      rw [hperm.mem_iff, mem_append]
      refine or_iff_left fun hmem => ?_
      simp only [Query.eligible, and_eq_true, decide_eq_true_eq] at heligible
      exact absurd (hlater snapshot hmem) (not_lt.mpr heligible.1.2)
    rw [midpointAt, midpointAt, hsame]

end FxPricingBook

end Follon.Fx
