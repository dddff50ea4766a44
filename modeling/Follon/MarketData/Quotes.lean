import Follon.Domain.Identity
import Follon.Foundation.OrderedMap

/-!
# Quotes

Normalized top-of-book quotes and their index by instrument and sequence.
-/

namespace Follon.MarketData

open Foundation Domain

structure Quote where
  (eventTime receivedAt instrumentId quoteId : String)
  sourceSequence : UInt64
  (bidPrice bidQuantity askPrice askQuantity : Decimal)
  deriving DecidableEq

def parseUtc (value : String) : Result Int := do
  validateUtcTimestamp "timestamp" value
  match Domain.parseUtc value with
  | some instant => .ok instant
  | none => .error ⟨"timestamp is not an RFC 3339 instant"⟩

abbrev QuoteKey : Type :=
  String × UInt64

instance : Ord QuoteKey := lexOrd

namespace QuoteKey

def Before (key later : QuoteKey) : Prop :=
  key.1 < later.1 ∨ key.1 = later.1 ∧ key.2 < later.2

theorem compare_eq_lt {key later : QuoteKey} :
    compare key later = .lt ↔ key.Before later := by
  change lexOrd.compare key later = .lt ↔ _
  rw [PairKeys.lexOrd_eq_lt, PairKeys.compare_string_eq_lt,
    PairKeys.compare_uint64_eq_lt, Std.LawfulEqOrd.compare_eq_iff_eq]
  rfl

theorem keys_before {ν : Type} (map : OrderedMap QuoteKey ν) : map.keys.Pairwise Before :=
  Std.ExtTreeMap.ordered_keys.imp fun h => compare_eq_lt.mp h

end QuoteKey

namespace Quote

def key (quote : Quote) : QuoteKey := (quote.instrumentId, quote.sourceSequence)

def validate (quote : Quote) : Result Unit := do
  validateCanonicalId "quote instrument_id" quote.instrumentId
  validateCanonicalId "quote_id" quote.quoteId
  let eventTime ← parseUtc quote.eventTime
  let receivedAt ← parseUtc quote.receivedAt
  refuseIf (receivedAt < eventTime ∨ quote.sourceSequence = 0 ∨
      quote.bidPrice ≤ Decimal.zero ∨ quote.askPrice ≤ Decimal.zero ∨
      quote.askPrice < quote.bidPrice ∨ quote.bidQuantity < Decimal.zero ∨
      quote.askQuantity < Decimal.zero)
    "invalid normalized quote"

end Quote

/-! ## The index -/

structure QuoteIndex where
  byKey : OrderedMap QuoteKey Quote
  byId : OrderedMap String QuoteKey
  redeliveries : Nat

namespace QuoteIndex

def empty : QuoteIndex where
  byKey := ∅
  byId := ∅
  redeliveries := 0

def indexQuote (label : String) (index : QuoteIndex) (quote : Quote) :
    Result QuoteIndex := do
  quote.validate
  match index.byKey[quote.key]? with
  | some existing => do
    refuseIf (existing ≠ quote)
      (label ++ " holds two different quotes for " ++ quote.instrumentId ++
        " sequence " ++ toString quote.sourceSequence.toNat)
    pure { index with redeliveries := index.redeliveries + 1 }
  | none => do
    refuseIf (quote.quoteId ∈ index.byId)
      (label ++ " reuses quote identity " ++ quote.quoteId ++ " for two sequences")
    pure
      { byKey := index.byKey.insert quote.key quote
        byId := index.byId.insert quote.quoteId quote.key
        redeliveries := index.redeliveries }

structure Indexes (quotes : List Quote) (index : QuoteIndex) : Prop where
  valid : ∀ quote ∈ quotes, quote.validate = .ok ()
  holds : ∀ (key : QuoteKey) (quote : Quote),
    index.byKey[key]? = some quote ↔ quote ∈ quotes ∧ quote.key = key
  identities : ∀ (quoteId : String) (key : QuoteKey), index.byId[quoteId]? = some key ↔
      ∃ quote ∈ quotes, quote.quoteId = quoteId ∧ quote.key = key
  counted : index.byKey.size + index.redeliveries = quotes.length

theorem indexes_nil : Indexes [] .empty where
  valid := by simp
  holds := by simp [empty]
  identities := by simp [empty]
  counted := by simp [empty]

variable {quotes : List Quote} {index : QuoteIndex} {quote : Quote}

theorem Indexes.redeliver (h : Indexes quotes index)
    (hfound : index.byKey[quote.key]? = some quote) : Indexes (quotes ++ [quote])
      { index with redeliveries := index.redeliveries + 1 } := by
  have hmem := ((h.holds quote.key quote).mp hfound).1
  have hsame : ∀ quote', quote' ∈ quotes ++ [quote] ↔ quote' ∈ quotes := by
    intro quote'
    simp only [mem_append, mem_singleton, or_iff_left_iff_imp]
    rintro rfl
    exact hmem
  exact
    { valid := fun quote' hquote' => h.valid quote' ((hsame quote').mp hquote')
      holds := fun key quote' => by rw [h.holds, hsame]
      identities := fun quoteId key => by simp only [h.identities, hsame]
      counted := by
        have := h.counted
        simp only [length_append, List.length_singleton]
        omega }

theorem Indexes.insert (h : Indexes quotes index)
    (hvalid : quote.validate = .ok ()) (hkey : index.byKey[quote.key]? = none)
    (hid : quote.quoteId ∉ index.byId) : Indexes (quotes ++ [quote])
      { byKey := index.byKey.insert quote.key quote
        byId := index.byId.insert quote.quoteId quote.key
        redeliveries := index.redeliveries } := by
  have hfresh : ∀ quote' ∈ quotes, quote'.key ≠ quote.key := by
    intro quote' hquote' hsame
    have := (h.holds quote.key quote').mpr ⟨hquote', hsame⟩
    simp [hkey] at this
  have hfreshId : ∀ quote' ∈ quotes, quote'.quoteId ≠ quote.quoteId := by
    intro quote' hquote' hsame
    have := (h.identities quote.quoteId quote'.key).mpr
      ⟨quote', hquote', hsame, rfl⟩
    rw [mem_iff_isSome_getElem?, this] at hid
    simp at hid
  exact
    { valid := by
        intro quote' hquote'
        rw [mem_append, mem_singleton] at hquote'
        cases hquote' with
        | inl hold => exact h.valid quote' hold
        | inr hnew => rw [hnew, hvalid]
      holds := by
        intro key quote'
        by_cases hsame : quote.key = key
        · subst hsame
          rw [getElem?_insert_self, mem_append, mem_singleton]
          constructor
          · intro heq
            obtain rfl := Option.some.inj heq
            exact ⟨.inr rfl, rfl⟩
          · intro hquote'
            cases hquote'.1 with
            | inl hold => exact absurd hquote'.2 (hfresh quote' hold)
            | inr hnew => rw [hnew]
        · rw [getElem?_insert_of_ne _ _ hsame, h.holds, mem_append, mem_singleton]
          constructor
          · intro hold
            exact ⟨.inl hold.1, hold.2⟩
          · intro hquote'
            cases hquote'.1 with
            | inl hold => exact ⟨hold, hquote'.2⟩
            | inr hnew => exact absurd (hnew ▸ hquote'.2) hsame
      identities := by
        intro quoteId key
        by_cases hsame : quote.quoteId = quoteId
        · subst hsame
          rw [getElem?_insert_self]
          constructor
          · intro heq
            obtain rfl := Option.some.inj heq
            exact ⟨quote, by simp, rfl, rfl⟩
          · rintro ⟨quote', hmem, hid', rfl⟩
            rw [mem_append, mem_singleton] at hmem
            cases hmem with
            | inl hold => exact absurd hid' (hfreshId quote' hold)
            | inr hnew => rw [hnew]
        · rw [getElem?_insert_of_ne _ _ hsame, h.identities]
          constructor
          · rintro ⟨quote', hmem, hquote'⟩
            exact ⟨quote', mem_append_left _ hmem, hquote'⟩
          · rintro ⟨quote', hmem, hid', hkey'⟩
            rw [mem_append, mem_singleton] at hmem
            cases hmem with
            | inl hold => exact ⟨quote', hold, hid', hkey'⟩
            | inr hnew => exact absurd (hnew ▸ hid') hsame
      counted := by
        have hcount := h.counted
        have hnot : index.byKey.contains quote.key = false := by
          rw [Std.ExtTreeMap.contains_eq_isSome_getElem?, hkey]
          rfl
        rw [Std.ExtTreeMap.size_insert, hnot]
        simp only [Bool.false_eq_true, if_false, length_append, List.length_singleton]
        omega }

variable {label : String}

theorem indexes_indexQuote {index' : QuoteIndex} (h : Indexes quotes index)
    (hindex : indexQuote label index quote = .ok index') :
    Indexes (quotes ++ [quote]) index' := by
  unfold indexQuote at hindex
  rw [bind_eq_ok] at hindex
  obtain ⟨u, hvalid, hindex⟩ := hindex
  cases hkey : index.byKey[quote.key]? with
  | some existing =>
    simp only [hkey, bind_eq_ok, refuseIf_eq_ok, not_not] at hindex
    obtain ⟨u, rfl, hindex⟩ := hindex
    obtain rfl := Except.ok.inj hindex
    exact h.redeliver hkey
  | none =>
    simp only [hkey, bind_eq_ok, refuseIf_eq_ok] at hindex
    obtain ⟨u, hid, hindex⟩ := hindex
    obtain rfl := Except.ok.inj hindex
    exact h.insert hvalid hkey hid

structure Consistent (quotes : List Quote) : Prop where
  valid : ∀ quote ∈ quotes, quote.validate = .ok ()
  keys : ∀ quote ∈ quotes, ∀ quote' ∈ quotes, quote.key = quote'.key → quote = quote'
  identities : ∀ quote ∈ quotes, ∀ quote' ∈ quotes,
    quote.quoteId = quote'.quoteId → quote.key = quote'.key

theorem Indexes.consistent (h : Indexes quotes index) : Consistent quotes where
  valid := h.valid
  keys := by
    intro quote hquote quote' hquote' hkey
    have hfirst := (h.holds quote'.key quote).mpr ⟨hquote, hkey⟩
    have hsecond := (h.holds quote'.key quote').mpr ⟨hquote', rfl⟩
    rw [hfirst] at hsecond
    exact Option.some.inj hsecond
  identities := by
    intro quote hquote quote' hquote' hid
    have hfirst := (h.identities quote'.quoteId quote.key).mpr
      ⟨quote, hquote, hid, rfl⟩
    have hsecond := (h.identities quote'.quoteId quote'.key).mpr
      ⟨quote', hquote', rfl, rfl⟩
    rw [hfirst] at hsecond
    exact Option.some.inj hsecond

theorem Consistent.of_subset {quotes' : List Quote} (h : Consistent quotes)
    (hsub : ∀ quote ∈ quotes', quote ∈ quotes) : Consistent quotes' where
  valid := fun quote hquote => h.valid quote (hsub quote hquote)
  keys := fun quote hquote quote' hquote' =>
    h.keys quote (hsub quote hquote) quote' (hsub quote' hquote')
  identities := fun quote hquote quote' hquote' =>
    h.identities quote (hsub quote hquote) quote' (hsub quote' hquote')

theorem exists_indexQuote (h : Indexes quotes index)
    (hconsistent : Consistent (quotes ++ [quote])) :
    ∃ index', indexQuote label index quote = .ok index' := by
  have hmem : quote ∈ quotes ++ [quote] := by simp
  have hvalid := hconsistent.valid quote hmem
  unfold indexQuote
  simp only [hvalid, bind_eq_ok]
  cases hkey : index.byKey[quote.key]? with
  | some existing =>
    have hexisting := (h.holds quote.key existing).mp hkey
    have hsame := hconsistent.keys existing
      (mem_append_left _ hexisting.1) quote hmem hexisting.2
    exact ⟨_, (), trivial, by simp [hsame, refuseIf]; rfl⟩
  | none =>
    have hid : quote.quoteId ∉ index.byId := by
      intro hid
      rw [mem_iff_isSome_getElem?,
        isSome_iff_exists] at hid
      cases hid with
      | intro key hkey' =>
        obtain ⟨quote', hquote', hsame, rfl⟩ :=
          (h.identities quote.quoteId key).mp hkey'
        have hkeys := hconsistent.identities quote'
          (mem_append_left _ hquote') quote hmem hsame
        have := (h.holds quote.key quote').mpr ⟨hquote', hkeys⟩
        simp [hkey] at this
    exact ⟨_, (), trivial, by simp [hid, refuseIf]; rfl⟩

end QuoteIndex

open QuoteIndex

def indexQuotes (quotes : List Quote) (label : String) :
    Result (OrderedMap QuoteKey Quote × Nat) := do
  let index ← quotes.foldlM (indexQuote label) QuoteIndex.empty
  pure (index.byKey, index.redeliveries)

structure IsIndex (quotes : List Quote) (byKey : OrderedMap QuoteKey Quote)
    (redeliveries : Nat) : Prop where
  consistent : Consistent quotes
  holds : ∀ (key : QuoteKey) (quote : Quote),
    byKey[key]? = some quote ↔ quote ∈ quotes ∧ quote.key = key
  counted : byKey.size + redeliveries = quotes.length

theorem exists_indexes {label : String} {quotes : List Quote} (h : Consistent quotes) :
    ∃ index, quotes.foldlM (indexQuote label) QuoteIndex.empty = .ok index := by
  have hall : ∀ (seen : List Quote) (index : QuoteIndex), Indexes seen index →
      Consistent (seen ++ quotes) →
        ∃ index', quotes.foldlM (indexQuote label) index = .ok index' := by
    clear h
    induction quotes with
    | nil => exact fun seen index h hconsistent => ⟨index, rfl⟩
    | cons quote quotes ih =>
      intro seen index h hconsistent
      rw [List.append_cons] at hconsistent
      obtain ⟨index', hindex⟩ := exists_indexQuote h
        (hconsistent.of_subset fun _ => mem_append_left _)
      obtain ⟨index'', hrest⟩ := ih (seen ++ [quote]) index'
        (indexes_indexQuote h hindex) hconsistent
      exact ⟨index'', by rw [foldlM_cons, hindex]; exact hrest⟩
  exact hall [] QuoteIndex.empty indexes_nil h

variable {quotes : List Quote} {byKey : OrderedMap QuoteKey Quote}
  {redeliveries : Nat}

theorem indexQuotes_eq_ok {label : String} :
    indexQuotes quotes label = .ok (byKey, redeliveries) ↔
      IsIndex quotes byKey redeliveries := by
  have hspec : ∀ index,
      quotes.foldlM (indexQuote label) QuoteIndex.empty = .ok index →
        Indexes quotes index := by
    intro index hindex
    have := foldlM_over (R := Indexes)
      (fun _ _ _ _ hseen hstep => indexes_indexQuote hseen hstep)
      indexes_nil hindex
    exact this
  unfold indexQuotes
  constructor
  · intro h
    rw [bind_eq_ok] at h
    obtain ⟨index, hindex, h⟩ := h
    have hindexes := hspec index hindex
    obtain ⟨rfl, rfl⟩ := Prod.mk.inj (Except.ok.inj h)
    exact ⟨hindexes.consistent, hindexes.holds, hindexes.counted⟩
  · intro h
    obtain ⟨index, hindex⟩ := @exists_indexes label quotes h.consistent
    have hindexes := hspec index hindex
    have hbyKey : index.byKey = byKey := by
      apply ext_getElem?
      intro key
      apply Option.ext
      intro quote
      rw [hindexes.holds, h.holds]
    have hredeliveries : index.redeliveries = redeliveries := by
      have := hindexes.counted
      rw [hbyKey, ← h.counted] at this
      omega
    rw [bind_eq_ok]
    exact ⟨index, hindex, by rw [hbyKey, hredeliveries]; rfl⟩

theorem IsIndex.perm {quotes' : List Quote}
    (h : IsIndex quotes byKey redeliveries) (hperm : quotes'.Perm quotes) :
    IsIndex quotes' byKey redeliveries where
  consistent := h.consistent.of_subset fun _ => hperm.mem_iff.mp
  holds := fun key quote => by rw [h.holds, hperm.mem_iff]
  counted := by rw [h.counted, hperm.length_eq]

end Follon.MarketData
