import Follon.Domain.CivilTime
import Follon.Foundation.Grouping
import Follon.MarketData.Quotes

/-!
# Bars from trades

Trades grouped by interval and instrument, ordered inside each group, and
built into bars.
-/

namespace Follon.MarketData

open Foundation Domain

structure Trade where
  (eventTime instrumentId tradeId : String)
  sourceSequence : UInt64
  (price quantity : Decimal)
  deriving DecidableEq

def Trade.validate (trade : Trade) : Result Unit := do
  validateCanonicalId "instrument_id" trade.instrumentId
  validateCanonicalId "trade_id" trade.tradeId
  validateUtcTimestamp "trade event_time" trade.eventTime
  refuseIf (trade.price ≤ Decimal.zero ∨ trade.quantity ≤ Decimal.zero)
    "trade must have positive price and positive quantity"

structure BarBuilder where
  intervalSeconds : UInt32
  exchangeTimezone : String
  interval_ne_zero : intervalSeconds ≠ 0
  timezone_named : exchangeTimezone.isEmpty = false

def unixEpoch : Nat := 62167219200

def unixTimestamp (instant : Int) : Int := instant / 1000000000 - unixEpoch

/-- `from_unix_timestamp(bucket)` in the years a timestamp can name. -/
def formatTimestamp (bucket : Int) : Result String :=
  if 0 ≤ bucket + unixEpoch ∧
      civilYear ((bucket + unixEpoch).toNat / 86400) < 10000 then
    .ok (formatUtc (bucket + unixEpoch).toNat)
  else
    .error ⟨"The year component cannot be formatted into the requested format."⟩

abbrev BucketKey : Type :=
  Int × String

instance : Ord BucketKey := lexOrd

structure Grouping where
  grouped : OrderedMap BucketKey (List Trade)
  tradeIds : OrderedSet String
  sourceSequences : OrderedSet QuoteKey

def tradeLe (left right : Trade) : Prop :=
  left.eventTime < right.eventTime ∨ (left.eventTime = right.eventTime ∧
      (left.sourceSequence < right.sourceSequence ∨
        (left.sourceSequence = right.sourceSequence ∧ left.tradeId ≤ right.tradeId)))

instance : DecidableRel tradeLe :=
  fun left right => inferInstanceAs (Decidable
    (left.eventTime < right.eventTime ∨ (left.eventTime = right.eventTime ∧
        (left.sourceSequence < right.sourceSequence ∨
          (left.sourceSequence = right.sourceSequence ∧ left.tradeId ≤ right.tradeId)))))

structure Extremes where
  (high low volume : Decimal)

def Extremes.absorb (extremes : Extremes) (trade : Trade) : Result Extremes := do
  let volume ← extremes.volume.checkedAdd trade.quantity
  pure
    { high := extremes.high.max trade.price, low := extremes.low.min trade.price
      volume }

namespace BarBuilder

def new (intervalSeconds : UInt32) (exchangeTimezone : String) : Result BarBuilder :=
  if h : intervalSeconds = 0 ∨ exchangeTimezone.isEmpty = true then
    .error ⟨"bar interval and exchange timezone are required"⟩
  else
    .ok
      { intervalSeconds
        exchangeTimezone
        interval_ne_zero := fun hzero => h (.inl hzero)
        timezone_named := by simpa using fun hempty => h (.inr hempty) }

def interval (builder : BarBuilder) : Int := builder.intervalSeconds.toNat

def bucket (builder : BarBuilder) (instant : Int) : Int :=
  unixTimestamp instant / builder.interval * builder.interval

def groupTrade (builder : BarBuilder) (grouping : Grouping) (trade : Trade) :
    Result Grouping := do
  trade.validate
  refuseIf (trade.tradeId ∈ grouping.tradeIds)
    ("duplicate trade ID: " ++ trade.tradeId)
  refuseIf ((trade.instrumentId, trade.sourceSequence) ∈ grouping.sourceSequences)
    ("duplicate source sequence for " ++ trade.instrumentId ++ ": " ++
      toString trade.sourceSequence.toNat)
  let timestamp ← parseUtc trade.eventTime
  pure
    { grouped := OrderedMap.push grouping.grouped
        (builder.bucket timestamp, trade.instrumentId) trade
      tradeIds := grouping.tradeIds.insert trade.tradeId
      sourceSequences := grouping.sourceSequences.insert
        (trade.instrumentId, trade.sourceSequence) }

def barOfOrdered (builder : BarBuilder) (key : BucketKey)
    (ordered : List Trade) : Result (String × Bar) :=
  match ordered.head?, ordered.getLast? with
  | some first, some last => do
    let extremes ← ordered.foldlM Extremes.absorb
      ⟨first.price, first.price, Decimal.zero⟩
    let eventTime ← formatTimestamp key.1
    let bar : Bar :=
      { instrumentId := key.2, open_ := first.price, high := extremes.high
        low := extremes.low, close := last.price, volume := extremes.volume
        intervalSeconds := builder.intervalSeconds
        exchangeTimezone := builder.exchangeTimezone }
    bar.validate
    pure (eventTime, bar)
  | _, _ => .error ⟨"grouped trade bucket is not empty"⟩

def barOf (builder : BarBuilder) (entry : BucketKey × List Trade) :
    Result (String × Bar) :=
  builder.barOfOrdered entry.1 (entry.2.insertionSort tradeLe)

def build (builder : BarBuilder) (trades : List Trade) :
    Result (List (String × Bar)) := do
  let grouping ← trades.foldlM builder.groupTrade ⟨∅, ∅, ∅⟩
  collect builder.barOf grouping.grouped.toList

end BarBuilder

/-! ## The order of trades -/

def Trade.Precedes (trade later : Trade) : Prop :=
  instantOf trade.eventTime < instantOf later.eventTime ∨
    instantOf trade.eventTime = instantOf later.eventTime ∧
      trade.sourceSequence < later.sourceSequence

structure Distinct (trades : List Trade) : Prop where
  valid : ∀ trade ∈ trades, trade.validate = .ok ()
  ids : (trades.map Trade.tradeId).Nodup
  sequences : (trades.map fun trade =>
    (trade.instrumentId, trade.sourceSequence)).Nodup

variable {trades trades' : List Trade} {trade : Trade}

theorem Distinct.perm (h : Distinct trades) (hperm : trades'.Perm trades)
    : Distinct trades' where
  valid := fun trade htrade => h.valid trade (hperm.mem_iff.mp htrade)
  ids := ((hperm.map _).nodup_iff).mpr h.ids
  sequences := ((hperm.map _).nodup_iff).mpr h.sequences

theorem Distinct.sublist (h : Distinct trades) (hsub : trades'.Sublist trades)
    : Distinct trades' where
  valid := fun trade htrade => h.valid trade (hsub.subset htrade)
  ids := (hsub.map _).nodup h.ids
  sequences := (hsub.map _).nodup h.sequences

structure Trade.IsValid (trade : Trade) : Prop where
  instrumentId : isCanonicalId trade.instrumentId = true
  tradeId : isCanonicalId trade.tradeId = true
  eventTime : isUtcTimestamp trade.eventTime = true
  price : Decimal.zero < trade.price
  quantity : Decimal.zero < trade.quantity

theorem Trade.validate_eq_ok_iff {u : Unit} : trade.validate = .ok u ↔ trade.IsValid := by
  unfold Trade.validate
  simp only [bind_eq_ok, validateCanonicalId_eq_ok, validateUtcTimestamp_eq_ok,
    refuseIf_eq_ok, exists_const, not_or, le_def, Int.not_le]
  constructor
  · intro h
    exact ⟨h.1, h.2.1, h.2.2.1, h.2.2.2.1, h.2.2.2.2⟩
  · intro h
    exact ⟨h.instrumentId, h.tradeId, h.eventTime, h.price, h.quantity⟩

instance : Std.Total tradeLe where
  total left right := by
    unfold tradeLe
    rcases lt_trichotomy left.eventTime right.eventTime with h | h | h
    · exact .inl (.inl h)
    · rcases Nat.lt_trichotomy left.sourceSequence.toNat
        right.sourceSequence.toNat with h' | h' | h'
      · exact .inl (.inr ⟨h, .inl (UInt64.lt_iff_toNat_lt.mpr h')⟩)
      · have hsame := UInt64.toNat_inj.mp h'
        cases le_total left.tradeId right.tradeId with
        | inl hle => exact .inl (.inr ⟨h, .inr ⟨hsame, hle⟩⟩)
        | inr hle => exact .inr (.inr ⟨h.symm, .inr ⟨hsame.symm, hle⟩⟩)
      · exact .inr (.inr ⟨h.symm, .inl (UInt64.lt_iff_toNat_lt.mpr h')⟩)
    · exact .inr (.inl h)

instance : IsTrans Trade tradeLe where
  trans first second third h h' := by
    unfold tradeLe at *
    rcases h with h | ⟨h, hs⟩
    · rcases h' with h' | ⟨h', -⟩
      · exact .inl (lt_trans h h')
      · exact .inl (h' ▸ h)
    · rcases h' with h' | ⟨h', hs'⟩
      · exact .inl (h ▸ h')
      · refine .inr ⟨h.trans h', ?_⟩
        rcases hs with hs | ⟨hs, ht⟩
        · rcases hs' with hs' | ⟨hs', -⟩
          · exact .inl (UInt64.lt_trans hs hs')
          · exact .inl (hs' ▸ hs)
        · rcases hs' with hs' | ⟨hs', ht'⟩
          · exact .inl (hs ▸ hs')
          · exact .inr ⟨hs.trans hs', le_trans ht ht'⟩

theorem eq_of_tradeLe (h : Distinct trades) {left right : Trade}
    (hleft : left ∈ trades) (hright : right ∈ trades)
    (hle : tradeLe left right) (hle' : tradeLe right left) : left = right := by
  have hid : left.tradeId = right.tradeId := by
    unfold tradeLe at hle hle'
    rcases hle with hlt | ⟨htime, hlt | ⟨hsequence, hid⟩⟩
    · rcases hle' with hlt' | ⟨htime', -⟩
      · exact absurd (lt_trans hlt hlt') (lt_irrefl _)
      · exact absurd hlt (by rw [htime']; exact lt_irrefl _)
    · rcases hle' with hlt' | ⟨-, hlt' | ⟨hsequence', -⟩⟩
      · exact absurd hlt' (by rw [htime]; exact lt_irrefl _)
      · exact absurd (UInt64.lt_trans hlt hlt') (UInt64.lt_irrefl _)
      · exact absurd hlt (by rw [hsequence']; exact UInt64.lt_irrefl _)
    · rcases hle' with hlt' | ⟨-, hlt' | ⟨-, hid'⟩⟩
      · exact absurd hlt' (by rw [htime]; exact lt_irrefl _)
      · exact absurd hlt' (by rw [hsequence]; exact UInt64.lt_irrefl _)
      · exact le_antisymm hid hid'
  exact List.inj_on_of_nodup_map h.ids hleft hright hid

theorem insertionSort_perm (h : Distinct trades) (hperm : trades'.Perm trades) :
    trades'.insertionSort tradeLe = trades.insertionSort tradeLe := by
  have hsort := perm_insertionSort tradeLe trades
  have hsort' := perm_insertionSort tradeLe trades'
  refine (hsort'.trans (hperm.trans hsort.symm)).eq_of_pairwise ?_
    (pairwise_insertionSort tradeLe trades')
    (pairwise_insertionSort tradeLe trades)
  intro left right hleft hright hle hle'
  exact eq_of_tradeLe h (hperm.mem_iff.mp (hsort'.mem_iff.mp hleft))
    (hsort.mem_iff.mp hright) hle hle'

theorem precedes_of_tradeLe (h : Distinct trades) {later : Trade}
    (htrade : trade ∈ trades) (hlater : later ∈ trades)
    (hsame : trade.instrumentId = later.instrumentId)
    (hle : tradeLe trade later) : later = trade ∨ trade.Precedes later := by
  have hvalid := Trade.validate_eq_ok_iff.mp (h.valid trade htrade)
  have hvalid' := Trade.validate_eq_ok_iff.mp (h.valid later hlater)
  unfold tradeLe at hle
  unfold Trade.Precedes
  rcases hle with htime | ⟨htime, hsequence | ⟨hsequence, -⟩⟩
  · exact .inr (.inl ((lt_iff_instantOf_lt hvalid.eventTime hvalid'.eventTime).mp htime))
  · exact .inr (.inr ⟨by rw [htime], hsequence⟩)
  · exact .inl (List.inj_on_of_nodup_map h.sequences hlater htrade
      (Prod.ext hsame.symm hsequence.symm))

end Follon.MarketData
