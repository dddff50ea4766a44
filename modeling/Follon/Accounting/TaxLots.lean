import Follon.Domain.Order
import Follon.Foundation.Fallible
import Follon.Foundation.OrderedMap

/-!
# Tax lots

Open inventory by acquisition lot.  The long and the short half of the book
are two copies of one structure: a short lot's unit price is what was received
when it was opened, and it is closed by covering.
-/

namespace Follon.Accounting

open Foundation Domain

/-! ## Currencies -/

structure Currency where
  code : String
  valid : isCurrencyCode code = true
  deriving DecidableEq

def Currency.usd : Currency := ⟨"USD", by decide⟩

def Currency.new (code : String) : Result Currency :=
  if h : isCurrencyCode code = true then
    .ok ⟨code, h⟩
  else
    .error ⟨"currency must be a three-letter uppercase code"⟩

theorem Currency.ext {a b : Currency} (h : a.code = b.code) : a = b := by
  cases a
  cases b
  simp_all

instance : Ord Currency := ⟨compareOn Currency.code⟩

instance : Std.TransOrd Currency :=
  inferInstanceAs (Std.TransCmp (compareOn Currency.code))

instance : Std.LawfulEqOrd Currency where
  eq_of_compare := fun {a b} h => by
    apply Currency.ext
    have hcode : compare a.code b.code = .eq := h
    exact Std.LawfulEqCmp.compare_eq_iff_eq.mp hcode

/-! ## Lots -/

/-- One open lot; its unit price is the all-in cost of a long lot and the net
proceeds of a short one. -/
structure TaxLot where
  (lotId instrumentId : String)
  currency : Currency
  openedAt : String
  (remainingQuantity unitPrice : Decimal)
  deriving DecidableEq

abbrev ShortTaxLot : Type :=
  TaxLot

def lotLe (a b : TaxLot) : Prop :=
  a.openedAt < b.openedAt ∨ (a.openedAt = b.openedAt ∧ a.lotId ≤ b.lotId)

instance : DecidableRel lotLe :=
  fun a b => inferInstanceAs (Decidable
    (a.openedAt < b.openedAt ∨ (a.openedAt = b.openedAt ∧ a.lotId ≤ b.lotId)))

def sortLots (lots : List TaxLot) : List TaxLot := lots.insertionSort lotLe

inductive TaxLotSelection where
  | fifo
  | lifo
  | highestCost
  deriving DecidableEq, Repr

def costLe (lots : List TaxLot) (left right : Nat) : Bool :=
  match lots[left]?, lots[right]? with
  | some a, some b =>
    b.unitPrice < a.unitPrice ∨ (a.unitPrice = b.unitPrice ∧ lotLe a b)
  | _, _ => true

def selectionOrder (lots : List TaxLot) : TaxLotSelection → List Nat
  | .fifo => List.range lots.length
  | .lifo => (List.range lots.length).reverse
  | .highestCost =>
    (List.range lots.length).insertionSort fun i j => costLe lots i j = true

def addQuantity (total : Decimal) (lot : TaxLot) : Result Decimal :=
  total.checkedAdd lot.remainingQuantity

def openQuantity (lots : List TaxLot) : Result Decimal :=
  lots.foldlM addQuantity Decimal.zero

/-! ## Closing -/

/-- What a closing loop carries: the projected lots, what is left to close,
the amount of the lots taken and the allocations. -/
structure LotTaking where
  projected : List TaxLot
  (remaining amount : Decimal)
  allocations : List (String × Decimal)
  deriving DecidableEq

def takeLot (taking : LotTaking) (index : Nat) : Result LotTaking :=
  match taking.projected[index]? with
  | none => pure taking
  | some lot =>
    if taking.remaining = Decimal.zero then
      pure taking
    else
      let selected := lot.remainingQuantity.min taking.remaining
      if selected = Decimal.zero then
        pure taking
      else do
        let value ← selected.checkedMul lot.unitPrice
        let amount ← taking.amount.checkedAdd value
        let kept ← lot.remainingQuantity.checkedSub selected
        let remaining ← taking.remaining.checkedSub selected
        pure
          { projected :=
              taking.projected.set index
                { lot with remainingQuantity := kept }
            remaining
            amount
            allocations := taking.allocations ++ [(lot.lotId, selected)] }

structure LotSide where
  lots : OrderedMap String (List TaxLot)
  (appliedLotIds appliedCloseIds : OrderedSet String)
  deriving DecidableEq

namespace LotSide

def empty : LotSide := ⟨∅, ∅, ∅⟩

def lotsOf (side : LotSide) (instrumentId : String) : List TaxLot :=
  side.lots[instrumentId]?.getD []

def push (side : LotSide) (lot : TaxLot) : LotSide :=
  { side with
    appliedLotIds := side.appliedLotIds.insert lot.lotId
    lots := side.lots.insert lot.instrumentId
      (sortLots (side.lotsOf lot.instrumentId ++ [lot])) }

def store (side : LotSide) (closeId instrumentId : String)
    (lots : List TaxLot) : LotSide :=
  { side with
    lots := side.lots.insert instrumentId lots
    appliedCloseIds := side.appliedCloseIds.insert closeId }

structure CloseTexts where
  (closeId instrumentId occurredAt economics missing currency exceeds : String)
  conserve : String

/-- The lots a closing takes, or `none` when its identity was applied. -/
def close (texts : CloseTexts) (side : LotSide)
    (closeId instrumentId : String) (currency : Currency)
    (quantity unitPrice fee : Decimal) (occurredAt : String)
    (selection : TaxLotSelection) : Result (Option LotTaking) := do
  validateCanonicalId texts.closeId closeId
  validateCanonicalId texts.instrumentId instrumentId
  validateUtcTimestamp texts.occurredAt occurredAt
  refuseIf (quantity ≤ Decimal.zero ∨ unitPrice ≤ Decimal.zero ∨
      fee < Decimal.zero) texts.economics
  if closeId ∈ side.appliedCloseIds then
    pure none
  else
    match side.lots[instrumentId]? with
    | none => .error ⟨texts.missing⟩
    | some existing => do
      refuseIf (existing.any (fun lot => lot.currency != currency) = true)
        texts.currency
      let available ← openQuantity existing
      refuseIf (available < quantity) texts.exceeds
      let taking ← (selectionOrder existing selection).foldlM takeLot
        ⟨existing, quantity, Decimal.zero, []⟩
      refuseIf (taking.remaining ≠ Decimal.zero) texts.conserve
      pure (some taking)

end LotSide

/-! ## Splits -/

structure LotSplit where
  (held total : Decimal)
  split : List TaxLot
  deriving DecidableEq

def splitLot (ratio : Decimal) (acc : LotSplit) (lot : TaxLot) : Result LotSplit := do
  let held ← acc.held.checkedAdd lot.remainingQuantity
  let quantity ← lot.remainingQuantity.checkedMul ratio
  let unitPrice ← lot.unitPrice.checkedDiv ratio
  refuseIf (unitPrice ≤ Decimal.zero)
    "split would round a lot's unit cost to nothing"
  let total ← acc.total.checkedAdd quantity
  pure ⟨held, total,
    acc.split ++ [{ lot with remainingQuantity := quantity, unitPrice }]⟩

def addToNewest (shortfall : Decimal) : List TaxLot → Result (List TaxLot)
  | [] => pure []
  | [newest] => do
    let quantity ← newest.remainingQuantity.checkedAdd shortfall
    pure [{ newest with remainingQuantity := quantity }]
  | lot :: lots => do
    let rest ← addToNewest shortfall lots
    pure (lot :: rest)

def retainOpen (lots : List TaxLot) : List TaxLot :=
  lots.filter fun lot => Decimal.zero < lot.remainingQuantity

def splitLots (lots : List TaxLot) (ratio : Decimal) : Result (List TaxLot) := do
  let acc ← lots.foldlM (splitLot ratio) ⟨Decimal.zero, Decimal.zero, []⟩
  let target ← acc.held.checkedMul ratio
  let shortfall ← target.checkedSub acc.total
  refuseIf (shortfall < Decimal.zero)
    "split scaled the lots to more than their position"
  let split ← addToNewest shortfall acc.split
  pure (retainOpen split)

def LotSide.applySplit (side : LotSide) (instrumentId : String)
    (ratio : Decimal) : Result LotSide :=
  match side.lots[instrumentId]? with
  | none => pure side
  | some lots => do
    let split ← splitLots lots ratio
    pure { side with
      lots :=
        if split.isEmpty then side.lots.erase instrumentId
        else side.lots.insert instrumentId split }

/-! ## The book -/

structure TaxLotBook where
  (long short : LotSide)
  realizedByCurrency : OrderedMap Currency Decimal
  deriving DecidableEq

structure LotClose where
  (closeId instrumentId : String)
  currency : Currency
  (quantity proceeds costBasis fee realizedPnl : Decimal)
  allocations : List (String × Decimal)
  deriving DecidableEq

namespace TaxLotBook

def empty : TaxLotBook := ⟨.empty, .empty, ∅⟩

abbrev BookM (α : Type) : Type :=
  Fallible TaxLotBook PaperError α

def lots (book : TaxLotBook) (instrumentId : String) : List TaxLot :=
  book.long.lotsOf instrumentId

def shortLots (book : TaxLotBook) (instrumentId : String) : List ShortTaxLot :=
  book.short.lotsOf instrumentId

def realized (book : TaxLotBook) (currency : Currency) : Decimal :=
  book.realizedByCurrency[currency]?.getD Decimal.zero

def acquire (lot : TaxLot) : BookM Bool := do
  let book ← Fallible.read
  lift (validateCanonicalId "tax lot_id" lot.lotId)
  lift (validateCanonicalId "tax lot instrument_id" lot.instrumentId)
  lift (validateUtcTimestamp "tax lot opened_at" lot.openedAt)
  lift (refuseIf (lot.remainingQuantity ≤ Decimal.zero ∨ lot.unitPrice ≤ Decimal.zero)
    "invalid tax lot economics")
  if lot.lotId ∈ book.long.appliedLotIds then
    pure false
  else do
    update fun book => { book with long := book.long.push lot }
    pure true

def openShort (lot : ShortTaxLot) : BookM Bool := do
  let book ← Fallible.read
  lift (validateCanonicalId "short tax lot_id" lot.lotId)
  lift
    (validateCanonicalId "short tax lot instrument_id" lot.instrumentId)
  lift (validateUtcTimestamp "short tax lot opened_at" lot.openedAt)
  lift (refuseIf (lot.remainingQuantity ≤ Decimal.zero) "invalid short tax lot economics")
  if lot.lotId ∈ book.short.appliedLotIds then
    pure false
  else do
    update fun book => { book with short := book.short.push lot }
    pure true

def realize (currency : Currency) (realizedPnl : Decimal) : BookM Unit := do
  let book ← Fallible.read
  let total ← lift ((book.realized currency).checkedAdd realizedPnl)
  update fun book =>
    { book with
      realizedByCurrency := book.realizedByCurrency.insert currency total }

def disposalTexts : LotSide.CloseTexts where
  closeId := "tax disposal_id"
  instrumentId := "tax disposal instrument_id"
  occurredAt := "tax disposal occurred_at"
  economics := "invalid tax disposal economics"
  missing := "no tax lots for disposal"
  currency := "tax lots for one instrument must use the disposal currency"
  exceeds := "tax disposal exceeds available long lots"
  conserve := "tax lot selection failed to conserve quantity"

def dispose (disposalId instrumentId : String) (currency : Currency)
    (quantity unitProceeds fee : Decimal) (occurredAt : String)
    (selection : TaxLotSelection) : BookM (Option LotClose) := do
  let book ← Fallible.read
  let taken ← lift (book.long.close disposalTexts disposalId
    instrumentId currency quantity unitProceeds fee occurredAt selection)
  match taken with
  | none => pure none
  | some taking => do
    let grossProceeds ← lift (quantity.checkedMul unitProceeds)
    let gain ← lift (grossProceeds.checkedSub taking.amount)
    let realizedPnl ← lift (gain.checkedSub fee)
    update fun book =>
      { book with
        long := book.long.store disposalId instrumentId
          (retainOpen taking.projected) }
    realize currency realizedPnl
    pure (some
      { closeId := disposalId, instrumentId, currency, quantity
        proceeds := grossProceeds, costBasis := taking.amount, fee
        realizedPnl, allocations := taking.allocations })

def coverTexts : LotSide.CloseTexts where
  closeId := "short cover_id"
  instrumentId := "short cover instrument_id"
  occurredAt := "short cover occurred_at"
  economics := "invalid short cover economics"
  missing := "no short tax lots for cover"
  currency := "short tax lots for one instrument must use the cover currency"
  exceeds := "short cover exceeds available short lots"
  conserve := "short lot selection failed to conserve quantity"

def cover (coverId instrumentId : String) (currency : Currency)
    (quantity unitCost fee : Decimal) (occurredAt : String)
    (selection : TaxLotSelection) : BookM (Option LotClose) := do
  let book ← Fallible.read
  let taken ← lift (book.short.close coverTexts coverId
    instrumentId currency quantity unitCost fee occurredAt selection)
  match taken with
  | none => pure none
  | some taking => do
    let costBasis ← lift (quantity.checkedMul unitCost)
    let gain ← lift (taking.amount.checkedSub costBasis)
    let realizedPnl ← lift (gain.checkedSub fee)
    update fun book =>
      { book with
        short := book.short.store coverId instrumentId
          (retainOpen taking.projected) }
    realize currency realizedPnl
    pure (some
      { closeId := coverId, instrumentId, currency, quantity
        proceeds := taking.amount, costBasis, fee
        realizedPnl, allocations := taking.allocations })

def applySplit (book : TaxLotBook) (instrumentId : String) (ratio : Decimal) :
    Result TaxLotBook := do
  validateCanonicalId "tax lot split instrument_id" instrumentId
  refuseIf (ratio ≤ Decimal.zero) "split ratio must be positive"
  let long ← book.long.applySplit instrumentId ratio
  let short ← book.short.applySplit instrumentId ratio
  pure { book with long, short }

/-! ## Recovery -/

abbrev TaxLotBookSnapshot : Type :=
  TaxLotBook

def snapshot (book : TaxLotBook) : TaxLotBookSnapshot := book

structure RecoverTexts where
  (emptyBucket order lotId bucket openedAt economics identity : String)

def longRecoverTexts : RecoverTexts where
  emptyBucket :=
    "persisted tax lot book cannot retain an empty instrument bucket"
  order := "persisted tax lots are not in canonical acquisition order"
  lotId := "tax lot_id"
  bucket := "persisted tax lot instrument_id does not match its bucket"
  openedAt := "tax lot opened_at"
  economics := "persisted tax lot economics are invalid"
  identity :=
    "persisted open tax lot is missing from its applied lot identity set"

def shortRecoverTexts : RecoverTexts where
  emptyBucket :=
    "persisted tax lot book cannot retain an empty short instrument bucket"
  order := "persisted short tax lots are not in canonical acquisition order"
  lotId := "short tax lot_id"
  bucket := "persisted short tax lot instrument_id does not match its bucket"
  openedAt := "short tax lot opened_at"
  economics := "persisted short tax lot economics are invalid"
  identity :=
    "persisted open short tax lot is missing from its applied lot identity set"

def recoverLot (texts : RecoverTexts) (positivePrice : Bool) (side : LotSide)
    (instrumentId : String) (lot : TaxLot) : Result Unit := do
  validateCanonicalId texts.lotId lot.lotId
  refuseIf (lot.instrumentId ≠ instrumentId) texts.bucket
  validateUtcTimestamp texts.openedAt lot.openedAt
  refuseIf (lot.remainingQuantity ≤ Decimal.zero ∨
      positivePrice = true ∧ lot.unitPrice ≤ Decimal.zero) texts.economics
  refuseIf (lot.lotId ∉ side.appliedLotIds) texts.identity

def recoverBucket (texts : RecoverTexts) (positivePrice : Bool)
    (side : LotSide) (bucket : String × List TaxLot) : Result Unit := do
  refuseIf (bucket.2 = []) texts.emptyBucket
  refuseIf (sortLots bucket.2 ≠ bucket.2) texts.order
  checkAll (recoverLot texts positivePrice side bucket.1) bucket.2

def recoverSide (texts : RecoverTexts) (positivePrice : Bool)
    (side : LotSide) : Result Unit :=
  checkAll (recoverBucket texts positivePrice side) side.lots.toList

def recover (snapshot : TaxLotBookSnapshot) : Result TaxLotBook := do
  recoverSide longRecoverTexts true snapshot.long
  recoverSide shortRecoverTexts false snapshot.short
  pure snapshot

end TaxLotBook

end Follon.Accounting
