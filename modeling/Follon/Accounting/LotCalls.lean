import Follon.Accounting.LotsFollow
import Follon.Foundation.Transition

/-!
# Calls on a tax lot book

The operations of a book as calls, and what a call that is refused leaves
behind.  A disposal and a cover store what they took before they add up the
realized total.
-/

namespace Follon.Accounting

open Foundation Domain

/-! ## Calls -/

structure Closing where
  (closeId instrumentId : String)
  currency : Currency
  (quantity unitPrice fee : Decimal)
  occurredAt : String
  selection : TaxLotSelection

namespace Closing

def dispose (closing : Closing) : TaxLotBook.BookM (Option LotClose) :=
  TaxLotBook.dispose closing.closeId closing.instrumentId closing.currency
    closing.quantity closing.unitPrice closing.fee closing.occurredAt
    closing.selection

def cover (closing : Closing) : TaxLotBook.BookM (Option LotClose) :=
  TaxLotBook.cover closing.closeId closing.instrumentId closing.currency
    closing.quantity closing.unitPrice closing.fee closing.occurredAt
    closing.selection

def close (texts : LotSide.CloseTexts) (side : LotSide) (closing : Closing) :
    Result (Option LotTaking) :=
  side.close texts closing.closeId closing.instrumentId closing.currency
    closing.quantity closing.unitPrice closing.fee closing.occurredAt
    closing.selection

def disposalProfit (closing : Closing) (book : TaxLotBook) : Result Decimal :=
  book.disposalProfit closing.closeId closing.instrumentId closing.currency
    closing.quantity closing.unitPrice closing.fee closing.occurredAt
    closing.selection

def coverProfit (closing : Closing) (book : TaxLotBook) : Result Decimal :=
  book.coverProfit closing.closeId closing.instrumentId closing.currency
    closing.quantity closing.unitPrice closing.fee closing.occurredAt
    closing.selection

end Closing

inductive LotCall where
  | acquire (lot : TaxLot)
  | openShort (lot : ShortTaxLot)
  | dispose (closing : Closing)
  | cover (closing : Closing)
  | applySplit (instrumentId : String) (ratio : Decimal)

namespace LotCall

def perform (book : TaxLotBook) : LotCall → Result Unit × TaxLotBook
  | .acquire lot => (TaxLotBook.acquire lot).discard.run book
  | .openShort lot => (TaxLotBook.openShort lot).discard.run book
  | .dispose closing => closing.dispose.discard.run book
  | .cover closing => closing.cover.discard.run book
  | .applySplit instrumentId ratio =>
    match book.applySplit instrumentId ratio with
    | .ok split => (.ok (), split)
    | .error e => (.error e, book)

def ProfitFits (book : TaxLotBook) : LotCall → Prop
  | .dispose closing => ∀ profit, closing.disposalProfit book = .ok profit →
      book.RealizedFits closing.currency profit
  | .cover closing => ∀ profit, closing.coverProfit book = .ok profit →
      book.RealizedFits closing.currency profit
  | _ => True

end LotCall

/-! ## What a closing stores -/

theorem LotSide.close_new {texts : CloseTexts} {side : LotSide}
    {closeId instrumentId occurredAt : String} {currency : Currency}
    {quantity unitPrice fee : Decimal} {selection : TaxLotSelection} {taking : LotTaking}
    (h : side.close texts closeId instrumentId currency quantity unitPrice fee
      occurredAt selection = .ok (some taking)) : closeId ∉ side.appliedCloseIds := by
  simp only [close, bind_eq_ok, refuseIf_eq_ok, exists_const] at h
  obtain ⟨_, -, _, -, _, -, -, h⟩ := h
  split at h
  · simp [pure, Except.pure] at h
  · assumption

theorem LotSide.store_ne {side : LotSide} {closeId : String}
    (h : closeId ∉ side.appliedCloseIds) (instrumentId : String)
    (lots : List TaxLot) : side.store closeId instrumentId lots ≠ side := by
  intro heq
  apply h
  rw [← heq, LotSide.store]
  exact mem_insert_self

namespace TaxLotBook

variable {book : TaxLotBook} {closing : Closing} {profit : Decimal}

theorem realizedFits_zero (book : TaxLotBook) (currency : Currency) :
    book.RealizedFits currency Decimal.zero := by
  refine ⟨book.realized currency, ?_⟩
  rw [checkedAdd_eq_ok, scaled_zero, Int.add_zero]

theorem realize_refused {currency : Currency} (h : ¬book.RealizedFits currency profit) :
    ∃ e, (realize currency profit).run book = (.error e, book) := by
  cases hsum : (book.realized currency).checkedAdd profit with
  | ok total => exact absurd ⟨total, hsum⟩ h
  | error e => exact ⟨e, by simp [realize, hsum]⟩

theorem dispose_leaves (hprofit : closing.disposalProfit book = .ok profit)
    (hfits : ¬book.RealizedFits closing.currency profit) :
    ∃ e book', closing.dispose.run book = (.error e, book') ∧
      book' ≠ book := by
  unfold Closing.disposalProfit disposalProfit at hprofit
  rw [bind_eq_ok] at hprofit
  obtain ⟨taken, htaken, hprofit⟩ := hprofit
  cases taken with
  | none =>
    obtain rfl := Except.ok.inj hprofit
    exact absurd (realizedFits_zero book closing.currency) hfits
  | some taking =>
    simp only [bind_eq_ok] at hprofit
    obtain ⟨gross, hgross, gain, hgain, hprofit⟩ := hprofit
    have hne := LotSide.store_ne (LotSide.close_new htaken)
      closing.instrumentId (retainOpen taking.projected)
    let stored : TaxLotBook :=
      { book with
        long := book.long.store closing.closeId closing.instrumentId
          (retainOpen taking.projected) }
    obtain ⟨e, hrefused⟩ := @realize_refused stored _ closing.currency hfits
    have hchanged : stored ≠ book :=
      fun heq => hne (congrArg TaxLotBook.long heq)
    refine ⟨e, stored, ?_, hchanged⟩
    unfold Closing.dispose dispose
    rw [run_read_bind, htaken, run_lift_bind_ok]
    simp only [hgross, hgain, hprofit, run_lift_bind_ok, run_update_bind]
    exact run_bind_error hrefused _

theorem cover_leaves (hprofit : closing.coverProfit book = .ok profit)
    (hfits : ¬book.RealizedFits closing.currency profit) :
    ∃ e book', closing.cover.run book = (.error e, book') ∧
      book' ≠ book := by
  unfold Closing.coverProfit coverProfit at hprofit
  rw [bind_eq_ok] at hprofit
  obtain ⟨taken, htaken, hprofit⟩ := hprofit
  cases taken with
  | none =>
    obtain rfl := Except.ok.inj hprofit
    exact absurd (realizedFits_zero book closing.currency) hfits
  | some taking =>
    simp only [bind_eq_ok] at hprofit
    obtain ⟨cost, hcost, gain, hgain, hprofit⟩ := hprofit
    have hne := LotSide.store_ne (LotSide.close_new htaken)
      closing.instrumentId (retainOpen taking.projected)
    let stored : TaxLotBook :=
      { book with
        short := book.short.store closing.closeId closing.instrumentId
          (retainOpen taking.projected) }
    obtain ⟨e, hrefused⟩ := @realize_refused stored _ closing.currency hfits
    have hchanged : stored ≠ book :=
      fun heq => hne (congrArg TaxLotBook.short heq)
    refine ⟨e, stored, ?_, hchanged⟩
    unfold Closing.cover cover
    rw [run_read_bind, htaken, run_lift_bind_ok]
    simp only [hcost, hgain, hprofit, run_lift_bind_ok, run_update_bind]
    exact run_bind_error hrefused _

end TaxLotBook

/-! ## Refused calls -/

namespace LotCall

variable {book : TaxLotBook} {closing : Closing}

/-- A closing keeps the book it is refused on exactly when no profit it could
book overflows. -/
theorem keeps_iff {x : TaxLotBook.BookM (Option LotClose)}
    {p : Result Decimal} {R : Decimal → Prop}
    (hleaves : ∀ amount, p = .ok amount → ¬R amount →
      ∃ e book', x.run book = (.error e, book') ∧ book' ≠ book)
    (herror : ∀ e book', x.run book = (.error e, book') →
      (∀ amount, p = .ok amount → R amount) → book' = book) :
    (∀ e book', x.discard.run book = (.error e, book') → book' = book) ↔
      ∀ amount, p = .ok amount → R amount := by
  constructor
  · intro hkeeps amount hprofit
    by_contra hfits
    obtain ⟨e, book', hrun, hne⟩ := hleaves amount hprofit hfits
    exact hne (hkeeps e book' (run_discard_eq_error.mpr hrun))
  · intro hfits e book' h
    exact herror e book' (run_discard_eq_error.mp h) hfits

theorem keeps_dispose_iff :
    (∀ e book', (LotCall.dispose closing).perform book = (.error e, book') →
      book' = book) ↔ (LotCall.dispose closing).ProfitFits book :=
  keeps_iff (x := closing.dispose) (p := closing.disposalProfit book)
    (R := book.RealizedFits closing.currency)
    (fun _ => TaxLotBook.dispose_leaves)
    (fun _ _ => TaxLotBook.dispose_error)

theorem keeps_cover_iff :
    (∀ e book', (LotCall.cover closing).perform book = (.error e, book') →
      book' = book) ↔ (LotCall.cover closing).ProfitFits book :=
  keeps_iff (x := closing.cover) (p := closing.coverProfit book)
    (R := book.RealizedFits closing.currency)
    (fun _ => TaxLotBook.cover_leaves)
    (fun _ _ => TaxLotBook.cover_error)

end LotCall

/-- A call that is refused leaves the book as it was, exactly when it is not
the realized total that overflows. -/
theorem refused_call_keeps_book_iff (book : TaxLotBook) (call : LotCall) :
    (∀ e book', call.perform book = (.error e, book') → book' = book) ↔
      call.ProfitFits book := by
  cases call with
  | acquire lot =>
    refine iff_of_true ?_ trivial
    intro e book' h
    exact TaxLotBook.acquire_error (run_discard_eq_error.mp h)
  | openShort lot =>
    refine iff_of_true ?_ trivial
    intro e book' h
    exact TaxLotBook.openShort_error (run_discard_eq_error.mp h)
  | applySplit instrumentId ratio =>
    refine iff_of_true ?_ trivial
    intro e book' h
    simp only [LotCall.perform] at h
    split at h
    · simp at h
    · exact (congrArg Prod.snd h).symm
  | dispose closing => exact LotCall.keeps_dispose_iff
  | cover closing => exact LotCall.keeps_cover_iff

namespace LotCallRun

def usd : Currency := .usd

def lot : TaxLot where
  lotId := "lot-1"
  instrumentId := "aapl"
  currency := usd
  openedAt := "2026-01-02T14:31:00Z"
  remainingQuantity := .one
  unitPrice := .one

def full : TaxLotBook where
  long := LotSide.empty.push lot
  short := .empty
  realizedByCurrency :=
    (∅ : OrderedMap Currency Decimal).insert usd
      .greatest

def sale : Closing where
  closeId := "sale-1"
  instrumentId := "aapl"
  currency := usd
  quantity := .one
  unitPrice := .two
  fee := Decimal.zero
  occurredAt := "2026-01-03T14:31:00Z"
  selection := .fifo

/-- A recovered book whose realized total is full loses the lot of a sale that
is refused. -/
theorem refused_sale_takes_lot : TaxLotBook.recover full.snapshot = .ok full ∧
      ¬∀ e book', (LotCall.dispose sale).perform full = (.error e, book') →
        book' = full := by
  constructor
  · have hok : (TaxLotBook.recover full.snapshot).toOption = some full := by
      decide
    cases hrecover : TaxLotBook.recover full.snapshot with
    | ok book =>
      rw [hrecover] at hok
      exact congrArg Except.ok (Option.some.inj hok)
    | error e =>
      rw [hrecover] at hok
      contradiction
  · intro hkeeps
    have hlost : ((LotCall.dispose sale).perform full).2.lots "aapl" = [] := by
      decide
    have hheld : full.lots "aapl" = [lot] := by
      decide
    have herror : ((LotCall.dispose sale).perform full).1.toOption.isSome
        = false := by
      decide
    cases hrun : (LotCall.dispose sale).perform full with
    | mk result book' =>
      rw [hrun] at hlost herror
      cases result with
      | ok u => contradiction
      | error e =>
        rw [hkeeps e book' hrun, hheld] at hlost
        contradiction

end LotCallRun

end Follon.Accounting
