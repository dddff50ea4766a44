import Follon.Backtest.LedgerEffects
import Follon.Foundation.MapTotals
import Mathlib.Tactic.LinearCombination

/-!
# Money and shares of a backtest

The entries of a ledger account for its cash and its units.  Where no product
and no quotient is cut off, what the ledger is worth beyond its opening cash is
its profit and its dividends.
-/

namespace Follon.Backtest

open Foundation Domain Accounting

/-! ## Entries -/

def cashMoved (entries : List AccountingEntry) : Int :=
  (entries.map fun entry => entry.cashDelta.scaled).sum

def unitsMoved (instrumentId : String) (entries : List AccountingEntry) : Int :=
  ((entries.filter (·.instrumentId == instrumentId)).map
    fun entry => entry.quantityDelta.scaled).sum

def dividendsPaid (entries : List AccountingEntry) : Int :=
  cashMoved (entries.filter (·.entryType == "CASH_DIVIDEND"))

def LedgerOperation.fee : LedgerOperation → Int
  | .fill booked => booked.fee.scaled
  | .corporateAction _ => 0

def feesCharged (operations : List LedgerOperation) : Int :=
  (operations.map LedgerOperation.fee).sum

section Entries

variable (entries : List AccountingEntry) (entry : AccountingEntry)

@[simp] theorem cashMoved_snoc : cashMoved (entries ++ [entry])
      = cashMoved entries + entry.cashDelta.scaled := by
  simp [cashMoved]

@[simp] theorem unitsMoved_snoc (instrumentId : String) :
    unitsMoved instrumentId (entries ++ [entry]) = unitsMoved instrumentId entries
        + if entry.instrumentId = instrumentId then entry.quantityDelta.scaled
          else 0 := by
  by_cases hsame : entry.instrumentId = instrumentId
  · simp [unitsMoved, hsame]
  · simp [unitsMoved, hsame]

@[simp] theorem dividendsPaid_snoc : dividendsPaid (entries ++ [entry])
      = dividendsPaid entries
        + if entry.entryType = "CASH_DIVIDEND" then entry.cashDelta.scaled
          else 0 := by
  by_cases hsame : entry.entryType = "CASH_DIVIDEND"
  · simp [dividendsPaid, cashMoved, hsame]
  · simp [dividendsPaid, cashMoved, hsame]

theorem feesCharged_snoc (operations : List LedgerOperation)
    (operation : LedgerOperation) : feesCharged (operations ++ [operation])
      = feesCharged operations + operation.fee := by
  simp [feesCharged]

end Entries

structure Balanced (initialCash : Decimal) (operations : List LedgerOperation)
    (ledger : BacktestLedger) : Prop where
  cash : ledger.cash.scaled = initialCash.scaled + cashMoved ledger.entries
  units : ∀ instrumentId, (ledger.positionOf instrumentId).quantity.scaled
    = unitsMoved instrumentId ledger.entries
  fees : ledger.fees.scaled = feesCharged operations
  dividends : ledger.dividends.scaled = dividendsPaid ledger.entries

namespace BacktestLedger

variable {ledger : BacktestLedger} {instrumentId : String}
  {position : LedgerPosition}

theorem positionOf_insert {ledger' : BacktestLedger}
    (h : ledger'.positions = ledger.positions.insert instrumentId position)
    (other : String) : ledger'.positionOf other
      = if instrumentId = other then position else ledger.positionOf other := by
  simp only [positionOf, h, getElem?_insert, Std.LawfulEqCmp.compare_eq_iff_eq]
  split <;> rfl

theorem positionOf_of_find (h : ledger.positions[instrumentId]? = some position) :
    ledger.positionOf instrumentId = position := by
  rw [positionOf, h, getD_some]

end BacktestLedger

/-! ## Balances -/

theorem Booked.moved {fill : Fill} {position position' : LedgerPosition}
    {cash cash' : Decimal} {deltas : Deltas}
    (h : Booked fill position cash position' cash' deltas) :
    position'.quantity.scaled = position.quantity.scaled + deltas.1.scaled ∧
      cash'.scaled = cash.scaled + deltas.2.scaled := by
  cases h with
  | bought _ _ _ _ hquantity _ _ hcash hdelta =>
    rw [checkedAdd_eq_ok] at hquantity
    rw [checkedSub_eq_ok] at hcash hdelta
    rw [scaled_zero] at hdelta
    refine ⟨hquantity, ?_⟩
    simp only
    omega
  | sold _ _ _ _ _ _ _ hquantity _ hcash hdelta =>
    rw [checkedSub_eq_ok] at hquantity hdelta
    rw [checkedAdd_eq_ok] at hcash
    rw [scaled_zero] at hdelta
    refine ⟨?_, hcash⟩
    simp only
    omega

namespace Balanced

variable {initialCash : Decimal} {operations : List LedgerOperation}
  {ledger ledger' : BacktestLedger}

theorem posted {operation : LedgerOperation} {entry : AccountingEntry}
    (h : Balanced initialCash operations ledger)
    (hentries : ledger'.entries = ledger.entries ++ [entry]) (hcash : ledger'.cash.scaled
      = ledger.cash.scaled + entry.cashDelta.scaled) (hunits : ∀ instrumentId,
      (ledger'.positionOf instrumentId).quantity.scaled
        = (ledger.positionOf instrumentId).quantity.scaled
          + if entry.instrumentId = instrumentId then
              entry.quantityDelta.scaled
            else 0) (hfees : ledger'.fees.scaled = ledger.fees.scaled + operation.fee)
    (hdividends : ledger'.dividends.scaled = ledger.dividends.scaled
        + if entry.entryType = "CASH_DIVIDEND" then entry.cashDelta.scaled
          else 0) : Balanced initialCash (operations ++ [operation]) ledger' where
  cash := by
    rw [hentries, cashMoved_snoc, hcash, h.cash, Int.add_assoc]
  units := by
    intro instrumentId
    rw [hentries, unitsMoved_snoc, hunits, h.units]
  fees := by
    rw [feesCharged_snoc, hfees, h.fees]
  dividends := by
    rw [hentries, dividendsPaid_snoc, hdividends, h.dividends]

theorem filled {fill : Fill} {position : LedgerPosition} {deltas : Deltas}
    (h : Balanced initialCash operations ledger)
    (hfill : ledger.Filled fill position deltas ledger') :
    Balanced initialCash (operations ++ [.fill fill]) ledger' := by
  obtain ⟨hunits, hcash⟩ := hfill.booked.moved
  refine h.posted hfill.entries hcash (fun instrumentId => ?_)
    (checkedAdd_eq_ok.mp hfill.fees) ?_
  · rw [BacktestLedger.positionOf_insert hfill.positions]
    by_cases hsame : fill.instrumentId = instrumentId
    · simp [BacktestLedger.fillEntry, ← hsame, hunits]
    · simp [BacktestLedger.fillEntry, hsame]
  · rw [hfill.dividends]
    exact (Int.add_zero _).symm

theorem acted {action : CorporateAction} (h : Balanced initialCash operations ledger)
    (haction : ledger.Acted action ledger') :
    Balanced initialCash (operations ++ [.corporateAction action]) ledger' := by
  cases haction with
  | noted _ hledger =>
    have hfees : feesCharged (operations ++ [.corporateAction action])
        = ledger.fees.scaled := by
      rw [feesCharged_snoc, ← h.fees]
      exact Int.add_zero _
    rw [hledger]
    exact ⟨h.cash, h.units, hfees.symm, h.dividends⟩
  | @split _ instrumentId _ _ position position' _ deltas haction hfind hsplit
      hledger =>
      have hmoved := checkedSub_eq_ok.mp hsplit.moved
      have hposition := BacktestLedger.positionOf_of_find hfind
      subst haction
      subst hledger
      refine h.posted rfl ?_ (fun other => ?_) (Int.add_zero _).symm
        (Int.add_zero _).symm
      · simp only [BacktestLedger.actionEntry, hsplit.free, scaled_zero]
        exact (Int.add_zero _).symm
      · have hinsert : (BacktestLedger.setPosition instrumentId position'
            ledger).positionOf other = _ :=
          BacktestLedger.positionOf_insert rfl other
        change ((BacktestLedger.setPosition instrumentId position'
          ledger).positionOf other).quantity.scaled = _
        rw [hinsert]
        by_cases hsame : instrumentId = other
        · simp [BacktestLedger.actionEntry, CorporateAction.instrumentId,
            ← hsame, hposition]
          omega
        · simp [BacktestLedger.actionEntry, CorporateAction.instrumentId, hsame]
  | paid haction hfind hdelta hcash hdividends hledger =>
    rw [checkedAdd_eq_ok] at hcash hdividends
    subst haction
    subst hledger
    refine h.posted rfl hcash (fun other => ?_) (Int.add_zero _).symm
      hdividends
    change (ledger.positionOf other).quantity.scaled
      = (ledger.positionOf other).quantity.scaled + ite _ _ _
    split
    · exact (Int.add_zero _).symm
    · exact (Int.add_zero _).symm

theorem bookings {allowed : BacktestLedger → LedgerOperation → Prop}
    {start : BacktestLedger} (hstart : Balanced initialCash [] start)
    (h : Bookings allowed start operations ledger) :
    Balanced initialCash operations ledger := by
  induction h with
  | none => exact hstart
  | @snoc operations ledger ledger' operation _ _ hrun ih =>
    cases operation with
    | fill booked =>
      obtain ⟨position, deltas, hfill⟩ :=
        BacktestLedger.applyFill_eq_ok hrun
      exact ih.filled hfill
    | corporateAction action =>
      exact ih.acted (BacktestLedger.applyCorporateAction_eq_ok hrun).2

theorem new {currency : String}
    (h : BacktestLedger.new currency initialCash = .ok ledger) :
    Balanced initialCash [] ledger := by
  simp only [BacktestLedger.new, bind_eq_ok, refuseIf_eq_ok, exists_const,
    pure_eq_ok] at h
  obtain ⟨-, rfl⟩ := h
  refine ⟨(Int.add_zero _).symm, fun instrumentId => ?_, rfl, rfl⟩
  simp [BacktestLedger.positionOf, LedgerPosition.flat, unitsMoved]

end Balanced

/-! ## Exact bookings -/

def LedgerOperation.Exact (ledger : BacktestLedger) : LedgerOperation → Prop
  | .fill booked =>
    let position := ledger.positionOf booked.instrumentId
    booked.price.ExactMul booked.quantity ∧
      match booked.side with
      | .buy => position.averageCost.ExactMul position.quantity ∧
          ∀ gross required prior quantity cost,
            booked.price.checkedMul booked.quantity = .ok gross →
            gross.checkedAdd booked.fee = .ok required →
            position.averageCost.checkedMul position.quantity = .ok prior →
            position.quantity.checkedAdd booked.quantity = .ok quantity →
            prior.checkedAdd required = .ok cost → cost.ExactDiv quantity
      | .sell => ∀ gain,
          booked.price.checkedSub position.averageCost = .ok gain →
            gain.ExactMul booked.quantity
  | .corporateAction (.split _ instrumentId _ ratio) =>
    (ledger.positionOf instrumentId).quantity.ExactMul ratio ∧
      (ledger.positionOf instrumentId).averageCost.ExactDiv ratio
  | .corporateAction (.cashDividend ..) => True

def LedgerPosition.cost (position : LedgerPosition) : Int :=
  position.averageCost.scaled * position.quantity.scaled

def Funded (initialCash : Decimal) (ledger : BacktestLedger) : Prop :=
  ledger.cash.scaled * Decimal.scale + ledger.positions.total LedgerPosition.cost
    = (initialCash.scaled + ledger.dividends.scaled
        + ledger.positions.total (·.realizedPnl.scaled)) * Decimal.scale

variable {position' : LedgerPosition} {deltas : Deltas}

/-- A fill without rounding moves cash into cost, or cost into cash and
profit. -/
theorem Booked.cost {fill : Fill} {ledger : BacktestLedger} {cash' : Decimal}
    (h : Booked fill (ledger.positionOf fill.instrumentId) ledger.cash
      position' cash' deltas) (hexact : (LedgerOperation.fill fill).Exact ledger) :
    let position := ledger.positionOf fill.instrumentId
    cash'.scaled * Decimal.scale + position'.cost
      = ledger.cash.scaled * Decimal.scale + position.cost
        + (position'.realizedPnl.scaled - position.realizedPnl.scaled)
          * Decimal.scale := by
  dsimp only
  obtain ⟨hgrossExact, hexact⟩ := hexact
  cases h with
  | bought hside hgross hrequired hprior hquantity hcost haverage hcash _ =>
    simp only [hside] at hexact
    obtain ⟨hpriorExact, hcostExact⟩ := hexact
    have hdiv := (hcostExact _ _ _ _ _ hgross hrequired hprior hquantity
      hcost).scaled haverage
    have hmul := hpriorExact.scaled hprior
    rw [checkedAdd_eq_ok] at hcost
    rw [checkedSub_eq_ok] at hcash
    simp only [LedgerPosition.cost, hdiv, hcost, hcash]
    linear_combination hmul
  | sold hside hgross hheld hgain hrealized hnet htotal hquantity hproceeds
      hcash _ =>
      simp only [hside] at hexact
      have hrealizedMul := (hexact _ hgain).scaled hrealized
      have hgrossMul := hgrossExact.scaled hgross
      rw [checkedSub_eq_ok] at hgain hnet hquantity hproceeds
      rw [checkedAdd_eq_ok] at htotal hcash
      have hkept : ∀ left : Decimal, (if left = Decimal.zero then Decimal.zero
          else (ledger.positionOf fill.instrumentId).averageCost).scaled
            * left.scaled
          = (ledger.positionOf fill.instrumentId).averageCost.scaled
            * left.scaled := by
        intro left
        split
        · next hflat => simp [hflat]
        · rfl
      simp only [LedgerPosition.cost, hkept]
      rw [hgain] at hrealizedMul
      simp only [hquantity, htotal, hcash, hnet, hproceeds]
      linear_combination hgrossMul - hrealizedMul

theorem Split.cost {instrumentId : String} {ratio : Decimal}
    {position : LedgerPosition} {book book' : TaxLotBook}
    (h : Split instrumentId ratio position position' book book' deltas)
    (hquantity : position.quantity.ExactMul ratio)
    (haverage : position.averageCost.ExactDiv ratio) :
    position'.cost = position.cost := by
  have hmul := hquantity.scaled h.quantity
  have hdiv := haverage.scaled h.averageCost
  have hratio := (scaled_of_checkedDiv h.averageCost).1
  have hne : Decimal.scale * ratio.scaled ≠ 0 := Int.mul_ne_zero (by decide) hratio
  refine Int.eq_of_mul_eq_mul_right hne ?_
  simp only [LedgerPosition.cost]
  linear_combination (position'.averageCost.scaled * ratio.scaled) * hmul
    + (position.quantity.scaled * ratio.scaled) * hdiv

namespace BacktestLedger

theorem total_positions {ledger ledger' : BacktestLedger}
    {instrumentId : String} {position : LedgerPosition}
    {f : LedgerPosition → Int} (hflat : f (.flat instrumentId) = 0)
    (h : ledger'.positions = ledger.positions.insert instrumentId position) :
    ledger'.positions.total f
      = ledger.positions.total f - f (ledger.positionOf instrumentId)
        + f position := by
  rw [h, OrderedMap.total_insert, positionOf]
  cases ledger.positions[instrumentId]? with
  | none => simp [hflat]
  | some held => simp

end BacktestLedger

namespace Funded

variable {initialCash : Decimal} {ledger ledger' : BacktestLedger}

theorem filled {fill : Fill} {position : LedgerPosition} {deltas : Deltas}
    (h : Funded initialCash ledger) (hfill : ledger.Filled fill position deltas ledger')
    (hexact : (LedgerOperation.fill fill).Exact ledger) : Funded initialCash ledger' := by
  have hcost := hfill.booked.cost hexact
  have hcosts : ledger'.positions.total LedgerPosition.cost = _ :=
    BacktestLedger.total_positions (Int.zero_mul _) hfill.positions
  have hrealized : ledger'.positions.total (·.realizedPnl.scaled) = _ :=
    BacktestLedger.total_positions rfl hfill.positions
  unfold Funded at h ⊢
  rw [hcosts, hrealized, hfill.dividends]
  linear_combination h + hcost

theorem acted {action : CorporateAction} (h : Funded initialCash ledger)
    (haction : ledger.Acted action ledger')
    (hexact : (LedgerOperation.corporateAction action).Exact ledger) :
    Funded initialCash ledger' := by
  cases haction with
  | noted _ hledger =>
    rw [hledger]
    exact h
  | @split _ instrumentId _ _ position position' book deltas haction hfind
      hsplit hledger =>
      subst haction
      obtain ⟨hquantity, haverage⟩ := hexact
      have hposition := BacktestLedger.positionOf_of_find hfind
      rw [hposition] at hquantity haverage
      have hcost := hsplit.cost hquantity haverage
      have hpositions : ledger'.positions
          = ledger.positions.insert instrumentId position' := by
        rw [hledger]
        rfl
      have hcosts : ledger'.positions.total LedgerPosition.cost = _ :=
        BacktestLedger.total_positions (Int.zero_mul _) hpositions
      have hrealized : ledger'.positions.total (·.realizedPnl.scaled) = _ :=
        BacktestLedger.total_positions rfl hpositions
      unfold Funded at h ⊢
      rw [hcosts, hrealized, hposition, hcost, hsplit.realizedPnl, hledger]
      change ledger.cash.scaled * Decimal.scale + _
        = (initialCash.scaled + ledger.dividends.scaled + _) * Decimal.scale
      linear_combination h
  | @paid _ _ _ _ _ cashDelta cash dividends haction _ _ hcash hdividends
      hledger =>
      rw [checkedAdd_eq_ok] at hcash hdividends
      unfold Funded at h ⊢
      rw [hledger]
      change cash.scaled * Decimal.scale + ledger.positions.total LedgerPosition.cost
        = (initialCash.scaled + dividends.scaled
            + ledger.positions.total (·.realizedPnl.scaled)) * Decimal.scale
      rw [hcash, hdividends]
      linear_combination h

theorem bookings {operations : List LedgerOperation} {start : BacktestLedger}
    (hstart : Funded initialCash start)
    (h : Bookings (fun ledger operation => operation.Exact ledger) start
      operations ledger) : Funded initialCash ledger := by
  induction h with
  | none => exact hstart
  | @snoc operations ledger ledger' operation _ hexact hrun ih =>
    cases operation with
    | fill booked =>
      obtain ⟨position, deltas, hfill⟩ :=
        BacktestLedger.applyFill_eq_ok hrun
      exact ih.filled hfill hexact
    | corporateAction action =>
      exact ih.acted (BacktestLedger.applyCorporateAction_eq_ok hrun).2
        hexact

theorem new {currency : String}
    (h : BacktestLedger.new currency initialCash = .ok ledger) :
    Funded initialCash ledger := by
  simp only [BacktestLedger.new, bind_eq_ok, refuseIf_eq_ok, exists_const,
    pure_eq_ok] at h
  obtain ⟨-, rfl⟩ := h
  simp [Funded]

end Funded

/-! ## Reports -/

def LedgerPosition.MarkedExactly (position : LedgerPosition) (mark : Decimal) : Prop :=
  mark.ExactMul position.quantity ∧
    ∀ gain, mark.checkedSub position.averageCost = .ok gain →
      gain.ExactMul position.quantity

namespace BacktestLedger

variable {marks : OrderedMap String Decimal}

theorem findMark_eq_ok {instrumentId : String} {mark : Decimal}
    (h : findMark marks instrumentId = .ok mark) : marks[instrumentId]? = some mark := by
  unfold findMark at h
  split at h
  · next found hfind => rw [hfind, Except.ok.inj h]
  · contradiction

variable {valuation valuation' : Valuation}

theorem addPosition_ok {position : LedgerPosition}
    (h : addPosition marks valuation position = .ok valuation')
    (hexact : ∀ mark, marks[position.instrumentId]? = some mark →
      position.MarkedExactly mark) : valuation'.realized.scaled
        = valuation.realized.scaled + position.realizedPnl.scaled ∧
      (valuation'.marketValue.scaled - valuation'.unrealized.scaled)
          * Decimal.scale
        = (valuation.marketValue.scaled - valuation.unrealized.scaled)
          * Decimal.scale + position.cost := by
  simp only [addPosition, bind_eq_ok, checkedAdd_eq_ok, pure_eq_ok] at h
  obtain ⟨mark, hmark, gain, hgain, opened, hopened, unrealized, hunrealized,
    realized, hrealized, value, hvalue, marketValue, hmarketValue, rfl⟩ := h
  obtain ⟨hvalueExact, hgainExact⟩ := hexact mark (findMark_eq_ok hmark)
  have hopenedMul := (hgainExact gain hgain).scaled hopened
  have hvalueMul := hvalueExact.scaled hvalue
  rw [checkedSub_eq_ok] at hgain
  rw [hgain] at hopenedMul
  refine ⟨hrealized, ?_⟩
  simp only [hunrealized, hmarketValue, LedgerPosition.cost]
  linear_combination hvalueMul - hopenedMul

theorem addPositions_ok {positions : List LedgerPosition}
    (h : positions.foldlM (addPosition marks) valuation = .ok valuation')
    (hexact : ∀ position ∈ positions, ∀ mark,
      marks[position.instrumentId]? = some mark → position.MarkedExactly mark) :
    valuation'.realized.scaled = valuation.realized.scaled
        + (positions.map (·.realizedPnl.scaled)).sum ∧
      (valuation'.marketValue.scaled - valuation'.unrealized.scaled)
          * Decimal.scale
        = (valuation.marketValue.scaled - valuation.unrealized.scaled)
          * Decimal.scale + (positions.map LedgerPosition.cost).sum := by
  induction positions generalizing valuation with
  | nil =>
    obtain rfl := Except.ok.inj h
    simp
  | cons position rest ih =>
    simp only [foldlM_cons, bind_eq_ok] at h
    obtain ⟨next, hnext, hrest⟩ := h
    obtain ⟨hrealized, hvalue⟩ := addPosition_ok hnext
      (hexact position mem_cons_self)
    obtain ⟨hrealized', hvalue'⟩ := ih hrest
      fun other hmem => hexact other (mem_cons_of_mem _ hmem)
    simp only [map_cons, sum_cons]
    exact ⟨by omega, by omega⟩

theorem report_profit {initialCash : Decimal} {ledger : BacktestLedger}
    {report : BacktestReport} (hfunded : Funded initialCash ledger)
    (h : ledger.report marks = .ok report)
    (hexact : ∀ position ∈ ledger.positions.values, ∀ mark,
      marks[position.instrumentId]? = some mark → position.MarkedExactly mark) :
    report.totalEquity.scaled - initialCash.scaled
      = report.realizedPnl.scaled + report.unrealizedPnl.scaled
        + report.totalDividends.scaled := by
  simp only [BacktestLedger.report, bind_eq_ok, checkedAdd_eq_ok, pure_eq_ok] at h
  obtain ⟨valuation, hvaluation, equity, hequity, rfl⟩ := h
  obtain ⟨hrealized, hvalue⟩ := addPositions_ok hvaluation hexact
  have hscale : Decimal.scale ≠ 0 := by decide
  refine Int.eq_of_mul_eq_mul_right hscale ?_
  simp only [scaled_zero, Int.zero_add, Int.sub_self, Int.zero_mul]
    at hrealized hvalue
  unfold Funded at hfunded
  simp only [OrderedMap.total] at hfunded
  simp only [hequity, hrealized]
  linear_combination hfunded + hvalue

/-- Whatever is booked on a new ledger, the entries account for its cash and
its units; and where nothing was cut off, an exact report is worth the opening
cash with the profit and the dividends. -/
theorem books_conserve {currency : String} {initialCash : Decimal}
    {start ledger : BacktestLedger} {operations : List LedgerOperation}
    (hnew : BacktestLedger.new currency initialCash = .ok start)
    (hrun : Bookings (fun _ _ => True) start operations ledger) :
    Balanced initialCash operations ledger ∧
      (Bookings (fun ledger operation => operation.Exact ledger) start
          operations ledger →
        ∀ marks report, ledger.report marks = .ok report →
          (∀ position ∈ ledger.positions.values, ∀ mark,
            marks[position.instrumentId]? = some mark → position.MarkedExactly mark) →
          report.totalEquity.scaled - initialCash.scaled
            = report.realizedPnl.scaled + report.unrealizedPnl.scaled
              + report.totalDividends.scaled) := by
  refine ⟨(Balanced.new hnew).bookings hrun, ?_⟩
  intro hexact marks report hreport hmarked
  exact report_profit ((Funded.new hnew).bookings hexact) hreport hmarked

end BacktestLedger

/-! ## A purchase and a sale -/

namespace LedgerSession

def dollars (amount : Nat) (h : amount ≤ 1000000 := by decide) : Decimal :=
  ⟨amount * 100000000, by unfold i128Min; omega, by unfold i128Max; omega⟩

def bought : Fill where
  executionId := "exec-1"
  orderId := "order-1"
  instrumentId := "aapl"
  side := .buy
  quantity := dollars 10
  price := dollars 100
  fee := dollars 5
  executedAt := "2026-01-05T14:30:00Z"

def sold : Fill where
  executionId := "exec-2"
  orderId := "order-2"
  instrumentId := "aapl"
  side := .sell
  quantity := dollars 4
  price := dollars 110
  fee := dollars 1
  executedAt := "2026-01-06T14:30:00Z"

def opening : BacktestLedger where
  currency := "USD"
  cash := dollars 10000
  positions := ∅
  taxLots := .empty
  executionIds := ∅
  corporateActionIds := ∅
  entries := []
  fees := Decimal.zero
  dividends := Decimal.zero

def book (ledger : BacktestLedger) (operation : LedgerOperation) : BacktestLedger :=
  operation.apply.final ledger

theorem run_book {ledger : BacktestLedger} {operation : LedgerOperation}
    (h : ((operation.apply.run ledger).1).toOption = some ()) :
    operation.apply.run ledger = (.ok (), book ledger operation) := by
  rcases hrun : operation.apply.run ledger with ⟨_ | _, t⟩
  · rw [hrun] at h
    contradiction
  · rw [book, final_eq hrun]

theorem opening_new : BacktestLedger.new "USD" (dollars 10000) = .ok opening := by
  simp only [BacktestLedger.new, bind_eq_ok]
  exact ⟨(), by decide, rfl⟩

theorem bought_exact : (LedgerOperation.fill bought).Exact opening := by
  refine ⟨by decide, by decide, ?_⟩
  intro gross required prior quantity cost hgross hrequired hprior hquantity
    hcost
  have hgross' := scaled_of_checkedMul hgross
  have hprior' := scaled_of_checkedMul hprior
  rw [checkedAdd_eq_ok] at hrequired hquantity hcost
  rw [Decimal.ExactDiv, hcost, hprior', hrequired, hgross', hquantity]
  decide

theorem bought_position : (book opening (.fill bought)).positionOf "aapl"
    = ⟨"aapl", dollars 10, ⟨10050000000, by decide, by decide⟩,
        Decimal.zero⟩ := by
  decide

theorem sold_exact : (LedgerOperation.fill sold).Exact (book opening (.fill bought)) := by
  refine ⟨by decide, ?_⟩
  change ∀ gain, sold.price.checkedSub ((book opening
    (.fill bought)).positionOf "aapl").averageCost = .ok gain → _
  rw [bought_position]
  intro gain hgain
  rw [checkedSub_eq_ok] at hgain
  rw [Decimal.ExactMul, hgain]
  decide

theorem bookings {allowed : BacktestLedger → LedgerOperation → Prop}
    (hbought : allowed opening (.fill bought))
    (hsold : allowed (book opening (.fill bought)) (.fill sold)) :
    Bookings allowed opening [.fill bought, .fill sold]
      (book (book opening (.fill bought)) (.fill sold)) :=
  .snoc (.snoc .none hbought (run_book (by decide))) hsold
    (run_book (by decide))

def marks : OrderedMap String Decimal := Std.ExtTreeMap.ofList [("aapl", dollars 120)]

theorem books_conserve_purchase_and_sale :
    ∃ ledger report, BacktestLedger.report ledger marks = .ok report ∧
      report.realizedPnl = dollars 37 ∧
      report.totalEquity.scaled - (dollars 10000).scaled
        = report.realizedPnl.scaled + report.unrealizedPnl.scaled
          + report.totalDividends.scaled := by
  obtain ⟨-, hprofit⟩ := BacktestLedger.books_conserve opening_new
    (bookings trivial trivial)
  have hexact := hprofit (bookings bought_exact sold_exact) marks
  have hpositions : (book (book opening (.fill bought)) (.fill sold)).positions.values
        = [⟨"aapl", dollars 6, ⟨10050000000, by decide, by decide⟩,
            dollars 37⟩] := by
    decide +kernel
  have hvalued : ((BacktestLedger.report (book (book opening (.fill bought))
      (.fill sold)) marks).toOption.map (·.realizedPnl))
        = some (dollars 37) := by
    decide
  obtain ⟨report, hreport, hrealized⟩ := map_eq_some_iff.mp hvalued
  have hok : BacktestLedger.report (book (book opening (.fill bought))
      (.fill sold)) marks = .ok report := by
    cases hresult : BacktestLedger.report _ marks with
    | error e => rw [hresult] at hreport; contradiction
    | ok found => rw [hresult] at hreport; rw [Option.some.inj hreport]
  refine ⟨_, report, hok, hrealized, hexact report hok ?_⟩
  rw [hpositions]
  intro position hmem mark hmark
  rw [mem_singleton.mp hmem] at hmark ⊢
  have hfound : marks["aapl"]? = some (dollars 120) := by decide
  obtain rfl := Option.some.inj (hfound.symm.trans hmark)
  refine ⟨by decide, fun gain hgain => ?_⟩
  rw [checkedSub_eq_ok] at hgain
  rw [Decimal.ExactMul, hgain]
  decide

end LedgerSession

end Follon.Backtest
