import Follon.Backtest.Ledger

/-!
# What a ledger booking leaves

The position, the cash, the lots and the entry of every booking that succeeds.
-/

namespace Follon.Backtest

open Foundation Domain Accounting

inductive Booked (fill : Fill) (position : LedgerPosition) (cash : Decimal) :
    LedgerPosition → Decimal → Deltas → Prop
  | bought {gross required prior quantity cost averageCost cash'
        cashDelta : Decimal}
      (hside : fill.side = .buy)
      (hgross : fill.price.checkedMul fill.quantity = .ok gross)
      (hrequired : gross.checkedAdd fill.fee = .ok required)
      (hprior : position.averageCost.checkedMul position.quantity = .ok prior)
      (hquantity : position.quantity.checkedAdd fill.quantity = .ok quantity)
      (hcost : prior.checkedAdd required = .ok cost)
      (haverage : cost.checkedDiv quantity = .ok averageCost)
      (hcash : cash.checkedSub required = .ok cash')
      (hdelta : Decimal.zero.checkedSub required = .ok cashDelta) :
      Booked fill position cash { position with quantity, averageCost } cash'
        (fill.quantity, cashDelta)
  | sold {gross gain realized net realizedPnl quantity proceeds cash'
        quantityDelta : Decimal}
      (hside : fill.side = .sell)
      (hgross : fill.price.checkedMul fill.quantity = .ok gross)
      (hheld : ¬position.quantity < fill.quantity)
      (hgain : fill.price.checkedSub position.averageCost = .ok gain)
      (hrealized : gain.checkedMul fill.quantity = .ok realized)
      (hnet : realized.checkedSub fill.fee = .ok net)
      (htotal : position.realizedPnl.checkedAdd net = .ok realizedPnl)
      (hquantity : position.quantity.checkedSub fill.quantity = .ok quantity)
      (hproceeds : gross.checkedSub fill.fee = .ok proceeds)
      (hcash : cash.checkedAdd proceeds = .ok cash')
      (hdelta : Decimal.zero.checkedSub fill.quantity = .ok quantityDelta) :
      Booked fill position cash
        { position with
          quantity
          averageCost :=
            if quantity = Decimal.zero then Decimal.zero
            else position.averageCost
          realizedPnl } cash' (quantityDelta, proceeds)

inductive LotsBooked (fill : Fill) (book book' : TaxLotBook) : Prop
  | acquired {lot : TaxLot} {fresh : Bool} (hside : fill.side = .buy)
      (hid : lot.lotId = "taxlot-" ++ fill.executionId)
      (hinstrument : lot.instrumentId = fill.instrumentId)
      (hquantity : lot.remainingQuantity = fill.quantity)
      (hrun : (TaxLotBook.acquire lot).run book = (.ok fresh, book'))
  | disposed {currency : Currency} {closed : Option LotClose}
      (hside : fill.side = .sell)
      (hrun : (TaxLotBook.dispose ("taxdisposal-" ++ fill.executionId)
        fill.instrumentId currency fill.quantity fill.price fill.fee
        fill.executedAt .fifo).run book = (.ok closed, book'))

structure Split (instrumentId : String) (ratio : Decimal)
    (position position' : LedgerPosition) (book book' : TaxLotBook)
    (deltas : Deltas) : Prop where
  lots : book.applySplit instrumentId ratio = .ok book'
  quantity : position.quantity.checkedMul ratio = .ok position'.quantity
  averageCost : position.averageCost.checkedDiv ratio = .ok position'.averageCost
  realizedPnl : position'.realizedPnl = position.realizedPnl
  instrumentId : position'.instrumentId = position.instrumentId
  moved : position'.quantity.checkedSub position.quantity = .ok deltas.1
  free : deltas.2 = Decimal.zero

namespace BacktestLedger

variable {ledger ledger' : BacktestLedger}

/-! ## Fills -/

structure Filled (fill : Fill) (position : LedgerPosition) (deltas : Deltas)
    (ledger ledger' : BacktestLedger) : Prop where
  checked : ledger.checkFill fill = .ok ()
  booked : Booked fill (ledger.positionOf fill.instrumentId) ledger.cash
    position ledger'.cash deltas
  positions : ledger'.positions = ledger.positions.insert fill.instrumentId position
  lots : LotsBooked fill ledger.taxLots ledger'.taxLots
  fees : ledger.fees.checkedAdd fill.fee = .ok ledger'.fees
  dividends : ledger'.dividends = ledger.dividends
  currency : ledger'.currency = ledger.currency
  executionIds : ledger'.executionIds = ledger.executionIds.insert fill.executionId
  corporateActionIds : ledger'.corporateActionIds = ledger.corporateActionIds
  entries : ledger'.entries = ledger.entries ++ [fillEntry fill deltas]

theorem bookPosition_eq_ok {fill : Fill} {deltas : Deltas}
    (h : (bookPosition fill).run ledger = (.ok deltas, ledger')) : ∃ position cash,
      Booked fill (ledger.positionOf fill.instrumentId) ledger.cash position
        cash deltas ∧
      ledger' = setCash cash
        (setPosition fill.instrumentId position ledger) := by
  simp only [bookPosition, run_read_bind, run_update_bind,
    run_lift_bind_eq_ok] at h
  obtain ⟨gross, hgross, h⟩ := h
  cases hside : fill.side with
  | buy =>
    simp only [hside, bookBuy, run_read_bind, run_lift_bind_eq_ok, run_update_bind,
      run_pure, Prod.mk.injEq, Except.ok.injEq, refuseIf_eq_ok,
      exists_const] at h
    obtain ⟨required, hrequired, -, prior, hprior, quantity, hquantity, cost,
      hcost, averageCost, haverage, cash, hcash, delta, hdelta, rfl,
      rfl⟩ := h
    refine ⟨_, _, .bought hside hgross hrequired hprior hquantity hcost
      haverage hcash hdelta, ?_⟩
    simp only [setCash, setPosition, OrderedMap.insert_insert]
  | sell =>
    simp only [hside, bookSell, run_read_bind, run_lift_bind_eq_ok, run_update_bind,
      run_pure, Prod.mk.injEq, Except.ok.injEq, refuseIf_eq_ok,
      exists_const] at h
    obtain ⟨hheld, gain, hgain, realized, hrealized, net, hnet, total, htotal,
      quantity, hquantity, proceeds, hproceeds, cash, hcash, delta, hdelta,
      rfl, rfl⟩ := h
    refine ⟨_, _, .sold hside hgross hheld hgain hrealized hnet htotal
      hquantity hproceeds hcash hdelta, ?_⟩
    simp only [setCash, setPosition, OrderedMap.insert_insert]

theorem onTaxLots_eq_ok {α : Type} {x : TaxLotBook.BookM α} {a : α}
    (h : (onTaxLots x).run ledger = (.ok a, ledger')) :
    ∃ book, x.run ledger.taxLots = (.ok a, book) ∧
      ledger' = setTaxLots book ledger := by
  rw [onTaxLots, run_zoom, Prod.mk.injEq] at h
  obtain ⟨hresult, rfl⟩ := h
  exact ⟨_, Prod.ext hresult rfl, rfl⟩

theorem applyTaxLotFill_eq_ok {fill : Fill}
    (h : (applyTaxLotFill fill).run ledger = (.ok (), ledger')) :
    ∃ book, LotsBooked fill ledger.taxLots book ∧
      ledger' = setTaxLots book ledger := by
  simp only [applyTaxLotFill, run_read_bind,
    run_lift_bind_eq_ok] at h
  obtain ⟨currency, -, h⟩ := h
  cases hside : fill.side with
  | buy =>
    simp only [hside, acquireLot, run_lift_bind_eq_ok] at h
    obtain ⟨_, -, _, -, unitPrice, -, h⟩ := h
    obtain ⟨fresh, hrun⟩ := Fallible.run_discard_eq_ok.mp h
    obtain ⟨book, hacquired, rfl⟩ := onTaxLots_eq_ok hrun
    exact ⟨book, .acquired hside rfl rfl rfl hacquired, rfl⟩
  | sell =>
    simp only [hside, disposeLots] at h
    obtain ⟨closed, hrun⟩ := Fallible.run_discard_eq_ok.mp h
    obtain ⟨book, hdisposed, rfl⟩ := onTaxLots_eq_ok hrun
    exact ⟨book, .disposed hside hdisposed, rfl⟩

theorem applyFill_eq_ok {fill : Fill}
    (h : (applyFill fill).run ledger = (.ok (), ledger')) :
    ∃ position deltas, Filled fill position deltas ledger ledger' := by
  simp only [applyFill, run_read_bind,
    run_lift_bind_eq_ok] at h
  obtain ⟨_, hchecked, h⟩ := h
  obtain ⟨deltas, booked, hposition, h⟩ := run_bind_eq_ok.mp h
  obtain ⟨_, filled, hlots, h⟩ := run_bind_eq_ok.mp h
  obtain ⟨position, cash, hbooked, rfl⟩ := bookPosition_eq_ok hposition
  obtain ⟨book, hbook, rfl⟩ := applyTaxLotFill_eq_ok hlots
  simp only [run_read_bind, run_lift_bind_eq_ok,
    run_update_bind, run_update, Prod.mk.injEq,
    true_and] at h
  obtain ⟨fees, hfees, rfl⟩ := h
  exact ⟨position, deltas, hchecked, hbooked, rfl, hbook, hfees, rfl, rfl, rfl, rfl, rfl⟩

/-! ## Corporate actions -/

inductive Acted (action : CorporateAction) (ledger ledger' : BacktestLedger) :
    Prop
  | noted (hnone : ledger.positions[action.instrumentId]? = none)
      (hledger : ledger' = noteAction action.actionId ledger)
  | split {actionId instrumentId effectiveAt : String} {ratio : Decimal}
      {position position' : LedgerPosition} {book : TaxLotBook}
      {deltas : Deltas}
      (haction : action = .split actionId instrumentId effectiveAt ratio)
      (hfind : ledger.positions[instrumentId]? = some position)
      (hsplit : Split instrumentId ratio position position' ledger.taxLots book deltas)
      (hledger : ledger' = push (actionEntry action deltas)
        (noteAction action.actionId (setPosition instrumentId position'
          (setTaxLots book ledger))))
  | paid {actionId instrumentId effectiveAt : String} {amount : Decimal}
      {position : LedgerPosition} {cashDelta cash dividends : Decimal}
      (haction : action = .cashDividend actionId instrumentId effectiveAt amount)
      (hfind : ledger.positions[instrumentId]? = some position)
      (hdelta : position.quantity.checkedMul amount = .ok cashDelta)
      (hcash : ledger.cash.checkedAdd cashDelta = .ok cash)
      (hdividends : ledger.dividends.checkedAdd cashDelta = .ok dividends)
      (hledger : ledger' = push (actionEntry action (Decimal.zero, cashDelta))
        (noteAction action.actionId (setDividends dividends (setCash cash ledger))))

theorem applyCorporateAction_eq_ok {action : CorporateAction}
    (h : (applyCorporateAction action).run ledger = (.ok (), ledger')) :
    ledger.checkAction action = .ok () ∧ Acted action ledger ledger' := by
  simp only [applyCorporateAction, run_read_bind,
    run_lift_bind_eq_ok] at h
  obtain ⟨_, hchecked, h⟩ := h
  refine ⟨hchecked, ?_⟩
  cases hfind : ledger.positions[action.instrumentId]? with
  | none =>
    simp only [hfind, run_update, Prod.mk.injEq, true_and] at h
    exact .noted hfind h.symm
  | some position =>
    simp only [hfind] at h
    obtain ⟨deltas, booked, hbooked, h⟩ := run_bind_eq_ok.mp h
    simp only [run_update_bind, run_update, Prod.mk.injEq,
      true_and] at h
    cases action with
    | split actionId instrumentId effectiveAt ratio =>
      simp only [bookAction, bookSplit, run_read_bind,
        run_lift_bind_eq_ok, run_update_bind,
        run_pure, Prod.mk.injEq, Except.ok.injEq] at hbooked
      obtain ⟨book, hbook, quantity, hquantity, averageCost, haverage,
        delta, hdelta, rfl, rfl⟩ := hbooked
      have hsplit : Split instrumentId ratio position
          { position with quantity, averageCost } ledger.taxLots book
          (delta, Decimal.zero) :=
        ⟨hbook, hquantity, haverage, rfl, rfl, hdelta, rfl⟩
      refine .split rfl hfind hsplit ?_
      rw [← h]
      simp only [setPosition, setTaxLots, OrderedMap.insert_insert]
    | cashDividend actionId instrumentId effectiveAt amount =>
      simp only [bookAction, bookDividend, run_read_bind,
        run_lift_bind_eq_ok, run_update_bind,
        run_pure, Prod.mk.injEq, Except.ok.injEq] at hbooked
      obtain ⟨cashDelta, hdelta, cash, hcash, dividends, hdividends, rfl, rfl⟩ := hbooked
      exact .paid rfl hfind hdelta hcash hdividends h.symm

end BacktestLedger

end Follon.Backtest
