import Follon.Accounting.Inventory
import Follon.Paper.BrokerEvents

/-!
# What an applied event does

The effect of every event that applies, once for each kind: which order it
changes and which fills it accounts.
-/

namespace Follon.Paper

open Foundation Domain ControlPlane Accounting

/-! ## Accounting one fill -/

inductive ClosesLots (currency : Currency) (fill : Fill)
    (closing closeFee : Decimal) (book : TaxLotBook) : TaxLotBook → Prop
  | nothing (h : closing ≤ Decimal.zero) :
      ClosesLots currency fill closing closeFee book book
  | covered {book' : TaxLotBook} {closed : Option LotClose}
      (hclosing : ¬closing ≤ Decimal.zero) (hside : fill.side = .buy)
      (hrun : (TaxLotBook.cover ("taxcover-" ++ fill.executionId)
        fill.instrumentId currency closing fill.price closeFee
        fill.executedAt .fifo).run book = (.ok closed, book')) :
      ClosesLots currency fill closing closeFee book book'
  | disposed {book' : TaxLotBook} {closed : Option LotClose}
      (hclosing : ¬closing ≤ Decimal.zero) (hside : fill.side = .sell)
      (hrun : (TaxLotBook.dispose ("taxdisposal-" ++ fill.executionId)
        fill.instrumentId currency closing fill.price closeFee
        fill.executedAt .fifo).run book = (.ok closed, book')) :
      ClosesLots currency fill closing closeFee book book'

def openedLot (stem : String) (currency : Currency) (fill : Fill)
    (opening unitPrice : Decimal) : TaxLot where
  lotId := stem ++ fill.executionId
  instrumentId := fill.instrumentId
  currency := currency
  openedAt := fill.executedAt
  remainingQuantity := opening
  unitPrice := unitPrice

inductive OpensLot (currency : Currency) (fill : Fill) (opening : Decimal)
    (book : TaxLotBook) : TaxLotBook → Prop
  | nothing (h : opening = Decimal.zero) :
      OpensLot currency fill opening book book
  | acquired {book' : TaxLotBook} {unitPrice : Decimal} {fresh : Bool}
      (hside : fill.side = .buy)
      (hrun : (TaxLotBook.acquire (openedLot "taxlot-" currency fill opening
        unitPrice)).run book = (.ok fresh, book')) :
      OpensLot currency fill opening book book'
  | shorted {book' : TaxLotBook} {unitPrice : Decimal} {fresh : Bool}
      (hside : fill.side = .sell)
      (hrun : (TaxLotBook.openShort (openedLot "taxshort-" currency fill
        opening unitPrice)).run book = (.ok fresh, book')) :
      OpensLot currency fill opening book book'

def opposingLots (book : TaxLotBook) (fill : Fill) : List TaxLot :=
  match fill.side with
  | .buy => book.shortLots fill.instrumentId
  | .sell => book.lots fill.instrumentId

inductive FillsLots (config : Configuration) (fill : Fill)
    (book : TaxLotBook) : TaxLotBook → Prop
  | intro {currency : Currency} {available opening closeFee : Decimal}
      {closed book' : TaxLotBook}
      (hcurrency : Currency.new config.account.currency = .ok currency)
      (havailable : openQuantity (opposingLots book fill) = .ok available)
      (hopening : fill.quantity.checkedSub (available.min fill.quantity) = .ok opening)
      (hcloses : ClosesLots currency fill (available.min fill.quantity)
        closeFee book closed)
      (hopens : OpensLot currency fill opening closed book') :
      FillsLots config fill book book'

namespace Books

def fillPosition (config : Configuration) (books : Books) (fill : Fill) :
    Result Portfolio :=
  let portfolio := books.portfolios[fill.instrumentId]?.getD
    (Portfolio.new config.account.accountId fill.instrumentId)
  if config.riskPolicy.shortExposure.isSome then
    portfolio.applySignedFill fill
  else
    portfolio.applyFill fill

def contribution (attribution : OrderedMap String Decimal) (fill : Fill)
    (strategyId : String) : Result Decimal :=
  let current := attribution[strategyId]?.getD Decimal.zero
  match fill.side with
  | .buy => current.checkedAdd fill.quantity
  | .sell => current.checkedSub fill.quantity

structure Accounted (config : Configuration) (fill : Fill)
    (strategyId : String) (books books' : Books) : Prop where
  position : ∃ filled, books.fillPosition config fill = .ok filled ∧
    books'.portfolios = books.portfolios.insert fill.instrumentId filled
  taxLots : FillsLots config fill books.taxLots books'.taxLots
  attribution : ∃ updated,
    contribution (books.strategyAttribution[fill.instrumentId]?.getD ∅) fill
        strategyId = .ok updated ∧
      books'.strategyAttribution = books.strategyAttribution.insert fill.instrumentId
          ((books.strategyAttribution[fill.instrumentId]?.getD ∅).insert
            strategyId updated)
  cash : settle books.cash fill = .ok books'.cash
  executionIds :
    books'.executionIds = books.executionIds.insert fill.executionId
  orders : books'.orders = books.orders
  comboOrders : books'.comboOrders = books.comboOrders

variable {α : Type} {books books' : Books} {fill : Fill} {u : Unit}
  {config : Configuration} {strategyId : String} {fills : List Fill}

variable {a : α} {currency : Currency} {closeFee : Decimal} {orderId : String}

theorem onTaxLots_eq_ok {x : TaxLotBook.BookM α}
    (h : (onTaxLots x).run books = (.ok a, books')) :
    ∃ taxLots, x.run books.taxLots = (.ok a, taxLots) ∧
      books' = { books with taxLots } := by
  rw [onTaxLots, run_zoom, Prod.mk.injEq] at h
  exact ⟨_, Prod.ext h.1 rfl, h.2.symm⟩

theorem closeTaxLots_eq_ok {closing : Decimal}
    (h : (closeTaxLots currency fill closing closeFee).run books = (.ok u, books')) :
    ∃ taxLots, ClosesLots currency fill closing closeFee books.taxLots taxLots ∧
      books' = { books with taxLots } := by
  unfold closeTaxLots at h
  split at h
  · next hclosing =>
      rw [run_pure, Prod.mk.injEq] at h
      exact ⟨books.taxLots, .nothing hclosing, h.2.symm⟩
  · next hclosing =>
      split at h
      · next hside =>
          obtain ⟨_, _, hrun, h⟩ := run_bind_eq_ok.mp h
          rw [run_pure, Prod.mk.injEq] at h
          obtain ⟨taxLots, hcover, hbooks⟩ := onTaxLots_eq_ok hrun
          exact ⟨taxLots, .covered hclosing hside hcover, h.2.symm.trans hbooks⟩
      · next hside =>
          obtain ⟨_, _, hrun, h⟩ := run_bind_eq_ok.mp h
          rw [run_pure, Prod.mk.injEq] at h
          obtain ⟨taxLots, hdispose, hbooks⟩ := onTaxLots_eq_ok hrun
          exact ⟨taxLots, .disposed hclosing hside hdispose, h.2.symm.trans hbooks⟩

theorem openTaxLot_eq_ok {opening : Decimal}
    (h : (openTaxLot currency fill opening closeFee).run books = (.ok u, books')) :
    ∃ taxLots, OpensLot currency fill opening books.taxLots taxLots ∧
      books' = { books with taxLots } := by
  unfold openTaxLot at h
  split at h
  · next hopening =>
      rw [run_pure, Prod.mk.injEq] at h
      exact ⟨books.taxLots, .nothing hopening, h.2.symm⟩
  · simp only [run_lift_bind_eq_ok] at h
    obtain ⟨_, -, _, -, h⟩ := h
    split at h
    · next hside =>
        simp only [run_lift_bind_eq_ok] at h
        obtain ⟨_, -, unitCost, -, h⟩ := h
        obtain ⟨_, _, hrun, h⟩ := run_bind_eq_ok.mp h
        rw [run_pure, Prod.mk.injEq] at h
        obtain ⟨taxLots, hacquire, hbooks⟩ := onTaxLots_eq_ok hrun
        exact ⟨taxLots, .acquired hside hacquire, h.2.symm.trans hbooks⟩
    · next hside =>
        simp only [run_lift_bind_eq_ok] at h
        obtain ⟨_, -, unitProceeds, -, h⟩ := h
        obtain ⟨_, _, hrun, h⟩ := run_bind_eq_ok.mp h
        rw [run_pure, Prod.mk.injEq] at h
        obtain ⟨taxLots, hopen, hbooks⟩ := onTaxLots_eq_ok hrun
        exact ⟨taxLots, .shorted hside hopen, h.2.symm.trans hbooks⟩

theorem applyTaxLotFill_eq_ok
    (h : (applyTaxLotFill config fill).run books = (.ok u, books')) :
    ∃ taxLots, FillsLots config fill books.taxLots taxLots ∧
      books' = { books with taxLots } := by
  simp only [applyTaxLotFill, run_read_bind,
    run_lift_bind_eq_ok] at h
  obtain ⟨currency, hcurrency, available, havailable, opening, hopening,
    closeFee, -, h⟩ := h
  obtain ⟨_, _, hclose, h⟩ := run_bind_eq_ok.mp h
  obtain ⟨closed, hcloses, rfl⟩ := closeTaxLots_eq_ok hclose
  obtain ⟨taxLots, hopens, rfl⟩ := openTaxLot_eq_ok h
  refine ⟨taxLots, .intro hcurrency ?_ hopening hcloses hopens, rfl⟩
  rw [← havailable, opposingLots]
  cases fill.side <;> rfl

theorem applyAccountedFill_eq_ok
    (h : (applyAccountedFill config fill strategyId).run books
      = (.ok u, books')) : Accounted config fill strategyId books books' := by
  rw [applyAccountedFill] at h
  obtain ⟨_, filledBooks, hposition, h⟩ := run_bind_eq_ok.mp h
  obtain ⟨_, lotBooks, hlots, h⟩ := run_bind_eq_ok.mp h
  obtain ⟨_, attributed, hattribution, h⟩ := run_bind_eq_ok.mp h
  simp only [applyPortfolioFill, run_read_bind, run_update_bind, run_lift_bind_eq_ok,
    run_update, Prod.mk.injEq] at hposition
  obtain ⟨filled, hfilled, -, rfl⟩ := hposition
  obtain ⟨taxLots, htaxLots, rfl⟩ := applyTaxLotFill_eq_ok hlots
  simp only [applyStrategyAttributionFill, run_read_bind,
    run_update_bind, run_lift_bind_eq_ok,
    run_update, Prod.mk.injEq] at hattribution
  obtain ⟨updated, hupdated, -, rfl⟩ := hattribution
  simp only [run_read_bind, run_lift_bind_eq_ok,
    run_update, Prod.mk.injEq] at h
  obtain ⟨cash, hcash, -, rfl⟩ := h
  refine ⟨⟨filled, hfilled, ?_⟩, htaxLots, ⟨updated, ?_, ?_⟩, hcash, rfl, rfl, rfl⟩
  · simp
  · refine Eq.trans ?_ hupdated
    unfold contribution
    cases fill.side <;> rfl
  · simp

inductive AccountedAll (config : Configuration) (strategyId : String) :
    List Fill → Books → Books → Prop
  | nil (books : Books) : AccountedAll config strategyId [] books books
  | cons {fill : Fill} {fills : List Fill} {books next books' : Books}
      (hfill : Accounted config fill strategyId books next)
      (hfills : AccountedAll config strategyId fills next books') :
      AccountedAll config strategyId (fill :: fills) books books'

theorem applyFills_eq_ok
    (h : (applyFills config strategyId fills).run books = (.ok u, books')) :
    AccountedAll config strategyId fills books books' := by
  induction fills generalizing books with
  | nil =>
    rw [applyFills, run_pure, Prod.mk.injEq] at h
    rw [← h.2]
    exact .nil books
  | cons fill fills ih =>
    rw [applyFills] at h
    obtain ⟨_, next, hfill, hrest⟩ := run_bind_eq_ok.mp h
    exact .cons (applyAccountedFill_eq_ok hfill) (ih hrest)

theorem AccountedAll.comboOrders (h : AccountedAll config strategyId fills books books') :
    books'.comboOrders = books.comboOrders := by
  induction h with
  | nil => rfl
  | cons hfill _ ih => rw [ih, hfill.comboOrders]

theorem AccountedAll.orders (h : AccountedAll config strategyId fills books books') :
    books'.orders = books.orders := by
  induction h with
  | nil => rfl
  | cons hfill _ ih => rw [ih, hfill.orders]

theorem onOrder_eq_ok {x : OrderM α}
    (h : (onOrder orderId x).run books = (.ok a, books')) :
    ∃ order order', books.orders[orderId]? = some order ∧
      x.run order = (.ok a, order') ∧ books' = books.putOrder orderId order' := by
  simp only [onOrder, Fallible.run] at h
  split at h
  · next order hfind =>
      obtain ⟨hresult, hbooks⟩ := Prod.mk.inj h
      exact ⟨order, x.final order, hfind, Prod.ext hresult rfl, hbooks.symm⟩
  · simp at h

theorem onCombo_eq_ok {x : ComboM α}
    (h : (onCombo orderId x).run books = (.ok a, books')) :
    ∃ order order', books.comboOrders[orderId]? = some order ∧
      x.run order = (.ok a, order') ∧ books' = books.putCombo orderId order' := by
  simp only [onCombo, Fallible.run] at h
  split at h
  · next order hfind =>
      obtain ⟨hresult, hbooks⟩ := Prod.mk.inj h
      exact ⟨order, x.final order, hfind, Prod.ext hresult rfl, hbooks.symm⟩
  · simp at h

end Books

/-! ## Events -/

/-- The change of its plain order an event without an execution asks for. -/
inductive OrderHandler : BrokerEvent → OrderM Unit → Prop
  | acknowledged {clientOrderId brokerOrderId : String}
      (hid : isCanonicalId brokerOrderId = true) :
      OrderHandler (.acknowledged clientOrderId brokerOrderId)
        (PaperOrder.applyAcknowledged brokerOrderId)
  | cancelled (clientOrderId reason : String) :
      OrderHandler (.cancelled clientOrderId reason)
        (PaperOrder.transitionToTerminal .cancelled reason)
  | expired (clientOrderId reason : String) :
      OrderHandler (.expired clientOrderId reason)
        (PaperOrder.transitionToTerminal .expired reason)
  | rejected (clientOrderId reason : String) :
      OrderHandler (.rejected clientOrderId reason)
        (PaperOrder.transitionToTerminal .rejected reason)
  | cancelRejected (clientOrderId reason : String) :
      OrderHandler (.cancelRejected clientOrderId reason)
        PaperOrder.applyCancelRejected
  | replaceRequested (clientOrderId previousBrokerOrderId : String) :
      OrderHandler (.replaceRequested clientOrderId previousBrokerOrderId)
        (PaperOrder.applyReplaceRequested previousBrokerOrderId)
  | replaced {clientOrderId previousBrokerOrderId brokerOrderId : String}
      (hid : isCanonicalId brokerOrderId = true) :
      OrderHandler
        (.replaced clientOrderId previousBrokerOrderId brokerOrderId)
        (PaperOrder.applyReplaced previousBrokerOrderId brokerOrderId)
  | replaceRejected {clientOrderId reason : String}
      (hreason : isBrokerReason reason = true) :
      OrderHandler (.replaceRejected clientOrderId reason)
        PaperOrder.applyReplaceRejected

inductive ComboHandler : BrokerEvent → ComboM Unit → Prop
  | acknowledged (clientOrderId brokerOrderId : String) :
      ComboHandler (.acknowledged clientOrderId brokerOrderId)
        (PaperComboOrder.acknowledge brokerOrderId)
  | cancelRejected (clientOrderId reason : String) :
      ComboHandler (.cancelRejected clientOrderId reason)
        (PaperComboOrder.applyCancelRejected reason)
  | cancelled (clientOrderId reason : String) :
      ComboHandler (.cancelled clientOrderId reason)
        (PaperComboOrder.finishAs reason .cancelled)
  | expired (clientOrderId reason : String) :
      ComboHandler (.expired clientOrderId reason)
        (PaperComboOrder.finishAs reason .expired)
  | rejected (clientOrderId reason : String) :
      ComboHandler (.rejected clientOrderId reason)
        (PaperComboOrder.finishAs reason .rejected)

structure ValidExecution (execution : BrokerExecution) : Prop where
  executionId : isCanonicalId execution.executionId = true
  brokerOrderId : isCanonicalId execution.brokerOrderId = true
  executedAt : isUtcTimestamp execution.executedAt = true
  quantity : 0 < execution.quantity.scaled
  price : 0 < execution.price.scaled
  fee : 0 ≤ execution.fee.scaled

namespace Books

def noteExecution (executionId : String) (books : Books) : Books :=
  { books with executionIds := books.executionIds.insert executionId }

inductive Applies (config : Configuration) (books : Books) :
    BrokerEvent → Books → Prop
  | order {event : BrokerEvent} {x : OrderM Unit} {order order' : PaperOrder}
      (hplain : event.clientOrderId ∉ books.comboOrders)
      (hhandler : OrderHandler event x)
      (hfind : books.orders[event.clientOrderId]? = some order)
      (hrun : x.run order = (.ok (), order')) :
      Applies config books event (books.putOrder event.clientOrderId order')
  | replayed {execution : BrokerExecution}
      (hplain : execution.clientOrderId ∉ books.comboOrders)
      (hseen : execution.executionId ∈ books.executionIds) :
      Applies config books (.execution execution) books
  | executed {execution : BrokerExecution} {order order' : PaperOrder}
      {fill : Fill} {strategyId : String} {books' : Books}
      (hplain : execution.clientOrderId ∉ books.comboOrders)
      (hvalid : ValidExecution execution)
      (hnew : execution.executionId ∉ books.executionIds)
      (hfind : books.orders[execution.clientOrderId]? = some order)
      (hrun : (PaperOrder.applyExecution execution).run order
        = (.ok (fill, strategyId), order'))
      (hfill : Accounted config fill strategyId
        ((books.putOrder execution.clientOrderId order').noteExecution
          execution.executionId) books') :
      Applies config books (.execution execution) books'
  | combo {event : BrokerEvent} {x : ComboM Unit}
      {order order' : PaperComboOrder}
      (hhandler : ComboHandler event x)
      (hfind : books.comboOrders[event.clientOrderId]? = some order)
      (hrun : x.run order = (.ok (), order')) :
      Applies config books event (books.putCombo event.clientOrderId order')
  | comboReplayed {execution : BrokerComboExecution} {order : PaperComboOrder}
      (hfind : books.comboOrders[execution.clientOrderId]? = some order)
      (hseen : order.executions[execution.executionId]? = some execution.sortLegs) :
      Applies config books (.comboExecution execution) books
  | comboExecuted {execution : BrokerComboExecution}
      {order confirmed order' : PaperComboOrder} {total : Decimal}
      {booked : Books}
      (hfind : books.comboOrders[execution.clientOrderId]? = some order)
      (hvalid : execution.sortLegs.validate order.oms.intent = .ok ())
      (hnew : order.executions[execution.executionId]? = none)
      (hoverlap : books.overlapsApplied execution.sortLegs = false)
      (htotal : order.filledQuantity.checkedAdd execution.units = .ok total)
      (hfits : ¬order.oms.intent.comboQuantity < total)
      (hconfirm : (PaperComboOrder.confirmExecution
        execution.brokerOrderId).run order = (.ok (), confirmed))
      (hfills : AccountedAll config order.oms.intent.strategyId execution.sortLegs.fills
        (books.putCombo execution.clientOrderId confirmed) booked)
      (hrecord : (PaperComboOrder.recordExecution total
        execution.sortLegs).run confirmed = (.ok (), order')) :
      Applies config books (.comboExecution execution)
        ((booked.noteExecution execution.executionId).putCombo
          execution.clientOrderId order')

section

variable {config : Configuration} {books books' : Books}

variable {event : BrokerEvent} {u : Unit}

theorem applies_of_onOrder {x : OrderM Unit}
    (hplain : event.clientOrderId ∉ books.comboOrders) (hhandler : OrderHandler event x)
    (h : (onOrder event.clientOrderId x).run books = (.ok u, books')) :
    Applies config books event books' := by
  obtain ⟨order, order', hfind, hrun, rfl⟩ := onOrder_eq_ok h
  exact .order hplain hhandler hfind hrun

theorem applies_of_onCombo {x : ComboM Unit} (hhandler : ComboHandler event x)
    (h : (onCombo event.clientOrderId x).run books = (.ok u, books')) :
    Applies config books event books' := by
  obtain ⟨order, order', hfind, hrun, rfl⟩ := onCombo_eq_ok h
  exact .combo hhandler hfind hrun

theorem applyExecution_eq_ok {execution : BrokerExecution}
    (hplain : execution.clientOrderId ∉ books.comboOrders)
    (h : (applyExecution config execution).run books = (.ok u, books')) :
    Applies config books (.execution execution) books' := by
  simp only [applyExecution, run_lift_bind_eq_ok, refuseIf_eq_ok,
    validateCanonicalId_eq_ok, validateUtcTimestamp_eq_ok, exists_const,
    run_read_bind, not_or, le_def, lt_def,
    scaled_zero] at h
  obtain ⟨hid, -, hbroker, htime, ⟨hquantity, hprice, hfee⟩, h⟩ := h
  split at h
  · next hseen =>
      rw [run_pure, Prod.mk.injEq] at h
      rw [← h.2]
      exact .replayed hplain hseen
  · next hnew =>
      obtain ⟨⟨fill, strategyId⟩, next, horder, h⟩ :=
        run_bind_eq_ok.mp h
      obtain ⟨order, order', hfind, hrun, rfl⟩ := onOrder_eq_ok horder
      rw [run_update_bind] at h
      exact .executed hplain
        ⟨hid, hbroker, htime, by omega, by omega, by omega⟩ hnew hfind hrun
        (applyAccountedFill_eq_ok h)

theorem applyPlainEvent_eq_ok (hplain : event.clientOrderId ∉ books.comboOrders)
    (h : (applyPlainEvent config event).run books = (.ok u, books')) :
    Applies config books event books' := by
  cases event with
  | comboExecution execution => simp [applyPlainEvent] at h
  | execution execution => exact applyExecution_eq_ok hplain h
  | acknowledged clientOrderId brokerOrderId =>
    simp only [applyPlainEvent, run_lift_bind_eq_ok,
      validateCanonicalId_eq_ok, exists_const] at h
    exact applies_of_onOrder hplain (.acknowledged h.2.1) h.2.2
  | cancelled clientOrderId reason =>
    simp only [applyPlainEvent, run_lift_bind_eq_ok] at h
    obtain ⟨_, -, _, -, h⟩ := h
    exact applies_of_onOrder hplain (.cancelled clientOrderId reason) h
  | cancelRejected clientOrderId reason =>
    simp only [applyPlainEvent, run_lift_bind_eq_ok] at h
    obtain ⟨_, -, _, -, h⟩ := h
    exact applies_of_onOrder hplain (.cancelRejected clientOrderId reason) h
  | expired clientOrderId reason =>
    simp only [applyPlainEvent, run_lift_bind_eq_ok] at h
    obtain ⟨_, -, _, -, h⟩ := h
    exact applies_of_onOrder hplain (.expired clientOrderId reason) h
  | replaceRequested clientOrderId previousBrokerOrderId =>
    simp only [applyPlainEvent, run_lift_bind_eq_ok] at h
    obtain ⟨_, -, _, -, h⟩ := h
    exact applies_of_onOrder hplain
      (.replaceRequested clientOrderId previousBrokerOrderId) h
  | replaced clientOrderId previousBrokerOrderId brokerOrderId =>
    simp only [applyPlainEvent, run_lift_bind_eq_ok,
      validateCanonicalId_eq_ok, exists_const] at h
    exact applies_of_onOrder hplain (.replaced h.2.2.1) h.2.2.2
  | replaceRejected clientOrderId reason =>
    simp only [applyPlainEvent, run_lift_bind_eq_ok,
      validateBrokerReason_eq_ok, exists_const] at h
    obtain ⟨_, -, hreason, h⟩ := h
    exact applies_of_onOrder hplain (.replaceRejected hreason) h
  | rejected clientOrderId reason =>
    simp only [applyPlainEvent, run_lift_bind_eq_ok] at h
    obtain ⟨_, -, _, -, h⟩ := h
    exact applies_of_onOrder hplain (.rejected clientOrderId reason) h

theorem applyComboExecution_eq_ok {execution : BrokerComboExecution}
    (h : (applyComboExecution config execution.clientOrderId
      execution.sortLegs).run books = (.ok u, books')) :
    Applies config books (.comboExecution execution) books' := by
  simp only [applyComboExecution, run_read_bind] at h
  split at h
  · simp at h
  · next order hfind =>
      rw [run_lift_bind_eq_ok] at h
      obtain ⟨_, hvalid, h⟩ := h
      split at h
      · next previous hprevious =>
          rw [run_lift, Prod.mk.injEq, refuseIf_eq_ok,
            Decidable.not_not] at h
          rw [← h.2]
          refine .comboReplayed hfind ?_
          rw [← h.1]
          exact hprevious
      · next hnew =>
          simp only [run_lift_bind_eq_ok, refuseIf_eq_ok,
            exists_const, not_eq_true] at h
          obtain ⟨hoverlap, total, htotal, hfits, h⟩ := h
          obtain ⟨_, _, hfirst, h⟩ := run_bind_eq_ok.mp h
          obtain ⟨order₁, confirmed, hfind₁, hconfirm, rfl⟩ :=
            onCombo_eq_ok hfirst
          obtain ⟨_, booked, hfills, h⟩ := run_bind_eq_ok.mp h
          have hfills := applyFills_eq_ok hfills
          rw [run_update_bind] at h
          obtain ⟨order₂, order', hfind₂, hrecord, rfl⟩ := onCombo_eq_ok h
          have horder₁ : order₁ = order := by
            rw [hfind] at hfind₁
            exact (Option.some.inj hfind₁).symm
          have horder₂ : order₂ = confirmed := by
            rw [hfills.comboOrders] at hfind₂
            simpa [putCombo, eq_comm] using hfind₂
          subst horder₁ horder₂
          exact .comboExecuted hfind hvalid hnew hoverlap htotal hfits
            hconfirm hfills hrecord

theorem applyComboEvent_eq_ok
    (h : (applyComboEvent config event).run books = (.ok u, books')) :
    Applies config books event books' := by
  simp only [applyComboEvent, run_lift_bind_eq_ok] at h
  obtain ⟨_, -, h⟩ := h
  cases event with
  | comboExecution execution => exact applyComboExecution_eq_ok h
  | acknowledged clientOrderId brokerOrderId =>
    exact applies_of_onCombo (.acknowledged clientOrderId brokerOrderId) h
  | cancelRejected clientOrderId reason =>
    simp only [run_lift_bind_eq_ok] at h
    obtain ⟨_, -, h⟩ := h
    exact applies_of_onCombo (.cancelRejected clientOrderId reason) h
  | cancelled clientOrderId reason =>
    simp only [finishComboAs, run_lift_bind_eq_ok] at h
    obtain ⟨_, -, h⟩ := h
    exact applies_of_onCombo (.cancelled clientOrderId reason) h
  | expired clientOrderId reason =>
    simp only [finishComboAs, run_lift_bind_eq_ok] at h
    obtain ⟨_, -, h⟩ := h
    exact applies_of_onCombo (.expired clientOrderId reason) h
  | rejected clientOrderId reason =>
    simp only [finishComboAs, run_lift_bind_eq_ok] at h
    obtain ⟨_, -, h⟩ := h
    exact applies_of_onCombo (.rejected clientOrderId reason) h
  | execution execution => simp at h
  | replaceRequested clientOrderId previousBrokerOrderId => simp at h
  | replaced clientOrderId previousBrokerOrderId brokerOrderId => simp at h
  | replaceRejected clientOrderId reason => simp at h

theorem applyBrokerEvent_eq_ok
    (h : (applyBrokerEvent config event).run books = (.ok u, books')) :
    Applies config books event books' := by
  rw [applyBrokerEvent, run_read_bind] at h
  split at h
  · exact applyComboEvent_eq_ok h
  · next hplain => exact applyPlainEvent_eq_ok hplain h

end

end Books

end Follon.Paper
