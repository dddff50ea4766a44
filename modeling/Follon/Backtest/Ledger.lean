import Follon.Accounting.TaxLots
import Follon.Domain.Market

/-!
# The backtest ledger

Cash, positions and FIFO lots of one backtest, booked from fills and corporate
actions.  A booking that fails keeps what it wrote before the failing step.
-/

namespace Follon.Backtest

open Foundation Domain Accounting

structure LedgerPosition where
  instrumentId : String
  (quantity averageCost realizedPnl : Decimal)
  deriving DecidableEq

def LedgerPosition.flat (instrumentId : String) : LedgerPosition :=
  ⟨instrumentId, Decimal.zero, Decimal.zero, Decimal.zero⟩

structure AccountingEntry where
  (entryId occurredAt entryType instrumentId : String)
  (quantityDelta cashDelta : Decimal)
  deriving DecidableEq

structure BacktestLedger where
  currency : String
  cash : Decimal
  positions : OrderedMap String LedgerPosition
  taxLots : TaxLotBook
  (executionIds corporateActionIds : OrderedSet String)
  entries : List AccountingEntry
  (fees dividends : Decimal)

structure BacktestReport where
  currency : String
  (cash realizedPnl unrealizedPnl marketValue totalEquity : Decimal)
  positions : List LedgerPosition
  (totalFees totalDividends : Decimal)

abbrev Deltas : Type :=
  Decimal × Decimal

abbrev LedgerM (α : Type) : Type :=
  Fallible BacktestLedger PaperError α

namespace BacktestLedger

def new (currency : String) (initialCash : Decimal) : Result BacktestLedger := do
  refuseIf (isCurrencyCode currency = false ∨ initialCash < Decimal.zero)
    "invalid opening ledger balance"
  pure
    { currency
      cash := initialCash
      positions := ∅
      taxLots := .empty
      executionIds := ∅
      corporateActionIds := ∅
      entries := []
      fees := Decimal.zero
      dividends := Decimal.zero }

/-- The position of an instrument; one never traded is flat. -/
def positionOf (ledger : BacktestLedger) (instrumentId : String) : LedgerPosition :=
  ledger.positions[instrumentId]?.getD (.flat instrumentId)

def setPosition (instrumentId : String) (position : LedgerPosition)
    (ledger : BacktestLedger) : BacktestLedger :=
  { ledger with positions := ledger.positions.insert instrumentId position }

def setCash (cash : Decimal) (ledger : BacktestLedger) : BacktestLedger :=
  { ledger with cash }

def setFees (fees : Decimal) (ledger : BacktestLedger) : BacktestLedger :=
  { ledger with fees }

def setDividends (dividends : Decimal) (ledger : BacktestLedger) : BacktestLedger :=
  { ledger with dividends }

def setTaxLots (taxLots : TaxLotBook) (ledger : BacktestLedger) : BacktestLedger :=
  { ledger with taxLots }

def noteExecution (executionId : String) (ledger : BacktestLedger) : BacktestLedger :=
  { ledger with executionIds := ledger.executionIds.insert executionId }

def noteAction (actionId : String) (ledger : BacktestLedger) : BacktestLedger :=
  { ledger with
    corporateActionIds := ledger.corporateActionIds.insert actionId }

def push (entry : AccountingEntry) (ledger : BacktestLedger) : BacktestLedger :=
  { ledger with entries := ledger.entries ++ [entry] }

/-! ## Fills -/

def checkFill (ledger : BacktestLedger) (fill : Fill) : Result Unit := do
  refuseIf (fill.quantity ≤ Decimal.zero ∨ fill.price ≤ Decimal.zero ∨
      fill.fee < Decimal.zero)
    "invalid fill for backtest ledger"
  validateCanonicalId "execution_id" fill.executionId
  validateCanonicalId "order_id" fill.orderId
  validateCanonicalId "instrument_id" fill.instrumentId
  refuseIf (isUtcTimestamp fill.executedAt = false)
    "fill execution time must be UTC"
  refuseIf (fill.executionId ∈ ledger.executionIds)
    "duplicate execution in backtest ledger"

def bookBuy (fill : Fill) (position : LedgerPosition) (gross : Decimal) :
    LedgerM Deltas := do
  let ledger ← Fallible.read
  let requiredCash ← lift (gross.checkedAdd fill.fee)
  lift (refuseIf (ledger.cash < requiredCash) "insufficient simulated cash")
  let priorCost ← lift
    (position.averageCost.checkedMul position.quantity)
  let quantity ← lift (position.quantity.checkedAdd fill.quantity)
  update (setPosition fill.instrumentId { position with quantity })
  let cost ← lift (priorCost.checkedAdd requiredCash)
  let averageCost ← lift (cost.checkedDiv quantity)
  update
    (setPosition fill.instrumentId { position with quantity, averageCost })
  let cash ← lift (ledger.cash.checkedSub requiredCash)
  update (setCash cash)
  let cashDelta ← lift (Decimal.zero.checkedSub requiredCash)
  pure (fill.quantity, cashDelta)

def bookSell (fill : Fill) (position : LedgerPosition) (gross : Decimal) :
    LedgerM Deltas := do
  let ledger ← Fallible.read
  lift (refuseIf (position.quantity < fill.quantity)
    "short positions are not enabled in the first milestone")
  let gain ← lift (fill.price.checkedSub position.averageCost)
  let realized ← lift (gain.checkedMul fill.quantity)
  let net ← lift (realized.checkedSub fill.fee)
  let realizedPnl ← lift (position.realizedPnl.checkedAdd net)
  update (setPosition fill.instrumentId { position with realizedPnl })
  let quantity ← lift (position.quantity.checkedSub fill.quantity)
  let averageCost :=
    if quantity = Decimal.zero then Decimal.zero else position.averageCost
  update (setPosition fill.instrumentId
    { position with quantity, averageCost, realizedPnl })
  let proceeds ← lift (gross.checkedSub fill.fee)
  let cash ← lift (ledger.cash.checkedAdd proceeds)
  update (setCash cash)
  let quantityDelta ← lift (Decimal.zero.checkedSub fill.quantity)
  pure (quantityDelta, proceeds)

def bookPosition (fill : Fill) : LedgerM Deltas := do
  let ledger ← Fallible.read
  let position := ledger.positionOf fill.instrumentId
  update (setPosition fill.instrumentId position)
  let gross ← lift (fill.price.checkedMul fill.quantity)
  match fill.side with
  | .buy => bookBuy fill position gross
  | .sell => bookSell fill position gross

def onTaxLots {α : Type} (x : TaxLotBook.BookM α) : LedgerM α := x.zoom taxLots setTaxLots

def acquireLot (fill : Fill) (currency : Currency) : LedgerM Unit := do
  let gross ← lift (fill.price.checkedMul fill.quantity)
  let total ← lift (gross.checkedAdd fill.fee)
  let unitPrice ← lift (total.checkedDiv fill.quantity)
  (onTaxLots (TaxLotBook.acquire
    { lotId := "taxlot-" ++ fill.executionId, instrumentId := fill.instrumentId
      currency
      openedAt := fill.executedAt
      remainingQuantity := fill.quantity
      unitPrice })).discard

def disposeLots (fill : Fill) (currency : Currency) : LedgerM Unit :=
  (onTaxLots (TaxLotBook.dispose ("taxdisposal-" ++ fill.executionId)
    fill.instrumentId currency fill.quantity fill.price fill.fee
    fill.executedAt .fifo)).discard

def applyTaxLotFill (fill : Fill) : LedgerM Unit := do
  let ledger ← Fallible.read
  let currency ← lift (Currency.new ledger.currency)
  match fill.side with
  | .buy => acquireLot fill currency
  | .sell => disposeLots fill currency

def fillEntry (fill : Fill) (deltas : Deltas) : AccountingEntry where
  entryId := "accounting-" ++ fill.executionId
  occurredAt := fill.executedAt
  entryType := "FILL"
  instrumentId := fill.instrumentId
  quantityDelta := deltas.1
  cashDelta := deltas.2

def applyFill (fill : Fill) : LedgerM Unit := do
  let ledger ← Fallible.read
  lift (ledger.checkFill fill)
  let deltas ← bookPosition fill
  applyTaxLotFill fill
  let ledger ← Fallible.read
  let fees ← lift (ledger.fees.checkedAdd fill.fee)
  update (setFees fees)
  update (noteExecution fill.executionId)
  update (push (fillEntry fill deltas))

/-! ## Corporate actions -/

def checkAction (ledger : BacktestLedger) (action : CorporateAction) : Result Unit := do
  action.validate
  refuseIf (action.actionId ∈ ledger.corporateActionIds)
    "duplicate corporate action in backtest ledger"

def bookSplit (instrumentId : String) (position : LedgerPosition)
    (ratio : Decimal) : LedgerM Deltas := do
  let ledger ← Fallible.read
  let taxLots ← lift (ledger.taxLots.applySplit instrumentId ratio)
  update (setTaxLots taxLots)
  let quantity ← lift (position.quantity.checkedMul ratio)
  update (setPosition instrumentId { position with quantity })
  let averageCost ← lift (position.averageCost.checkedDiv ratio)
  update
    (setPosition instrumentId { position with quantity, averageCost })
  let quantityDelta ← lift (quantity.checkedSub position.quantity)
  pure (quantityDelta, Decimal.zero)

def bookDividend (position : LedgerPosition) (amount : Decimal) : LedgerM Deltas := do
  let ledger ← Fallible.read
  let cashDelta ← lift (position.quantity.checkedMul amount)
  let cash ← lift (ledger.cash.checkedAdd cashDelta)
  update (setCash cash)
  let dividends ← lift (ledger.dividends.checkedAdd cashDelta)
  update (setDividends dividends)
  pure (Decimal.zero, cashDelta)

def bookAction (position : LedgerPosition) : CorporateAction → LedgerM Deltas
  | .split _ instrumentId _ ratio => bookSplit instrumentId position ratio
  | .cashDividend _ _ _ amount => bookDividend position amount

def actionType : CorporateAction → String
  | .split .. => "SPLIT"
  | .cashDividend .. => "CASH_DIVIDEND"

def actionEntry (action : CorporateAction) (deltas : Deltas) : AccountingEntry where
  entryId := "accounting-" ++ action.actionId
  occurredAt := action.effectiveAt
  entryType := actionType action
  instrumentId := action.instrumentId
  quantityDelta := deltas.1
  cashDelta := deltas.2

def applyCorporateAction (action : CorporateAction) : LedgerM Unit := do
  let ledger ← Fallible.read
  lift (ledger.checkAction action)
  match ledger.positions[action.instrumentId]? with
  | none => update (noteAction action.actionId)
  | some position => do
    let deltas ← bookAction position action
    update (noteAction action.actionId)
    update (push (actionEntry action deltas))

/-! ## Reports -/

structure Valuation where
  (unrealized realized marketValue : Decimal)

def findMark (marks : OrderedMap String Decimal) (instrumentId : String) :
    Result Decimal :=
  match marks[instrumentId]? with
  | some mark => pure mark
  | none => .error ⟨"missing mark for " ++ instrumentId⟩

def addPosition (marks : OrderedMap String Decimal) (valuation : Valuation)
    (position : LedgerPosition) : Result Valuation := do
  let mark ← findMark marks position.instrumentId
  let gain ← mark.checkedSub position.averageCost
  let open_ ← gain.checkedMul position.quantity
  let unrealized ← valuation.unrealized.checkedAdd open_
  let realized ← valuation.realized.checkedAdd position.realizedPnl
  let value ← mark.checkedMul position.quantity
  let marketValue ← valuation.marketValue.checkedAdd value
  pure { unrealized, realized, marketValue }

def report (ledger : BacktestLedger) (marks : OrderedMap String Decimal) :
    Result BacktestReport := do
  let valuation ← ledger.positions.values.foldlM (addPosition marks)
    ⟨Decimal.zero, Decimal.zero, Decimal.zero⟩
  let totalEquity ← ledger.cash.checkedAdd valuation.marketValue
  pure
    { currency := ledger.currency, cash := ledger.cash
      realizedPnl := valuation.realized, unrealizedPnl := valuation.unrealized
      marketValue := valuation.marketValue
      totalEquity
      positions := ledger.positions.values
      totalFees := ledger.fees
      totalDividends := ledger.dividends }

end BacktestLedger

/-! ## Runs -/

inductive LedgerOperation where
  | fill (booked : Fill)
  | corporateAction (action : CorporateAction)

def LedgerOperation.apply : LedgerOperation → LedgerM Unit
  | .fill booked => BacktestLedger.applyFill booked
  | .corporateAction action => BacktestLedger.applyCorporateAction action

/-- Successful bookings in a row, each `allowed` where it is made. -/
inductive Bookings
    (allowed : BacktestLedger → LedgerOperation → Prop)
    (start : BacktestLedger) : List LedgerOperation → BacktestLedger → Prop
  | none : Bookings allowed start [] start
  | snoc {operations : List LedgerOperation} {ledger ledger' : BacktestLedger}
      {operation : LedgerOperation} (h : Bookings allowed start operations ledger)
      (hallowed : allowed ledger operation)
      (hrun : operation.apply.run ledger = (.ok (), ledger')) :
      Bookings allowed start (operations ++ [operation]) ledger'

end Follon.Backtest
