import Follon.Accounting.Margin
import Follon.Domain.Market

/-!
# The advanced backtest account

Cash in several currencies, signed positions and an independent book of FIFO
lots.  Every operation keeps what it wrote before a failing step, except the
fill with a capital check, which works on a copy.
-/

namespace Follon.Backtest

open Foundation Domain Accounting

structure BacktestExecutionCharges where
  (commission exchange regulatory : Decimal)
  deriving DecidableEq

namespace BacktestExecutionCharges

def none : BacktestExecutionCharges := ⟨Decimal.zero, Decimal.zero, Decimal.zero⟩

def total (charges : BacktestExecutionCharges) : Result Decimal := do
  refuseIf (charges.commission < Decimal.zero ∨
      charges.exchange < Decimal.zero ∨ charges.regulatory < Decimal.zero)
    "execution charges cannot be negative"
  let sum ← charges.commission.checkedAdd charges.exchange
  sum.checkedAdd charges.regulatory

end BacktestExecutionCharges

structure AdvancedInstrumentTerms where
  currency : Currency
  assetClass : String
  multiplier : Decimal
  shortable : Bool
  borrowAvailable : Decimal
  borrowRateBps : Nat
  deriving DecidableEq

def AdvancedInstrumentTerms.validate (terms : AdvancedInstrumentTerms) : Result Unit := do
  validateCanonicalId "backtest asset_class" terms.assetClass
  refuseIf (terms.multiplier ≤ Decimal.zero ∨
      terms.borrowAvailable < Decimal.zero ∨ 1000000 < terms.borrowRateBps ∨
      terms.shortable = false ∧
        (terms.borrowAvailable ≠ Decimal.zero ∨ terms.borrowRateBps ≠ 0))
    "invalid advanced instrument terms"

structure AdvancedBacktestPosition where
  instrumentId : String
  terms : AdvancedInstrumentTerms
  (quantity averagePrice realizedPnl : Decimal)
  deriving DecidableEq

structure DelistingSettlement where
  (eventId instrumentId effectiveAt : String)
  (closedQuantity settlementPrice cashDelta realizedPnl : Decimal)
  deriving DecidableEq

structure BacktestCapitalCheck where
  marksAfterFill : OrderedMap String Decimal
  fx : FxBook
  policy : MarginPolicy
  asOfEpochSeconds : Int

structure AdvancedBacktestAccount where
  cashByCurrency : OrderedMap Currency Decimal
  positions : OrderedMap String AdvancedBacktestPosition
  (executionIds lifecycleEventIds : OrderedSet String)
  chargesByCurrency : OrderedMap Currency BacktestExecutionCharges
  financingByCurrency : OrderedMap Currency Decimal
  delistings : List DelistingSettlement
  taxLots : TaxLotBook

abbrev AccountM (α : Type) : Type :=
  Fallible AdvancedBacktestAccount PaperError α

namespace AdvancedBacktestAccount

def new (cashByCurrency : OrderedMap Currency Decimal) :
    Result AdvancedBacktestAccount := do
  refuseIf (cashByCurrency.isEmpty = true)
    "advanced backtest account requires cash balances"
  pure
    { cashByCurrency
      positions := ∅
      executionIds := ∅
      lifecycleEventIds := ∅
      chargesByCurrency := ∅
      financingByCurrency := ∅
      delistings := []
      taxLots := .empty }

def cashOf (account : AdvancedBacktestAccount) (currency : Currency) : Decimal :=
  account.cashByCurrency[currency]?.getD Decimal.zero

/-- The signed quantity held; an instrument never traded holds nothing. -/
def heldQuantity (account : AdvancedBacktestAccount) (instrumentId : String) : Decimal :=
  (account.positions[instrumentId]?.map (·.quantity)).getD Decimal.zero

def priorPosition (account : AdvancedBacktestAccount) (instrumentId : String)
    (terms : AdvancedInstrumentTerms) : AdvancedBacktestPosition :=
  account.positions[instrumentId]?.getD
    { instrumentId, terms
      quantity := Decimal.zero
      averagePrice := Decimal.zero
      realizedPnl := Decimal.zero }

def setCash (currency : Currency) (cash : Decimal)
    (account : AdvancedBacktestAccount) : AdvancedBacktestAccount :=
  { account with cashByCurrency := account.cashByCurrency.insert currency cash }

def setPosition (instrumentId : String) (position : AdvancedBacktestPosition)
    (account : AdvancedBacktestAccount) : AdvancedBacktestAccount :=
  { account with positions := account.positions.insert instrumentId position }

def setTaxLots (taxLots : TaxLotBook) (account : AdvancedBacktestAccount) :
    AdvancedBacktestAccount :=
  { account with taxLots }

def setCharges (currency : Currency) (charges : BacktestExecutionCharges)
    (account : AdvancedBacktestAccount) : AdvancedBacktestAccount :=
  { account with
    chargesByCurrency := account.chargesByCurrency.insert currency charges }

def setFinancing (currency : Currency) (charge : Decimal)
    (account : AdvancedBacktestAccount) : AdvancedBacktestAccount :=
  { account with
    financingByCurrency := account.financingByCurrency.insert currency charge }

def noteExecution (executionId : String) (account : AdvancedBacktestAccount) :
    AdvancedBacktestAccount :=
  { account with executionIds := account.executionIds.insert executionId }

def noteLifecycleEvent (eventId : String)
    (account : AdvancedBacktestAccount) : AdvancedBacktestAccount :=
  { account with
    lifecycleEventIds := account.lifecycleEventIds.insert eventId }

def pushDelisting (settlement : DelistingSettlement)
    (account : AdvancedBacktestAccount) : AdvancedBacktestAccount :=
  { account with delistings := account.delistings ++ [settlement] }

/-! ## Fills -/

def checkFill (account : AdvancedBacktestAccount) (fill : Fill)
    (terms : AdvancedInstrumentTerms) (charges : BacktestExecutionCharges) :
    Result Unit := do
  terms.validate
  validateCanonicalId "execution_id" fill.executionId
  validateCanonicalId "order_id" fill.orderId
  validateCanonicalId "instrument_id" fill.instrumentId
  validateUtcTimestamp "fill executed_at" fill.executedAt
  refuseIf (fill.quantity ≤ Decimal.zero ∨ fill.price ≤ Decimal.zero ∨
      fill.fee < Decimal.zero)
    "invalid, duplicate, or unattributed advanced fill"
  let total ← charges.total
  refuseIf (total ≠ fill.fee ∨ fill.executionId ∈ account.executionIds)
    "invalid, duplicate, or unattributed advanced fill"

def signedQuantity (fill : Fill) : Result Decimal :=
  match fill.side with
  | .buy => pure fill.quantity
  | .sell => Decimal.zero.checkedSub fill.quantity

def checkBorrow (terms : AdvancedInstrumentTerms)
    (projectedQuantity : Decimal) : Result Unit :=
  if projectedQuantity < Decimal.zero then do
    refuseIf (terms.shortable = false)
      "short sale exceeds explicit borrow availability"
    let borrowed ← magnitude projectedQuantity
    refuseIf (terms.borrowAvailable < borrowed)
      "short sale exceeds explicit borrow availability"
  else
    pure ()

def fillCashDelta (fill : Fill) (terms : AdvancedInstrumentTerms) : Result Decimal := do
  let notional ← fill.price.checkedMul fill.quantity
  let gross ← notional.checkedMul terms.multiplier
  match fill.side with
  | .buy => do
    let cost ← gross.checkedAdd fill.fee
    Decimal.zero.checkedSub cost
  | .sell => gross.checkedSub fill.fee

structure FillProjection where
  prior : AdvancedBacktestPosition
  (signedFill projectedQuantity cashDelta : Decimal)

def projectFill (account : AdvancedBacktestAccount) (fill : Fill)
    (terms : AdvancedInstrumentTerms) (charges : BacktestExecutionCharges) :
    Result FillProjection := do
  account.checkFill fill terms charges
  let prior := account.priorPosition fill.instrumentId terms
  refuseIf (prior.terms ≠ terms)
    "instrument terms changed inside an open simulation position"
  let signedFill ← signedQuantity fill
  let projectedQuantity ← prior.quantity.checkedAdd signedFill
  checkBorrow terms projectedQuantity
  let cashDelta ← fillCashDelta fill terms
  pure { prior, signedFill, projectedQuantity, cashDelta }

def onTaxLots {α : Type} (x : TaxLotBook.BookM α) : AccountM Unit :=
  (x.zoom taxLots setTaxLots).discard

def openingUnitPrice (fill : Fill) (quantity fee : Decimal) : Result Decimal := do
  let gross ← fill.price.checkedMul quantity
  match fill.side with
  | .buy => do
    let cost ← gross.checkedAdd fee
    cost.checkedDiv quantity
  | .sell => do
    let proceeds ← gross.checkedSub fee
    proceeds.checkedDiv quantity

def openingLot (fill : Fill) (terms : AdvancedInstrumentTerms)
    (quantity unitPrice : Decimal) : TaxLot where
  lotId := "taxlot-" ++ fill.executionId
  instrumentId := fill.instrumentId
  currency := terms.currency
  openedAt := fill.executedAt
  remainingQuantity := quantity
  unitPrice := unitPrice

def applyTaxLotOpen (fill : Fill) (terms : AdvancedInstrumentTerms)
    (quantity fee : Decimal) : AccountM Unit := do
  let unitPrice ← lift (openingUnitPrice fill quantity fee)
  match fill.side with
  | .buy =>
    onTaxLots (TaxLotBook.acquire (openingLot fill terms quantity unitPrice))
  | .sell =>
    onTaxLots
      (TaxLotBook.openShort (openingLot fill terms quantity unitPrice))

def applyTaxLotClose (fill : Fill) (terms : AdvancedInstrumentTerms)
    (closingLong : Bool) (quantity fee : Decimal) : AccountM Unit :=
  if closingLong then
    onTaxLots (TaxLotBook.dispose ("taxdisposal-" ++ fill.executionId)
      fill.instrumentId terms.currency quantity fill.price fee fill.executedAt
      .fifo)
  else
    onTaxLots (TaxLotBook.cover ("taxcover-" ++ fill.executionId)
      fill.instrumentId terms.currency quantity fill.price fee fill.executedAt
      .fifo)

def extendedAveragePrice (fill : Fill) (projection : FillProjection) :
    Result Decimal := do
  let priorUnits ← magnitude projection.prior.quantity
  let projectedUnits ← magnitude projection.projectedQuantity
  let priorCost ← projection.prior.averagePrice.checkedMul priorUnits
  let notional ← fill.price.checkedMul fill.quantity
  let cost ← priorCost.checkedAdd notional
  cost.checkedDiv projectedUnits

def extendPosition (fill : Fill) (terms : AdvancedInstrumentTerms)
    (projection : FillProjection) : AccountM AdvancedBacktestPosition := do
  let averagePrice ← lift (extendedAveragePrice fill projection)
  applyTaxLotOpen fill terms fill.quantity fill.fee
  pure { projection.prior with
    averagePrice, quantity := projection.projectedQuantity }

def reducedAveragePrice (fill : Fill) (prior : AdvancedBacktestPosition)
    (projectedQuantity : Decimal) : Decimal :=
  if projectedQuantity = Decimal.zero then
    Decimal.zero
  else if
      Decimal.zero < prior.quantity ∧ projectedQuantity < Decimal.zero ∨
        prior.quantity < Decimal.zero ∧ Decimal.zero < projectedQuantity then
    fill.price
  else
    prior.averagePrice

structure FillLegs where
  (closing closingFee remainder remainderFee realizedPnl : Decimal)

def closingDirection (fill : Fill) (prior : AdvancedBacktestPosition) : Result Decimal :=
  if Decimal.zero < prior.quantity then
    fill.price.checkedSub prior.averagePrice
  else
    prior.averagePrice.checkedSub fill.price

def closingFee (fill : Fill) (closing remainder : Decimal) : Result Decimal :=
  if remainder = Decimal.zero then
    pure fill.fee
  else do
    let share ← fill.fee.checkedMul closing
    share.checkedDiv fill.quantity

def fillLegs (fill : Fill) (terms : AdvancedInstrumentTerms)
    (prior : AdvancedBacktestPosition) : Result FillLegs := do
  let units ← magnitude prior.quantity
  let closing := units.min fill.quantity
  let direction ← closingDirection fill prior
  let moved ← direction.checkedMul closing
  let gain ← moved.checkedMul terms.multiplier
  let realizedPnl ← prior.realizedPnl.checkedAdd gain
  let remainder ← fill.quantity.checkedSub closing
  let closingFee ← closingFee fill closing remainder
  let remainderFee ← fill.fee.checkedSub closingFee
  pure { closing, closingFee, remainder, remainderFee, realizedPnl }

def openRemainder (fill : Fill) (terms : AdvancedInstrumentTerms)
    (legs : FillLegs) : AccountM Unit :=
  if Decimal.zero < legs.remainder then
    applyTaxLotOpen fill terms legs.remainder legs.remainderFee
  else
    pure ()

def reducePosition (fill : Fill) (terms : AdvancedInstrumentTerms)
    (projection : FillProjection) : AccountM AdvancedBacktestPosition := do
  let prior := projection.prior
  let legs ← lift (fillLegs fill terms prior)
  applyTaxLotClose fill terms (Decimal.zero < prior.quantity) legs.closing
    legs.closingFee
  openRemainder fill terms legs
  pure { prior with
    realizedPnl := legs.realizedPnl
    averagePrice :=
      reducedAveragePrice fill prior projection.projectedQuantity
    quantity := projection.projectedQuantity }

def sameDirection (projection : FillProjection) : Bool :=
  projection.prior.quantity = Decimal.zero ∨ Decimal.zero < projection.prior.quantity ∧
      Decimal.zero < projection.signedFill ∨
    projection.prior.quantity < Decimal.zero ∧ projection.signedFill < Decimal.zero

def bookPosition (fill : Fill) (terms : AdvancedInstrumentTerms)
    (projection : FillProjection) : AccountM AdvancedBacktestPosition :=
  if sameDirection projection then
    extendPosition fill terms projection
  else
    reducePosition fill terms projection

def bookCharges (currency : Currency) (charges : BacktestExecutionCharges) :
    AccountM Unit := do
  let account ← Fallible.read
  let totals := account.chargesByCurrency[currency]?.getD .none
  update (setCharges currency totals)
  let commission ← lift
    (totals.commission.checkedAdd charges.commission)
  update (setCharges currency { totals with commission })
  let exchange ← lift (totals.exchange.checkedAdd charges.exchange)
  update (setCharges currency { totals with commission, exchange })
  let regulatory ← lift
    (totals.regulatory.checkedAdd charges.regulatory)
  update (setCharges currency { commission, exchange, regulatory })

def applyFill (fill : Fill) (terms : AdvancedInstrumentTerms)
    (charges : BacktestExecutionCharges) : AccountM Unit := do
  let account ← Fallible.read
  let projection ← lift (account.projectFill fill terms charges)
  let position ← bookPosition fill terms projection
  let cash ← lift
    ((account.cashOf terms.currency).checkedAdd projection.cashDelta)
  update (setCash terms.currency cash)
  update (setPosition fill.instrumentId position)
  update (noteExecution fill.executionId)
  bookCharges terms.currency charges

/-! ## Valuation -/

def findMark (marks : OrderedMap String Decimal) (instrumentId message : String) :
    Result Decimal :=
  match marks[instrumentId]? with
  | some mark => pure mark
  | none => .error ⟨message ++ instrumentId⟩

def marginPosition (marks : OrderedMap String Decimal)
    (position : AdvancedBacktestPosition) : Result MarginPosition := do
  let markPrice ← findMark marks position.instrumentId "missing mark for "
  pure
    { instrumentId := position.instrumentId
      assetClass := position.terms.assetClass
      currency := position.terms.currency, quantity := position.quantity
      markPrice
      multiplier := position.terms.multiplier }

def marginSnapshot (account : AdvancedBacktestAccount)
    (marks : OrderedMap String Decimal) (fx : FxBook) (policy : MarginPolicy)
    (asOf : Int) : Result MarginSnapshot := do
  let held := account.positions.values.filter fun position =>
    position.quantity ≠ Decimal.zero
  let positions ← held.mapM (marginPosition marks)
  valueMarginAccount account.cashByCurrency positions fx policy asOf

/-- The fill is applied to a copy, which replaces the account when it keeps
the initial margin. -/
def applyFillWithCapitalCheck (fill : Fill) (terms : AdvancedInstrumentTerms)
    (charges : BacktestExecutionCharges) (capital : BacktestCapitalCheck) :
    AccountM Unit := do
  let account ← Fallible.read
  let projected := (applyFill fill terms charges).run account
  lift projected.1
  let snapshot ← lift (projected.2.marginSnapshot
    capital.marksAfterFill capital.fx capital.policy capital.asOfEpochSeconds)
  lift (refuseIf (snapshot.excessLiquidity < Decimal.zero)
    "fill exceeds portfolio-level simulated capital")
  update fun _ => projected.2

/-! ## Financing -/

def debitBalance (rates : OrderedMap Currency Nat)
    (entry : Currency × Decimal) : Result FinancingBalance :=
  match rates[entry.1]? with
  | none => .error ⟨"missing cash-debit rate for " ++ entry.1.code⟩
  | some rate => do
    let principal ← magnitude entry.2
    pure
      { referenceId := "cash-debit." ++ entry.1.code.map Char.toLower
        kind := .cashDebit, currency := entry.1
        principal
        annualRateBps := rate }

def borrowBalance (marks : OrderedMap String Decimal)
    (position : AdvancedBacktestPosition) : Result FinancingBalance := do
  let mark ← findMark marks position.instrumentId "missing financing mark for "
  refuseIf (mark ≤ Decimal.zero) "financing marks must be positive"
  let borrowed ← magnitude position.quantity
  let value ← borrowed.checkedMul mark
  let principal ← value.checkedMul position.terms.multiplier
  pure
    { referenceId := "short-borrow." ++ position.instrumentId
      kind := .shortBorrow, currency := position.terms.currency
      principal
      annualRateBps := position.terms.borrowRateBps }

def financingBalances (account : AdvancedBacktestAccount)
    (marks : OrderedMap String Decimal) (rates : OrderedMap Currency Nat) :
    Result (List FinancingBalance) := do
  let debits ← (account.cashByCurrency.toList.filter
    fun entry => entry.2 < Decimal.zero).mapM (debitBalance rates)
  let borrows ← (account.positions.values.filter
    fun position => position.quantity < Decimal.zero).mapM (borrowBalance marks)
  pure (debits ++ borrows)

def chargeFinancing : List (Currency × Decimal) → AccountM Unit
  | [] => pure ()
  | (currency, charge) :: charges => do
    let account ← Fallible.read
    let cash ← lift ((account.cashOf currency).checkedSub charge)
    update (setCash currency cash)
    let prior := account.financingByCurrency[currency]?.getD Decimal.zero
    let total ← lift (prior.checkedAdd charge)
    update (setFinancing currency total)
    chargeFinancing charges

def accrueFinancing (accrualId : String) (days dayCountBasis : Nat)
    (marks : OrderedMap String Decimal) (rates : OrderedMap Currency Nat) :
    AccountM (OrderedMap Currency Decimal) := do
  let account ← Fallible.read
  lift (validateCanonicalId "financing accrual_id" accrualId)
  lift (refuseIf (accrualId ∈ account.lifecycleEventIds) "duplicate financing accrual")
  let balances ← lift (account.financingBalances marks rates)
  let accrual ← lift
    (Accounting.accrueFinancing balances days dayCountBasis)
  chargeFinancing accrual.chargesByCurrency.toList
  update (noteLifecycleEvent accrualId)
  pure accrual.chargesByCurrency

/-! ## Corporate actions -/

def checkAction (account : AdvancedBacktestAccount)
    (action : CorporateAction) : Result Unit := do
  action.validate
  refuseIf (action.actionId ∈ account.lifecycleEventIds)
    "duplicate advanced corporate action"

def bookSplit (position : AdvancedBacktestPosition) (instrumentId : String)
    (ratio : Decimal) : AccountM Unit := do
  let account ← Fallible.read
  let taxLots ← lift (account.taxLots.applySplit instrumentId ratio)
  update (setTaxLots taxLots)
  let quantity ← lift (position.quantity.checkedMul ratio)
  update (setPosition instrumentId { position with quantity })
  if quantity = Decimal.zero then
    pure ()
  else do
    let averagePrice ← lift (position.averagePrice.checkedDiv ratio)
    update
      (setPosition instrumentId { position with quantity, averagePrice })

def bookDividend (position : AdvancedBacktestPosition) (amount : Decimal) :
    AccountM Unit := do
  let account ← Fallible.read
  let value ← lift (position.quantity.checkedMul amount)
  let cashDelta ← lift (value.checkedMul position.terms.multiplier)
  let cash ← lift
    ((account.cashOf position.terms.currency).checkedAdd cashDelta)
  update (setCash position.terms.currency cash)

def bookAction (position : AdvancedBacktestPosition) : CorporateAction → AccountM Unit
  | .split _ instrumentId _ ratio => bookSplit position instrumentId ratio
  | .cashDividend _ _ _ amount => bookDividend position amount

def applyCorporateAction (action : CorporateAction) : AccountM Unit := do
  let account ← Fallible.read
  lift (account.checkAction action)
  match account.positions[action.instrumentId]? with
  | none => update (noteLifecycleEvent action.actionId)
  | some position => do
    bookAction position action
    update (noteLifecycleEvent action.actionId)

/-! ## Delistings -/

def findDelisted (account : AdvancedBacktestAccount)
    (eventId instrumentId effectiveAt : String) (settlementPrice : Decimal) :
    Result AdvancedBacktestPosition := do
  validateCanonicalId "delisting event_id" eventId
  validateCanonicalId "delisting instrument_id" instrumentId
  validateUtcTimestamp "delisting effective_at" effectiveAt
  refuseIf (settlementPrice < Decimal.zero ∨ eventId ∈ account.lifecycleEventIds)
    "invalid or duplicate delisting settlement"
  match account.positions[instrumentId]? with
  | none => .error ⟨"delisting has no tracked position"⟩
  | some position => do
    refuseIf (position.quantity = Decimal.zero)
      "delisting position is already closed"
    pure position

def settlementAmounts (position : AdvancedBacktestPosition)
    (settlementPrice : Decimal) : Result (Decimal × Decimal × Decimal) := do
  let value ← settlementPrice.checkedMul position.quantity
  let cashDelta ← value.checkedMul position.terms.multiplier
  let gain ← settlementPrice.checkedSub position.averagePrice
  let moved ← gain.checkedMul position.quantity
  let realized ← moved.checkedMul position.terms.multiplier
  let realizedPnl ← position.realizedPnl.checkedAdd realized
  pure (cashDelta, realized, realizedPnl)

def settleDelisting (eventId instrumentId effectiveAt : String)
    (settlementPrice : Decimal) : AccountM DelistingSettlement := do
  let account ← Fallible.read
  let position ← lift
    (account.findDelisted eventId instrumentId effectiveAt settlementPrice)
  let amounts ← lift (settlementAmounts position settlementPrice)
  update (setPosition instrumentId { position with
    realizedPnl := amounts.2.2, quantity := Decimal.zero
    averagePrice := Decimal.zero })
  let cash ← lift
    ((account.cashOf position.terms.currency).checkedAdd amounts.1)
  update (setCash position.terms.currency cash)
  let settlement : DelistingSettlement :=
    { eventId, instrumentId, effectiveAt
      closedQuantity := position.quantity
      settlementPrice
      cashDelta := amounts.1
      realizedPnl := amounts.2.1 }
  update (noteLifecycleEvent eventId)
  update (pushDelisting settlement)
  pure settlement

end AdvancedBacktestAccount

/-! ## Operations -/

inductive AdvancedOperation where
  | fill (booked : Fill) (terms : AdvancedInstrumentTerms)
      (charges : BacktestExecutionCharges)
  | fillWithCapitalCheck (booked : Fill) (terms : AdvancedInstrumentTerms)
      (charges : BacktestExecutionCharges) (capital : BacktestCapitalCheck)
  | accrueFinancing (accrualId : String) (days dayCountBasis : Nat)
      (marks : OrderedMap String Decimal) (rates : OrderedMap Currency Nat)
  | corporateAction (action : CorporateAction)
  | settleDelisting (eventId instrumentId effectiveAt : String)
      (settlementPrice : Decimal)

def AdvancedOperation.apply : AdvancedOperation → AccountM Unit
  | .fill booked terms charges =>
    AdvancedBacktestAccount.applyFill booked terms charges
  | .fillWithCapitalCheck booked terms charges capital =>
    AdvancedBacktestAccount.applyFillWithCapitalCheck booked terms charges
      capital
  | .accrueFinancing accrualId days dayCountBasis marks rates =>
    (AdvancedBacktestAccount.accrueFinancing accrualId days dayCountBasis
      marks rates).discard
  | .corporateAction action =>
    AdvancedBacktestAccount.applyCorporateAction action
  | .settleDelisting eventId instrumentId effectiveAt settlementPrice =>
    (AdvancedBacktestAccount.settleDelisting eventId instrumentId effectiveAt
      settlementPrice).discard

namespace AdvancedBacktestAccount

def Opened (account : AdvancedBacktestAccount) : Prop :=
  ∃ cashByCurrency, new cashByCurrency = .ok account

inductive Operates (allowed : AdvancedBacktestAccount → AdvancedOperation → Prop)
    (account : AdvancedBacktestAccount) : AdvancedBacktestAccount → Prop
  | operate (operation : AdvancedOperation)
      (hallowed : allowed account operation) :
      Operates allowed account (operation.apply.final account)

end AdvancedBacktestAccount

end Follon.Backtest
