import Follon.Accounting.TaxLots

/-!
# Margin valuation

Cash and positions valued in one base currency under explicit rates by asset
class; a missing exchange rate or margin rate is an error, never a zero.
-/

namespace Follon.Accounting

open Foundation Domain

/-! ## Exchange rates -/

structure FxQuote where
  (base quote : Currency)
  quoteRate : Decimal
  observedAtEpochSeconds : Int

abbrev FxBook : Type :=
  OrderedMap Currency (OrderedMap Currency FxQuote)

def i64Max : Int := 2 ^ 63 - 1

def i64Min : Int := -2 ^ 63

def ensureFresh (quote : FxQuote) (asOf maximumAge : Int) : Result Unit := do
  let age := asOf - quote.observedAtEpochSeconds
  refuseIf (age < i64Min ∨ i64Max < age) "FX quote age overflow"
  refuseIf (age < 0 ∨ maximumAge < age)
    ("stale FX rate " ++ quote.base.code ++ "->" ++ quote.quote.code)

def FxBook.find (book : FxBook) (base quote : Currency) : Option FxQuote :=
  book[base]?.bind (·[quote]?)

def FxBook.convert (book : FxBook) (amount : Decimal) (source target : Currency)
    (asOf maximumAge : Int) : Result Decimal := do
  if source = target then
    pure amount
  else do
    refuseIf (maximumAge < 0) "FX maximum age cannot be negative"
    match book.find source target, book.find target source with
    | some quote, _ => do
      ensureFresh quote asOf maximumAge
      amount.checkedMul quote.quoteRate
    | none, some quote => do
      ensureFresh quote asOf maximumAge
      amount.checkedDiv quote.quoteRate
    | none, none =>
      .error ⟨"missing FX rate " ++ source.code ++ "->" ++ target.code⟩

/-! ## Margin -/

structure MarginPosition where
  (instrumentId assetClass : String)
  currency : Currency
  (quantity markPrice multiplier : Decimal)

structure MarginRate where
  (initialBps maintenanceBps : Nat)
  deriving DecidableEq

structure MarginPolicy where
  baseCurrency : Currency
  maximumFxAgeSeconds : Int
  rates : OrderedMap String MarginRate

structure MarginSnapshot where
  baseCurrency : Currency
  (cashValue positionMarketValue netLiquidationValue initialMargin : Decimal)
  (maintenanceMargin excessLiquidity : Decimal)
  marginCall : Bool
  exposureByCurrency : OrderedMap Currency Decimal

structure MarginTotals where
  (positionMarketValue initialMargin maintenanceMargin : Decimal)
  exposureByCurrency : OrderedMap Currency Decimal

def shareBps (value : Decimal) (bps : Nat) : Result Decimal := do
  let rate ← Decimal.fromInteger bps
  let scaled ← value.checkedMul rate
  let tenThousand ← Decimal.fromInteger 10000
  scaled.checkedDiv tenThousand

def addMarginPosition (fx : FxBook) (policy : MarginPolicy) (asOf : Int)
    (totals : MarginTotals) (position : MarginPosition) : Result MarginTotals := do
  validateCanonicalId "instrument_id" position.instrumentId
  refuseIf (position.quantity = Decimal.zero ∨
      position.markPrice ≤ Decimal.zero ∨ position.multiplier ≤ Decimal.zero)
    "invalid margin position"
  match policy.rates[position.assetClass]? with
  | none => .error ⟨"missing margin policy for " ++ position.assetClass⟩
  | some rate => do
    refuseIf (10000 < rate.initialBps ∨
        rate.initialBps < rate.maintenanceBps ∨ rate.maintenanceBps = 0)
      ("invalid margin rates for " ++ position.assetClass)
    let marked ← position.quantity.checkedMul position.markPrice
    let localValue ← marked.checkedMul position.multiplier
    let held := totals.exposureByCurrency[position.currency]?.getD Decimal.zero
    let localExposure ← held.checkedAdd localValue
    let baseValue ← fx.convert localValue position.currency
      policy.baseCurrency asOf policy.maximumFxAgeSeconds
    let positionMarketValue ←
      totals.positionMarketValue.checkedAdd baseValue
    let absoluteValue ← magnitude baseValue
    let initial ← shareBps absoluteValue rate.initialBps
    let initialMargin ← totals.initialMargin.checkedAdd initial
    let maintenance ← shareBps absoluteValue rate.maintenanceBps
    let maintenanceMargin ← totals.maintenanceMargin.checkedAdd maintenance
    pure
      { positionMarketValue, initialMargin, maintenanceMargin
        exposureByCurrency :=
          totals.exposureByCurrency.insert position.currency localExposure }

def addCash (fx : FxBook) (policy : MarginPolicy) (asOf : Int)
    (total : Decimal) (entry : Currency × Decimal) : Result Decimal := do
  let value ← fx.convert entry.2 entry.1 policy.baseCurrency asOf
    policy.maximumFxAgeSeconds
  total.checkedAdd value

def valueMarginAccount (cashByCurrency : OrderedMap Currency Decimal)
    (positions : List MarginPosition) (fx : FxBook) (policy : MarginPolicy)
    (asOf : Int) : Result MarginSnapshot := do
  refuseIf (policy.maximumFxAgeSeconds < 0 ∨ policy.rates.isEmpty = true)
    "invalid margin policy"
  let cashValue ← cashByCurrency.toList.foldlM (addCash fx policy asOf)
    Decimal.zero
  let totals ← positions.foldlM (addMarginPosition fx policy asOf)
    ⟨Decimal.zero, Decimal.zero, Decimal.zero, cashByCurrency⟩
  let netLiquidationValue ← cashValue.checkedAdd totals.positionMarketValue
  let excessLiquidity ← netLiquidationValue.checkedSub totals.initialMargin
  pure
    { baseCurrency := policy.baseCurrency
      cashValue
      positionMarketValue := totals.positionMarketValue
      netLiquidationValue
      initialMargin := totals.initialMargin
      maintenanceMargin := totals.maintenanceMargin
      excessLiquidity
      marginCall := netLiquidationValue < totals.maintenanceMargin
      exposureByCurrency := totals.exposureByCurrency }

end Follon.Accounting

/-!
## Financing

Interest on debit cash and on borrowed securities, by source and by currency.
-/

namespace Follon.Accounting

open Foundation Domain

inductive FinancingKind where
  | cashDebit
  | shortBorrow
  deriving DecidableEq, Repr

structure FinancingBalance where
  referenceId : String
  kind : FinancingKind
  currency : Currency
  principal : Decimal
  annualRateBps : Nat

structure FinancingAccrual where
  (days dayCountBasis : Nat)
  chargesByReference : OrderedMap String Decimal
  chargesByCurrency : OrderedMap Currency Decimal

structure FinancingTotals where
  references : OrderedSet String
  chargesByReference : OrderedMap String Decimal
  chargesByCurrency : OrderedMap Currency Decimal

def addBalance (dayCount denominator : Decimal) (totals : FinancingTotals)
    (balance : FinancingBalance) : Result FinancingTotals := do
  validateCanonicalId "financing reference_id" balance.referenceId
  refuseIf (balance.referenceId ∈ totals.references ∨
      balance.principal ≤ Decimal.zero ∨ 1000000 < balance.annualRateBps)
    "invalid financing balance"
  let rate ← Decimal.fromInteger balance.annualRateBps
  let annual ← balance.principal.checkedMul rate
  let period ← annual.checkedMul dayCount
  let charge ← period.checkedDiv denominator
  let prior := totals.chargesByCurrency[balance.currency]?.getD Decimal.zero
  let total ← prior.checkedAdd charge
  pure
    { references := totals.references.insert balance.referenceId
      chargesByReference :=
        totals.chargesByReference.insert balance.referenceId charge
      chargesByCurrency :=
        totals.chargesByCurrency.insert balance.currency total }

def accrueFinancing (balances : List FinancingBalance)
    (days dayCountBasis : Nat) : Result FinancingAccrual := do
  refuseIf (days = 0 ∨ ¬(dayCountBasis = 360 ∨ dayCountBasis = 365) ∨
      1000000 < balances.length) "invalid financing interval"
  let basis ← Decimal.fromInteger dayCountBasis
  let tenThousand ← Decimal.fromInteger 10000
  let denominator ← basis.checkedMul tenThousand
  let dayCount ← Decimal.fromInteger days
  let totals ← balances.foldlM (addBalance dayCount denominator) ⟨∅, ∅, ∅⟩
  pure
    { days, dayCountBasis
      chargesByReference := totals.chargesByReference
      chargesByCurrency := totals.chargesByCurrency }

end Follon.Accounting
