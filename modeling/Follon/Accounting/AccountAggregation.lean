import Follon.Accounting.Margin
import Follon.Accounting.MultiCurrencyLedger
import Follon.Foundation.Digest
import Follon.Foundation.KeyedRows
import Follon.Foundation.RunningSums

/-!
# Account aggregation

Independently reconciled account snapshots added up into one projection: the
cash by currency, and the positions by instrument, asset class and currency.
Every addition is checked, and the first failure refuses the whole projection.
-/

namespace Follon.Accounting

open Foundation Domain

/-! ## Snapshots -/

structure AccountPortfolioSnapshot where
  (accountId asOf reconciliationId configurationFingerprint : String)
  cashByCurrency : OrderedMap Currency Decimal
  positions : List MarginPosition

abbrev PositionKey : Type :=
  String × BalanceKey

instance : Ord PositionKey := lexOrd

def MarginPosition.key (position : MarginPosition) : PositionKey :=
  (position.instrumentId, position.assetClass, position.currency)

structure AggregatedPosition where
  (instrumentId assetClass : String)
  currency : Currency
  (quantity multiplier marketValue : Decimal)
  contributingAccountIds : List String

structure MultiAccountPortfolioSnapshot where
  (asOf configurationFingerprint : String)
  accountCount : Nat
  reconciliationIdsByAccount : OrderedMap String String
  cashByCurrency : OrderedMap Currency Decimal
  positions : List AggregatedPosition

structure AggregatedPositionAccumulator where
  (quantity multiplier marketValue : Decimal)
  contributingAccountIds : OrderedSet String

/-! ## The aggregation -/

/-- What the loop keeps of the accounts apart from their amounts. -/
structure AggregationHeader where
  accountIds : OrderedSet String
  (asOf configurationFingerprint : Option String)
  reconciliationIds : OrderedMap String String

structure Aggregation where
  header : AggregationHeader
  cash : OrderedMap Currency Decimal
  positions : OrderedMap PositionKey AggregatedPositionAccumulator

def Aggregation.empty : Aggregation := ⟨⟨∅, none, none, ∅⟩, ∅, ∅⟩

def validateSha256Fingerprint (name value : String) : Result Unit :=
  refuseIf (isDigest value = false)
    (name ++ " must be a lowercase SHA-256 hex digest")

def AccountPortfolioSnapshot.validateIds (account : AccountPortfolioSnapshot) :
    Result Unit := do
  validateCanonicalId "aggregate account_id" account.accountId
  validateUtcTimestamp "aggregate snapshot as_of" account.asOf
  validateCanonicalId "aggregate reconciliation_id" account.reconciliationId
  validateSha256Fingerprint "aggregate configuration_fingerprint"
    account.configurationFingerprint

def addHeader (header : AggregationHeader)
    (account : AccountPortfolioSnapshot) : Result AggregationHeader := do
  account.validateIds
  refuseIf (account.accountId ∈ header.accountIds)
    "multi-account aggregation received duplicate account_id"
  refuseIf (header.asOf.any (· != account.asOf) = true)
    "multi-account aggregation requires one common as_of timestamp"
  refuseIf (header.configurationFingerprint.any
      (· != account.configurationFingerprint) = true)
    "multi-account aggregation requires one common configuration fingerprint"
  pure
    { accountIds := header.accountIds.insert account.accountId
      asOf := some (header.asOf.getD account.asOf)
      configurationFingerprint := some
        (header.configurationFingerprint.getD account.configurationFingerprint)
      reconciliationIds :=
        header.reconciliationIds.insert account.accountId
          account.reconciliationId }

def addCashRow (cash : OrderedMap Currency Decimal)
    (entry : Currency × Decimal) : Result (OrderedMap Currency Decimal) := do
  let total ← (cash[entry.1]?.getD Decimal.zero).checkedAdd entry.2
  pure (cash.insert entry.1 total)

namespace MarginPosition

def validateAggregated (position : MarginPosition) : Result Unit := do
  validateCanonicalId "aggregate instrument_id" position.instrumentId
  validateCanonicalId "aggregate asset_class" position.assetClass
  refuseIf (position.quantity = Decimal.zero ∨
      position.markPrice ≤ Decimal.zero ∨ position.multiplier ≤ Decimal.zero)
    "invalid position in multi-account aggregation"

def marketValue (position : MarginPosition) : Result Decimal := do
  let marked ← position.quantity.checkedMul position.markPrice
  marked.checkedMul position.multiplier

end MarginPosition

abbrev PositionRow : Type :=
  String × MarginPosition

def openAccumulator (row : PositionRow) : AggregatedPositionAccumulator :=
  ⟨Decimal.zero, row.2.multiplier, Decimal.zero, ∅⟩

def accumulate (aggregate : AggregatedPositionAccumulator)
    (row : PositionRow) : Result AggregatedPositionAccumulator := do
  let marketValue ← row.2.marketValue
  refuseIf (aggregate.multiplier ≠ row.2.multiplier)
    "account snapshots disagree on a position contract multiplier"
  let quantity ← aggregate.quantity.checkedAdd row.2.quantity
  let marketValue ← aggregate.marketValue.checkedAdd marketValue
  pure
    { aggregate with
      quantity
      marketValue
      contributingAccountIds :=
        aggregate.contributingAccountIds.insert row.1 }

def addRow : OrderedMap PositionKey AggregatedPositionAccumulator → PositionRow →
      Result (OrderedMap PositionKey AggregatedPositionAccumulator) :=
  OrderedMap.stepAt (·.2.key) openAccumulator accumulate

def addPosition (accountId : String)
    (acc : OrderedMap PositionKey AggregatedPositionAccumulator ×
      OrderedSet PositionKey) (position : MarginPosition) :
    Result (OrderedMap PositionKey AggregatedPositionAccumulator ×
      OrderedSet PositionKey) := do
  position.validateAggregated
  refuseIf (position.key ∈ acc.2)
    "account snapshot has duplicate position identity"
  let positions ← addRow acc.1 (accountId, position)
  pure (positions, acc.2.insert position.key)

def addAccount (acc : Aggregation) (account : AccountPortfolioSnapshot) :
    Result Aggregation := do
  let header ← addHeader acc.header account
  let cash ← account.cashByCurrency.toList.foldlM addCashRow acc.cash
  let (positions, _) ←
    account.positions.foldlM (addPosition account.accountId) (acc.positions, ∅)
  pure ⟨header, cash, positions⟩

def u32Max : Nat := 2 ^ 32 - 1

def aggregatedPosition (entry : PositionKey × AggregatedPositionAccumulator) :
    AggregatedPosition where
  instrumentId := entry.1.1
  assetClass := entry.1.2.1
  currency := entry.1.2.2
  quantity := entry.2.quantity
  multiplier := entry.2.multiplier
  marketValue := entry.2.marketValue
  contributingAccountIds := entry.2.contributingAccountIds.toList

def aggregateAccountPortfolios (accounts : List AccountPortfolioSnapshot) :
    Result MultiAccountPortfolioSnapshot := do
  refuseIf (accounts = [] ∨ u32Max < accounts.length)
    "multi-account aggregation requires between one and u32::MAX accounts"
  let acc ← accounts.foldlM addAccount .empty
  pure
    { -- the first account set both texts
      asOf := acc.header.asOf.getD ""
      configurationFingerprint := acc.header.configurationFingerprint.getD ""
      accountCount := accounts.length
      reconciliationIdsByAccount := acc.header.reconciliationIds
      cashByCurrency := acc.cash
      positions := acc.positions.toList.map aggregatedPosition }

end Follon.Accounting
