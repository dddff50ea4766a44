import Follon.Accounting.Margin
import Follon.Accounting.MultiCurrencyLedger

/-!
# Broker statements

A statement's rows are read into one balance a currency and one quantity an
instrument, and compared with the ledger and the internal positions.  Every
internal row is compared on its own: the first row of an instrument with the
statement's quantity, the later ones with zero.
-/

namespace Follon.Accounting

open Foundation Domain

/-! ## Reading a statement -/

inductive ReconciliationIncident where
  | cashMismatch (currency : Currency) (internalBalance brokerBalance : Decimal)
  | positionMismatch (instrumentId : String)
      (internalQuantity brokerQuantity : Decimal)
  deriving DecidableEq

structure StatementCash where
  (currency balance : String)
  deriving DecidableEq

structure StatementPosition where
  (instrumentId quantity : String)
  deriving DecidableEq

structure BrokerStatement where
  cash : List StatementCash
  positions : List StatementPosition
  deriving DecidableEq

def readCash (brokerCash : OrderedMap Currency Decimal) (row : StatementCash) :
    Result (OrderedMap Currency Decimal) := do
  let currency ← Currency.new row.currency
  let balance ← Decimal.parse row.balance
  refuseIf (currency ∈ brokerCash)
    ("duplicate CASH row in broker statement for currency " ++ currency.code)
  pure (brokerCash.insert currency balance)

def readPosition (brokerPositions : OrderedMap String Decimal)
    (row : StatementPosition) : Result (OrderedMap String Decimal) := do
  let quantity ← Decimal.parse row.quantity
  refuseIf (row.instrumentId ∈ brokerPositions)
    ("duplicate POSITION row in broker statement for instrument " ++ row.instrumentId)
  pure (brokerPositions.insert row.instrumentId quantity)

namespace BrokerStatement

def brokerCash (statement : BrokerStatement) : Result (OrderedMap Currency Decimal) :=
  statement.cash.foldlM readCash ∅

def brokerPositions (statement : BrokerStatement) : Result (OrderedMap String Decimal) :=
  statement.positions.foldlM readPosition ∅

end BrokerStatement

/-! ## Comparing -/

def compareCash (ledger : MultiCurrencyLedger) (cashAccountId : String)
    (entry : Currency × Decimal) : Option ReconciliationIncident :=
  if ledger.balance cashAccountId entry.1 = entry.2 then
    none
  else
    some (.cashMismatch entry.1 (ledger.balance cashAccountId entry.1) entry.2)

def compareUnreported (brokerCash : OrderedMap Currency Decimal)
    (cashAccountId : String) (entry : BalanceKey × Decimal) :
    Option ReconciliationIncident :=
  if entry.1.1 = cashAccountId ∧ entry.1.2 ∉ brokerCash ∧
      entry.2 ≠ Decimal.zero then
    some (.cashMismatch entry.1.2 entry.2 Decimal.zero)
  else
    none

def comparePosition (acc : OrderedMap String Decimal × List ReconciliationIncident)
    (position : MarginPosition) :
    OrderedMap String Decimal × List ReconciliationIncident :=
  let brokerQty := acc.1[position.instrumentId]?.getD Decimal.zero
  (acc.1.erase position.instrumentId,
    if position.quantity = brokerQty then acc.2
    else acc.2 ++
      [.positionMismatch position.instrumentId position.quantity brokerQty])

def compareMissing (entry : String × Decimal) : Option ReconciliationIncident :=
  if entry.2 = Decimal.zero then
    none
  else
    some (.positionMismatch entry.1 Decimal.zero entry.2)

def cashIncidents (ledger : MultiCurrencyLedger)
    (brokerCash : OrderedMap Currency Decimal) (cashAccountId : String) :
    List ReconciliationIncident :=
  brokerCash.toList.filterMap (compareCash ledger cashAccountId) ++
    ledger.balances.toList.filterMap
      (compareUnreported brokerCash cashAccountId)

def positionIncidents (internalPositions : List MarginPosition)
    (brokerPositions : OrderedMap String Decimal) : List ReconciliationIncident :=
  let (left, incidents) := internalPositions.foldl comparePosition (brokerPositions, [])
  incidents ++ left.toList.filterMap compareMissing

def reconcileStatement (ledger : MultiCurrencyLedger)
    (internalPositions : List MarginPosition) (statement : BrokerStatement)
    (cashAccountId : String) : Result (List ReconciliationIncident) := do
  let brokerCash ← statement.brokerCash
  let brokerPositions ← statement.brokerPositions
  pure (cashIncidents ledger brokerCash cashAccountId ++
    positionIncidents internalPositions brokerPositions)

/-! ## Cash -/

variable {ledger : MultiCurrencyLedger} {cashAccountId : String}
  {rows : List Decimal} {internalPositions : List MarginPosition}

theorem cashIncidents_eq_nil {brokerCash : OrderedMap Currency Decimal} :
    cashIncidents ledger brokerCash cashAccountId = [] ↔
      ∀ currency : Currency, ledger.balance cashAccountId currency
        = brokerCash[currency]?.getD Decimal.zero := by
  have hcash : ∀ entry : Currency × Decimal,
      compareCash ledger cashAccountId entry = none ↔
        ledger.balance cashAccountId entry.1 = entry.2 := by
    intro entry
    simp [compareCash]
  have hunreported : ∀ entry : BalanceKey × Decimal,
      compareUnreported brokerCash cashAccountId entry = none ↔
        (entry.1.1 = cashAccountId → entry.1.2 ∉ brokerCash →
          entry.2 = Decimal.zero) := by
    intro entry
    simp [compareUnreported]
  simp only [cashIncidents, List.append_eq_nil_iff, List.filterMap_eq_nil_iff, hcash,
    hunreported, Prod.forall, mem_toList_iff_getElem?_eq_some]
  constructor
  · rintro ⟨hnamed, hunnamed⟩ currency
    cases hfound : brokerCash[currency]? with
    | some balance => exact hnamed currency balance hfound
    | none =>
      have habsent : currency ∉ brokerCash := by
        rw [mem_iff_isSome_getElem?, hfound]
        decide
      unfold MultiCurrencyLedger.balance
      cases hheld : ledger.balances[(cashAccountId, currency)]? with
      | none => rfl
      | some held =>
        exact hunnamed cashAccountId currency held hheld rfl habsent
  · intro hagree
    constructor
    · intro currency balance hfound
      rw [hagree currency, hfound, getD_some]
    · intro accountId currency held hheld haccount habsent
      subst haccount
      have hnone : brokerCash[currency]? = none := Std.ExtTreeMap.getElem?_eq_none habsent
      have hsame := hagree currency
      rw [hnone, MultiCurrencyLedger.balance, hheld] at hsame
      exact hsame

/-! ## Positions -/

def rowsOf (internalPositions : List MarginPosition) (instrumentId : String) :
    List Decimal :=
  (internalPositions.filter (·.instrumentId = instrumentId)).map (·.quantity)

def FirstMatches (reported : Decimal) : List Decimal → Prop
  | [] => reported = Decimal.zero
  | first :: later => first = reported ∧ ∀ row ∈ later, row = Decimal.zero

theorem firstMatches_zero :
    FirstMatches Decimal.zero rows ↔ ∀ row ∈ rows, row = Decimal.zero := by
  cases rows with
  | nil => simp [FirstMatches]
  | cons first later => simp [FirstMatches]

theorem comparePosition_incidents (internalPositions : List MarginPosition)
    (brokerPositions : OrderedMap String Decimal)
    (incidents : List ReconciliationIncident) :
    internalPositions.foldl comparePosition (brokerPositions, incidents)
      = ((internalPositions.foldl comparePosition (brokerPositions, [])).1,
        incidents ++ (internalPositions.foldl comparePosition
            (brokerPositions, [])).2) := by
  induction internalPositions generalizing brokerPositions incidents with
  | nil => simp
  | cons position rest ih =>
    simp only [List.foldl_cons, comparePosition, nil_append]
    rw [ih]
    conv_rhs => rw [ih]
    split <;> simp

theorem positionIncidents_eq_nil {brokerPositions : OrderedMap String Decimal} :
    positionIncidents internalPositions brokerPositions = [] ↔ ∀ instrumentId : String,
        FirstMatches (brokerPositions[instrumentId]?.getD Decimal.zero)
          (rowsOf internalPositions instrumentId) := by
  induction internalPositions generalizing brokerPositions with
  | nil =>
    have hmissing : ∀ entry : String × Decimal,
        compareMissing entry = none ↔ entry.2 = Decimal.zero := by
      intro entry
      simp [compareMissing]
    simp only [positionIncidents, List.foldl_nil, nil_append,
      List.filterMap_eq_nil_iff, hmissing, Prod.forall, mem_toList_iff_getElem?_eq_some,
      rowsOf, List.filter_nil, map_nil, FirstMatches]
    refine forall_congr' fun instrumentId => ?_
    cases brokerPositions[instrumentId]? <;> simp
  | cons position rest ih =>
    have hsplit : positionIncidents (position :: rest) brokerPositions = [] ↔
        position.quantity = brokerPositions[position.instrumentId]?.getD Decimal.zero ∧
          positionIncidents rest
            (brokerPositions.erase position.instrumentId) = [] := by
      simp only [positionIncidents, List.foldl_cons, comparePosition, nil_append]
      rw [comparePosition_incidents]
      split <;> simp [*]
    rw [hsplit, ih]
    constructor
    · rintro ⟨hfirst, hrest⟩ instrumentId
      have hlater := hrest instrumentId
      by_cases hsame : position.instrumentId = instrumentId
      · subst hsame
        rw [Std.ExtTreeMap.getElem?_erase_self, Option.getD_none,
          firstMatches_zero] at hlater
        have hrows : rowsOf (position :: rest) position.instrumentId
            = position.quantity
              :: rowsOf rest position.instrumentId := by
          simp [rowsOf]
        rw [hrows]
        exact ⟨hfirst, hlater⟩
      · rw [getElem?_erase] at hlater
        simpa [rowsOf, hsame] using hlater
    · intro hall
      have hfirst := hall position.instrumentId
      simp only [rowsOf, List.filter_cons, decide_true, if_true,
        map_cons, FirstMatches] at hfirst
      refine ⟨hfirst.1, fun instrumentId => ?_⟩
      by_cases hsame : position.instrumentId = instrumentId
      · subst hsame
        rw [Std.ExtTreeMap.getElem?_erase_self, Option.getD_none, firstMatches_zero]
        exact hfirst.2
      · have hother := hall instrumentId
        rw [getElem?_erase]
        simpa [rowsOf, hsame] using hother

/-! ## Agreement -/

def internalQuantity (internalPositions : List MarginPosition)
    (instrumentId : String) : Int :=
  ((rowsOf internalPositions instrumentId).map Decimal.scaled).sum

structure StatementAgrees (ledger : MultiCurrencyLedger)
    (internalPositions : List MarginPosition)
    (brokerCash : OrderedMap Currency Decimal)
    (brokerPositions : OrderedMap String Decimal) (cashAccountId : String) :
    Prop where
  cash : ∀ currency : Currency, ledger.balance cashAccountId currency
    = brokerCash[currency]?.getD Decimal.zero
  positions : ∀ instrumentId : String, internalQuantity internalPositions instrumentId
      = (brokerPositions[instrumentId]?.getD Decimal.zero).scaled

def FirstRowHoldsAll (internalPositions : List MarginPosition) : Prop :=
  ∀ instrumentId : String,
    ∀ row ∈ (rowsOf internalPositions instrumentId).tail, row = Decimal.zero

theorem sum_scaled_eq_zero (h : ∀ row ∈ rows, row = Decimal.zero)
    : (rows.map Decimal.scaled).sum = 0 := by
  induction rows with
  | nil => rfl
  | cons row rows ih =>
    rw [forall_mem_cons] at h
    rw [map_cons, sum_cons, ih h.2, h.1, scaled_zero, Int.add_zero]

theorem firstMatches_iff {reported : Decimal} :
    FirstMatches reported rows ↔ (rows.map Decimal.scaled).sum = reported.scaled ∧
        ∀ row ∈ rows.tail, row = Decimal.zero := by
  cases rows with
  | nil =>
    simp only [FirstMatches, map_nil, List.sum_nil, List.tail_nil, not_mem_nil,
      false_implies, implies_true, and_true, ← scaled_inj, scaled_zero, eq_comm]
  | cons first later =>
    simp only [FirstMatches, map_cons, sum_cons, List.tail_cons]
    refine and_congr_left fun hlater => ?_
    rw [sum_scaled_eq_zero hlater, Int.add_zero, scaled_inj]

theorem reconcileStatement_eq_nil {statement : BrokerStatement}
    {brokerCash : OrderedMap Currency Decimal}
    {brokerPositions : OrderedMap String Decimal}
    (hcash : statement.brokerCash = .ok brokerCash)
    (hpositions : statement.brokerPositions = .ok brokerPositions) :
    reconcileStatement ledger internalPositions statement cashAccountId = .ok [] ↔
      StatementAgrees ledger internalPositions brokerCash brokerPositions
          cashAccountId ∧
        FirstRowHoldsAll internalPositions := by
  have hrun : reconcileStatement ledger internalPositions statement
      cashAccountId = .ok (cashIncidents ledger brokerCash cashAccountId ++
        positionIncidents internalPositions brokerPositions) := by
    simp only [reconcileStatement, hcash, hpositions]
    rfl
  rw [hrun, Except.ok.injEq, List.append_eq_nil_iff, cashIncidents_eq_nil,
    positionIncidents_eq_nil]
  simp only [firstMatches_iff, forall_and]
  constructor
  · rintro ⟨hcash, htotal, hfirst⟩
    exact ⟨⟨hcash, htotal⟩, hfirst⟩
  · rintro ⟨hagrees, hfirst⟩
    exact ⟨hagrees.cash, hagrees.positions, hfirst⟩

/-- A clean reconciliation means agreement, and agreement a clean
reconciliation, exactly when agreeing books keep an instrument in one row. -/
theorem clean_iff_agrees_iff {ledger : MultiCurrencyLedger}
    {internalPositions : List MarginPosition} {statement : BrokerStatement}
    {cashAccountId : String} {brokerCash : OrderedMap Currency Decimal}
    {brokerPositions : OrderedMap String Decimal}
    (hcash : statement.brokerCash = .ok brokerCash)
    (hpositions : statement.brokerPositions = .ok brokerPositions) :
    (reconcileStatement ledger internalPositions statement cashAccountId = .ok [] ↔
        StatementAgrees ledger internalPositions brokerCash brokerPositions
          cashAccountId) ↔
      (StatementAgrees ledger internalPositions brokerCash brokerPositions cashAccountId →
        FirstRowHoldsAll internalPositions) := by
  rw [reconcileStatement_eq_nil hcash hpositions]
  exact ⟨fun h hagrees => (h.mpr hagrees).2,
    fun h => ⟨And.left, fun hagrees => ⟨hagrees, h hagrees⟩⟩⟩

namespace StatementRun

def shares (n : Int) (hmin : i128Min ≤ n * 100000000)
    (hmax : n * 100000000 ≤ i128Max) : Decimal :=
  ⟨n * 100000000, hmin, hmax⟩

def row (currency : Currency) (quantity : Decimal) : MarginPosition where
  instrumentId := "aapl"
  assetClass := "equity"
  currency := currency
  quantity := quantity
  markPrice := shares 150 (by decide) (by decide)
  multiplier := shares 1 (by decide) (by decide)

def usd : Currency := .usd

def eur : Currency := ⟨"EUR", by decide⟩

def listings : List MarginPosition :=
  [row usd (shares 60 (by decide) (by decide)),
    row eur (shares 40 (by decide) (by decide))]

def statement : BrokerStatement where
  cash := []
  positions := [⟨"aapl", "100"⟩]

def reported : OrderedMap String Decimal :=
  (∅ : OrderedMap String Decimal).insert "aapl"
    (shares 100 (by decide) (by decide))

theorem statement_positions : statement.brokerPositions = .ok reported := by
  have hok : statement.brokerPositions.toOption = some reported := by
    decide
  cases h : statement.brokerPositions with
  | ok positions =>
    rw [h] at hok
    exact congrArg Except.ok (Option.some.inj hok)
  | error e =>
    rw [h] at hok
    contradiction

theorem listings_clean_iff :
    (reconcileStatement .empty listings statement "cash" = .ok [] ↔
        StatementAgrees .empty listings ∅ reported "cash") ↔
      (StatementAgrees .empty listings ∅ reported "cash" → FirstRowHoldsAll listings) :=
  clean_iff_agrees_iff rfl statement_positions

theorem listings_agree : StatementAgrees .empty listings ∅ reported "cash" where
  cash := fun currency => by
    simp [MultiCurrencyLedger.balance, MultiCurrencyLedger.empty]
  positions := fun instrumentId => by
    by_cases h : instrumentId = "aapl"
    · subst h
      decide
    · have hrows : rowsOf listings instrumentId = [] := by
        simp [rowsOf, listings, row, Ne.symm h]
      have hreported : reported[instrumentId]? = none := by
        simp [reported, getElem?_insert_of_ne _ _ (Ne.symm h)]
      rw [internalQuantity, hrows, hreported]
      rfl

/-- Sixty and forty shares are not the hundred the statement reports. -/
theorem listings_not_clean :
    ¬∀ (ledger : MultiCurrencyLedger) (internalPositions : List MarginPosition)
        (statement : BrokerStatement) (cashAccountId : String)
        (brokerCash : OrderedMap Currency Decimal)
        (brokerPositions : OrderedMap String Decimal),
      statement.brokerCash = .ok brokerCash →
      statement.brokerPositions = .ok brokerPositions →
      (reconcileStatement ledger internalPositions statement cashAccountId = .ok [] ↔
        StatementAgrees ledger internalPositions brokerCash brokerPositions
          cashAccountId) := by
  intro hclean
  have hlistings := (hclean .empty listings statement "cash" ∅ reported rfl
    statement_positions).mpr listings_agree
  have hfirst := (reconcileStatement_eq_nil rfl statement_positions).mp hlistings
  have hlater := hfirst.2 "aapl" (shares 40 (by decide) (by decide))
  revert hlater
  decide

end StatementRun

end Follon.Accounting
