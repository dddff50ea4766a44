import Follon.Accounting.AggregationTotals

/-!
# The order of aggregated accounts

The amounts an aggregation adds up do not depend on the order of the accounts,
but whether every running total is representable does.
-/

namespace Follon.Accounting

open Foundation Domain

/-! ## Amounts -/

inductive AggregateTotal where
  | cash (currency : Currency)
  | quantity (key : PositionKey)
  | value (key : PositionKey)

def MarginPosition.value (position : MarginPosition) : Int :=
  match position.marketValue with
  | .ok value => value.scaled
  | .error _ => 0

namespace AccountPortfolioSnapshot

def positionAt (account : AccountPortfolioSnapshot) (key : PositionKey) :
    Option MarginPosition :=
  account.positions.find? (·.key = key)

def amount (total : AggregateTotal) (account : AccountPortfolioSnapshot) : Option Int :=
  match total with
  | .cash currency => account.cashByCurrency[currency]?.map (·.scaled)
  | .quantity key => (account.positionAt key).map (·.quantity.scaled)
  | .value key => (account.positionAt key).map (·.value)

end AccountPortfolioSnapshot

def amountsOf (total : AggregateTotal)
    (accounts : List AccountPortfolioSnapshot) : List Int :=
  contributed (AccountPortfolioSnapshot.amount total) accounts

def TotalsFit (accounts : List AccountPortfolioSnapshot) : Prop :=
  ∀ total, RunsWithin i128Min i128Max 0 (amountsOf total accounts)

theorem toList_filter_key {κ ν : Type} [Ord κ] [Std.TransOrd κ]
    [Std.LawfulEqOrd κ] [DecidableEq κ] (map : OrderedMap κ ν) (key : κ) :
    map.toList.filter (fun entry => entry.1 = key)
      = (map[key]?.map fun value => (key, value)).toList := by
  cases hfound : map[key]? with
  | none =>
    rw [Option.map_none, Option.toList_none, List.filter_eq_nil_iff]
    rintro ⟨key', value⟩ hentry hsame
    rw [mem_toList_iff_getElem?_eq_some] at hentry
    have hkey : key' = key := of_decide_eq_true hsame
    rw [hkey, hfound] at hentry
    contradiction
  | some value =>
    rw [Option.map_some, Option.toList_some, ← List.perm_singleton]
    refine (List.perm_ext_iff_of_nodup (map.nodup_toList.filter _)
      (List.nodup_singleton _)).mpr ?_
    rintro ⟨key', value'⟩
    simp only [mem_filter, decide_eq_true_eq, mem_singleton,
      mem_toList_iff_getElem?_eq_some, Prod.mk.injEq]
    constructor
    · rintro ⟨hvalue, rfl⟩
      rw [hfound] at hvalue
      exact ⟨rfl, (Option.some.inj hvalue).symm⟩
    · rintro ⟨rfl, rfl⟩
      exact ⟨hfound, rfl⟩

theorem filter_key_eq_find? {α κ : Type} [DecidableEq κ] {keyOf : α → κ}
    {items : List α} (h : (items.map keyOf).Nodup) (key : κ) :
    items.filter (fun item => keyOf item = key)
      = (items.find? fun item => keyOf item = key).toList := by
  induction items with
  | nil => rfl
  | cons item items ih =>
    rw [map_cons, nodup_cons] at h
    by_cases hkey : keyOf item = key
    · subst hkey
      have hnone : items.filter (fun other => keyOf other = keyOf item)
          = [] := by
        rw [List.filter_eq_nil_iff]
        intro other hother hsame
        apply h.1
        rw [← of_decide_eq_true hsame]
        exact mem_map_of_mem hother
      rw [List.filter_cons_of_pos (by simp), hnone,
        List.find?_cons_of_pos (by simp), Option.toList_some]
    · rw [List.filter_cons_of_neg (by simpa using hkey),
        List.find?_cons_of_neg (by simpa using hkey), ih h.2]

theorem cashRows_amounts (currency : Currency)
    (accounts : List AccountPortfolioSnapshot) :
    ((cashRows accounts).filter (·.1 = currency)).map (·.2.scaled)
      = amountsOf (.cash currency) accounts := by
  unfold cashRows amountsOf contributed
  rw [List.filter_flatMap, List.map_flatMap]
  refine List.flatMap_congr fun account _ => ?_
  rw [toList_filter_key]
  simp only [AccountPortfolioSnapshot.amount]
  cases account.cashByCurrency[currency]? <;> rfl

variable {accounts : List AccountPortfolioSnapshot}
  {result : Option AggregatedPositionAccumulator}

theorem positionRows_filter (hvalid : ∀ a ∈ accounts, a.PositionsValid)
    (key : PositionKey) : (positionRows accounts).filter (·.2.key = key)
      = accounts.flatMap fun a =>
          ((a.positionAt key).map (a.accountId, ·)).toList := by
  unfold positionRows
  rw [List.filter_flatMap]
  refine List.flatMap_congr fun account haccount => ?_
  rw [AccountPortfolioSnapshot.rows, List.filter_map]
  have hrows := filter_key_eq_find? (hvalid account haccount).keys key
  have hsame : ((fun row : PositionRow => decide (row.2.key = key)) ∘
      (account.accountId, ·)) = fun p : MarginPosition =>
        decide (p.key = key) := rfl
  rw [hsame, hrows, AccountPortfolioSnapshot.positionAt]
  cases account.positions.find? fun p => p.key = key <;> rfl

theorem positionRows_amounts (hvalid : ∀ a ∈ accounts, a.PositionsValid)
    (key : PositionKey) : ((positionRows accounts).filter (·.2.key = key)).map
        (·.2.quantity.scaled) = amountsOf (.quantity key) accounts ∧
      ((positionRows accounts).filter (·.2.key = key)).map (·.2.value)
        = amountsOf (.value key) accounts := by
  rw [positionRows_filter hvalid, List.map_flatMap, List.map_flatMap]
  constructor
  · refine List.flatMap_congr fun account _ => ?_
    simp only [AccountPortfolioSnapshot.amount]
    cases account.positionAt key <;> rfl
  · refine List.flatMap_congr fun account _ => ?_
    simp only [AccountPortfolioSnapshot.amount]
    cases account.positionAt key <;> rfl

/-! ## The loop of one currency -/

def addRowBalance (total : Decimal) (entry : Currency × Decimal) : Result Decimal :=
  total.checkedAdd entry.2

theorem addCashRow_eq : addCashRow
    = OrderedMap.stepAt (·.1) (fun _ => Decimal.zero) addRowBalance :=
  rfl

theorem exists_checkedAdd_iff {a b : Decimal} : (∃ d, a.checkedAdd b = .ok d) ↔
      i128Min ≤ a.scaled + b.scaled ∧ a.scaled + b.scaled ≤ i128Max := by
  constructor
  · rintro ⟨d, hd⟩
    rw [checkedAdd_eq_ok] at hd
    rw [← hd]
    exact ⟨d.min_le, d.le_max⟩
  · rintro ⟨hmin, hmax⟩
    exact Decimal.checked_ok _ hmin hmax

theorem exists_foldFrom_cash {held : Option Decimal} {rows : List (Currency × Decimal)} :
    (∃ result, foldFrom (fun _ => Decimal.zero) addRowBalance held rows
        = .ok result) ↔
      RunsWithin i128Min i128Max (held.getD Decimal.zero).scaled
        (rows.map (·.2.scaled)) := by
  induction rows generalizing held with
  | nil =>
    refine iff_of_true ⟨held, rfl⟩ ?_
    rw [map_nil, runsWithin_nil]
    exact ⟨(held.getD Decimal.zero).min_le, (held.getD Decimal.zero).le_max⟩
  | cons row rows ih =>
    rw [map_cons, runsWithin_cons]
    simp only [foldFrom, addRowBalance, bind_eq_ok]
    constructor
    · rintro ⟨result, value, hvalue, hrest⟩
      refine ⟨⟨(held.getD Decimal.zero).min_le, (held.getD Decimal.zero).le_max⟩, ?_⟩
      rw [← checkedAdd_eq_ok.mp hvalue]
      exact ih.mp ⟨result, hrest⟩
    · rintro ⟨-, hrest⟩
      obtain ⟨value, hvalue⟩ := exists_checkedAdd_iff.mpr hrest.start_mem
      rw [← checkedAdd_eq_ok.mp hvalue] at hrest
      obtain ⟨result, hresult⟩ := (@ih (some value)).mpr hrest
      exact ⟨result, value, hvalue, hresult⟩

theorem foldFrom_cash {held result : Option Decimal} {rows : List (Currency × Decimal)}
    (h : foldFrom (fun _ => Decimal.zero) addRowBalance held rows = .ok result) :
    (result.getD Decimal.zero).scaled
        = (held.getD Decimal.zero).scaled + (rows.map (·.2.scaled)).sum ∧
      result.isSome = (held.isSome || !rows.isEmpty) := by
  induction rows generalizing held with
  | nil =>
    obtain rfl := Except.ok.inj h
    simp
  | cons row rows ih =>
    simp only [foldFrom, addRowBalance, bind_eq_ok] at h
    obtain ⟨value, hvalue, hrest⟩ := h
    obtain ⟨hsum, hsome⟩ := ih hrest
    rw [getD_some, checkedAdd_eq_ok.mp hvalue] at hsum
    rw [hsum, hsome]
    simp [Int.add_assoc]

/-! ## The loop of one position key -/

theorem value_of_marketValue {position : MarginPosition} {value : Decimal}
    (h : position.marketValue = .ok value) : position.value = value.scaled := by
  unfold MarginPosition.value
  rw [h]

theorem accumulate_eq_ok
    {aggregate aggregate' : AggregatedPositionAccumulator} {row : PositionRow} :
    accumulate aggregate row = .ok aggregate' ↔ (∃ value, row.2.marketValue = .ok value) ∧
        aggregate.multiplier = row.2.multiplier ∧
        aggregate'.quantity.scaled = aggregate.quantity.scaled + row.2.quantity.scaled ∧
        aggregate'.marketValue.scaled = aggregate.marketValue.scaled + row.2.value ∧
        aggregate'.multiplier = aggregate.multiplier ∧
        aggregate'.contributingAccountIds
          = aggregate.contributingAccountIds.insert row.1 := by
  simp only [accumulate, bind_eq_ok, refuseIf_eq_ok, exists_const,
    checkedAdd_eq_ok, pure_eq_ok, not_not]
  constructor
  · rintro ⟨value, hvalue, hmultiplier, quantity, hquantity, total, htotal, rfl⟩
    rw [value_of_marketValue hvalue]
    exact ⟨⟨value, hvalue⟩, hmultiplier, hquantity, htotal, rfl, rfl⟩
  · rintro ⟨⟨value, hvalue⟩, hmultiplier, hquantity, htotal, hsame, hids⟩
    rw [value_of_marketValue hvalue] at htotal
    refine ⟨value, hvalue, hmultiplier, aggregate'.quantity, hquantity,
      aggregate'.marketValue, htotal, ?_⟩
    rw [← hids, ← hsame]

theorem exists_foldFrom_positions {aggregate : AggregatedPositionAccumulator}
    {rows : List PositionRow} :
    (∃ result, foldFrom openAccumulator accumulate (some aggregate) rows = .ok result) ↔
      (∀ row ∈ rows, (∃ value, row.2.marketValue = .ok value) ∧
          aggregate.multiplier = row.2.multiplier) ∧
        RunsWithin i128Min i128Max aggregate.quantity.scaled
          (rows.map (·.2.quantity.scaled)) ∧
        RunsWithin i128Min i128Max aggregate.marketValue.scaled
          (rows.map (·.2.value)) := by
  have hbounds : ∀ d : Decimal, i128Min ≤ d.scaled ∧ d.scaled ≤ i128Max :=
    fun d => ⟨d.min_le, d.le_max⟩
  induction rows generalizing aggregate with
  | nil =>
    refine iff_of_true ⟨some aggregate, rfl⟩ ⟨by simp, ?_, ?_⟩
    · exact runsWithin_nil.mpr (hbounds _)
    · exact runsWithin_nil.mpr (hbounds _)
  | cons row rows ih =>
    simp only [map_cons, runsWithin_cons, forall_mem_cons,
      foldFrom, bind_eq_ok, getD_some]
    constructor
    · rintro ⟨result, next, hnext, hrest⟩
      obtain ⟨hvalue, hmultiplier, hquantity, htotal, hsame, -⟩ :=
        accumulate_eq_ok.mp hnext
      obtain ⟨hrows, hquantities, hvalues⟩ := ih.mp ⟨result, hrest⟩
      rw [hquantity] at hquantities
      rw [htotal] at hvalues
      rw [hsame] at hrows
      exact ⟨⟨⟨hvalue, hmultiplier⟩, hrows⟩, ⟨hbounds _, hquantities⟩,
        ⟨hbounds _, hvalues⟩⟩
    · rintro ⟨⟨⟨hvalue, hmultiplier⟩, hrows⟩, ⟨-, hquantities⟩, ⟨-, hvalues⟩⟩
      obtain ⟨quantity, hquantity⟩ :=
        exists_checkedAdd_iff.mpr hquantities.start_mem
      obtain ⟨total, htotal⟩ := Decimal.checked_ok
        "decimal addition overflow" hvalues.start_mem.1 hvalues.start_mem.2
      rw [checkedAdd_eq_ok] at hquantity
      rw [checked_eq_ok] at htotal
      let next : AggregatedPositionAccumulator :=
        ⟨quantity, aggregate.multiplier, total,
          aggregate.contributingAccountIds.insert row.1⟩
      have hnext : accumulate aggregate row = .ok next :=
        accumulate_eq_ok.mpr
          ⟨hvalue, hmultiplier, hquantity, htotal, rfl, rfl⟩
      rw [← hquantity] at hquantities
      rw [← htotal] at hvalues
      obtain ⟨result, hresult⟩ :=
        (@ih next).mpr ⟨hrows, hquantities, hvalues⟩
      exact ⟨result, next, hnext, hresult⟩

structure AccumulatedOver (aggregate : AggregatedPositionAccumulator)
    (rows : List PositionRow) (result : AggregatedPositionAccumulator) :
    Prop where
  quantity : result.quantity.scaled
    = aggregate.quantity.scaled + (rows.map (·.2.quantity.scaled)).sum
  value : result.marketValue.scaled
    = aggregate.marketValue.scaled + (rows.map (·.2.value)).sum
  multiplier : result.multiplier = aggregate.multiplier
  accountIds : ∀ id : String, id ∈ result.contributingAccountIds ↔
    id ∈ aggregate.contributingAccountIds ∨ ∃ row ∈ rows, row.1 = id

theorem foldFrom_positions {aggregate : AggregatedPositionAccumulator}
    {rows : List PositionRow}
    (h : foldFrom openAccumulator accumulate (some aggregate) rows = .ok result) :
    ∃ total, result = some total ∧ AccumulatedOver aggregate rows total := by
  induction rows generalizing aggregate with
  | nil =>
    obtain rfl := Except.ok.inj h
    exact ⟨aggregate, rfl, ⟨by simp, by simp, rfl, by simp⟩⟩
  | cons row rows ih =>
    simp only [foldFrom, bind_eq_ok, getD_some] at h
    obtain ⟨next, hnext, hrest⟩ := h
    obtain ⟨-, -, hquantity, hvalue, hmultiplier, hids⟩ :=
      accumulate_eq_ok.mp hnext
    obtain ⟨total, htotal, hover⟩ := ih hrest
    refine ⟨total, htotal, ⟨?_, ?_, ?_, ?_⟩⟩
    · rw [hover.quantity, hquantity, map_cons, sum_cons, Int.add_assoc]
    · rw [hover.value, hvalue, map_cons, sum_cons, Int.add_assoc]
    · rw [hover.multiplier, hmultiplier]
    · intro id
      rw [hover.accountIds, hids, mem_insert,
        Std.LawfulEqCmp.compare_eq_iff_eq]
      simp only [mem_cons, exists_eq_or_imp]
      tauto

def RowsFit (rows : List PositionRow) : Prop :=
  (∀ row ∈ rows, ∃ value, row.2.marketValue = .ok value) ∧
    (∀ row ∈ rows, ∀ row' ∈ rows, row.2.multiplier = row'.2.multiplier) ∧
    RunsWithin i128Min i128Max 0 (rows.map (·.2.quantity.scaled)) ∧
    RunsWithin i128Min i128Max 0 (rows.map (·.2.value))

theorem exists_foldFrom_none_iff {rows : List PositionRow} :
    (∃ result, foldFrom openAccumulator accumulate none rows = .ok result) ↔
      RowsFit rows := by
  cases rows with
  | nil =>
    refine iff_of_true ⟨none, rfl⟩ ⟨by simp, by simp, ?_, ?_⟩
    · exact runsWithin_nil.mpr ⟨by decide, by decide⟩
    · exact runsWithin_nil.mpr ⟨by decide, by decide⟩
  | cons row rows =>
    have hopen := @exists_foldFrom_positions (openAccumulator row)
      (row :: rows)
    refine hopen.trans ?_
    constructor
    · rintro ⟨hrows, hquantities, hvalues⟩
      refine ⟨fun r hr => (hrows r hr).1, ?_, hquantities, hvalues⟩
      exact fun r hr r' hr' => (hrows r hr).2.symm.trans (hrows r' hr').2
    · rintro ⟨hvalue, hmultiplier, hquantities, hvalues⟩
      refine ⟨fun r hr => ⟨hvalue r hr, ?_⟩, hquantities, hvalues⟩
      exact hmultiplier row mem_cons_self r hr

theorem foldFrom_none {rows : List PositionRow}
    (h : foldFrom openAccumulator accumulate none rows = .ok result) :
    (rows = [] ∧ result = none) ∨ ∃ row ∈ rows, ∃ total, result = some total ∧
        AccumulatedOver (openAccumulator row) rows total := by
  cases rows with
  | nil => exact .inl ⟨rfl, (Except.ok.inj h).symm⟩
  | cons row rows =>
    have hopen : foldFrom openAccumulator accumulate
        (some (openAccumulator row)) (row :: rows) = .ok result := h
    obtain ⟨total, htotal, hover⟩ := foldFrom_positions hopen
    exact .inr ⟨row, mem_cons_self, total, htotal, hover⟩

theorem foldFrom_none_perm {rows rows' : List PositionRow}
    {result' : Option AggregatedPositionAccumulator} (hperm : rows.Perm rows')
    (hmultiplier : ∀ row ∈ rows, ∀ row' ∈ rows, row.2.multiplier = row'.2.multiplier)
    (h : foldFrom openAccumulator accumulate none rows = .ok result)
    (h' : foldFrom openAccumulator accumulate none rows' = .ok result') :
    result = result' := by
  rcases foldFrom_none h with ⟨rfl, rfl⟩ | ⟨row, hrow, total, rfl, hover⟩
  · obtain rfl := hperm.symm.eq_nil
    exact Except.ok.inj h'
  · rcases foldFrom_none h' with ⟨rfl, rfl⟩ | ⟨row', hrow', total', rfl, hover'⟩
    · obtain rfl := hperm.eq_nil
      exact absurd hrow not_mem_nil
    · have hquantity : total.quantity = total'.quantity := by
        apply Decimal.ext
        rw [hover.quantity, hover'.quantity, (hperm.map _).sum_eq]
        rfl
      have hvalue : total.marketValue = total'.marketValue := by
        apply Decimal.ext
        rw [hover.value, hover'.value, (hperm.map _).sum_eq]
        rfl
      have hsame : total.multiplier = total'.multiplier := by
        rw [hover.multiplier, hover'.multiplier]
        exact hmultiplier row hrow row' (hperm.mem_iff.mpr hrow')
      have hids : total.contributingAccountIds
          = total'.contributingAccountIds := by
        apply Std.ExtTreeSet.ext_mem
        intro id
        rw [hover.accountIds, hover'.accountIds]
        simp only [hperm.mem_iff]
        rfl
      obtain ⟨quantity, multiplier, marketValue, ids⟩ := total
      obtain ⟨quantity', multiplier', marketValue', ids'⟩ := total'
      simp_all

/-! ## Accounts that are aggregated -/

structure AccountsValid (accounts : List AccountPortfolioSnapshot) : Prop where
  size : accounts ≠ [] ∧ accounts.length ≤ u32Max
  headers : HeadersAgree accounts
  positions : ∀ a ∈ accounts, a.PositionsValid
  values : ∀ row ∈ positionRows accounts, ∃ value, row.2.marketValue = .ok value
  multipliers : ∀ row ∈ positionRows accounts,
    ∀ row' ∈ positionRows accounts, row.2.key = row'.2.key →
      row.2.multiplier = row'.2.multiplier

theorem exists_cash_iff : (∃ cash, (cashRows accounts).foldlM addCashRow ∅ = .ok cash) ↔
      ∀ currency, RunsWithin i128Min i128Max 0
        (amountsOf (.cash currency) accounts) := by
  constructor
  · rintro ⟨cash, hcash⟩ currency
    rw [addCashRow_eq, OrderedMap.foldlM_stepAt_eq_ok] at hcash
    have hkey := exists_foldFrom_cash.mp ⟨_, hcash currency⟩
    rw [cashRows_amounts] at hkey
    simpa using hkey
  · intro hfits
    rw [addCashRow_eq]
    apply OrderedMap.exists_foldlM_stepAt
    intro currency
    rw [exists_foldFrom_cash, cashRows_amounts]
    simpa using hfits currency

theorem exists_positions_iff :
    (∃ positions, (positionRows accounts).foldlM addRow ∅ = .ok positions) ↔
      ∀ key, RowsFit ((positionRows accounts).filter (·.2.key = key)) := by
  constructor
  · rintro ⟨positions, hpositions⟩ key
    rw [addRow, OrderedMap.foldlM_stepAt_eq_ok] at hpositions
    have hkey := hpositions key
    rw [Std.ExtTreeMap.getElem?_empty] at hkey
    exact exists_foldFrom_none_iff.mp ⟨_, hkey⟩
  · intro hfits
    rw [addRow]
    apply OrderedMap.exists_foldlM_stepAt
    intro key
    rw [Std.ExtTreeMap.getElem?_empty]
    exact exists_foldFrom_none_iff.mpr (hfits key)

theorem rowsFit_iff (hvalid : ∀ a ∈ accounts, a.PositionsValid) :
    (∀ key, RowsFit ((positionRows accounts).filter (·.2.key = key))) ↔
      (∀ row ∈ positionRows accounts, ∃ value, row.2.marketValue = .ok value) ∧
        (∀ row ∈ positionRows accounts, ∀ row' ∈ positionRows accounts,
          row.2.key = row'.2.key → row.2.multiplier = row'.2.multiplier) ∧
        ∀ key, RunsWithin i128Min i128Max 0
            (amountsOf (.quantity key) accounts) ∧
          RunsWithin i128Min i128Max 0 (amountsOf (.value key) accounts) := by
  simp only [RowsFit, (positionRows_amounts hvalid _).1,
    (positionRows_amounts hvalid _).2, mem_filter, decide_eq_true_eq]
  constructor
  · intro h
    refine ⟨fun row hrow => (h row.2.key).1 row ⟨hrow, rfl⟩, ?_,
      fun key => (h key).2.2⟩
    intro row hrow row' hrow' hkey
    exact (h row.2.key).2.1 row ⟨hrow, rfl⟩ row' ⟨hrow', hkey.symm⟩
  · rintro ⟨hvalues, hmultipliers, hruns⟩ key
    refine ⟨fun row hrow => hvalues row hrow.1, ?_, hruns key⟩
    intro row hrow row' hrow'
    exact hmultipliers row hrow.1 row' hrow'.1 (hrow.2.trans hrow'.2.symm)

/-- An aggregation succeeds exactly when the accounts are valid and every
running total is representable. -/
theorem exists_aggregate_iff :
    (∃ result, aggregateAccountPortfolios accounts = .ok result) ↔
      AccountsValid accounts ∧ TotalsFit accounts := by
  have hloop : (∃ result, aggregateAccountPortfolios accounts = .ok result) ↔
      (accounts ≠ [] ∧ accounts.length ≤ u32Max) ∧
        ∃ acc, accounts.foldlM addAccount .empty = .ok acc := by
    simp only [aggregateAccountPortfolios, bind_eq_ok, refuseIf_eq_ok,
      exists_const, not_or, not_lt]
    constructor
    · rintro ⟨_, hsize, acc, hacc, -⟩
      exact ⟨hsize, acc, hacc⟩
    · rintro ⟨hsize, acc, hacc⟩
      exact ⟨_, hsize, acc, hacc, rfl⟩
  rw [hloop]
  constructor
  · rintro ⟨hsize, acc, hacc⟩
    obtain ⟨hheader, hcash, hvalid, hrows⟩ := foldlM_addAccount.mp hacc
    obtain ⟨hvalues, hmultipliers, hruns⟩ :=
      (rowsFit_iff hvalid).mp (exists_positions_iff.mp ⟨_, hrows⟩)
    refine ⟨⟨hsize, exists_headers_iff.mp ⟨_, hheader⟩, hvalid, hvalues,
      hmultipliers⟩, ?_⟩
    intro total
    cases total with
    | cash currency => exact exists_cash_iff.mp ⟨_, hcash⟩ currency
    | quantity key => exact (hruns key).1
    | value key => exact (hruns key).2
  · rintro ⟨hvalid, hfits⟩
    obtain ⟨header, hheader⟩ := exists_headers_iff.mpr hvalid.headers
    obtain ⟨cash, hcash⟩ := exists_cash_iff.mpr
      fun currency => hfits (.cash currency)
    obtain ⟨positions, hpositions⟩ := exists_positions_iff.mpr
      ((rowsFit_iff hvalid.positions).mpr ⟨hvalid.values, hvalid.multipliers,
        fun key => ⟨hfits (.quantity key), hfits (.value key)⟩⟩)
    exact ⟨hvalid.size, ⟨header, cash, positions⟩, foldlM_addAccount.mpr
      ⟨hheader, hcash, hvalid.positions, hpositions⟩⟩

/-! ## Reordered accounts -/

/-- The same account with its positions in another order; its cash is kept
under ordered keys. -/
structure SameAccount (a b : AccountPortfolioSnapshot) : Prop where
  accountId : a.accountId = b.accountId
  asOf : a.asOf = b.asOf
  reconciliationId : a.reconciliationId = b.reconciliationId
  configurationFingerprint :
    a.configurationFingerprint = b.configurationFingerprint
  cash : a.cashByCurrency = b.cashByCurrency
  positions : a.positions.Perm b.positions

theorem SameAccount.symm {a b : AccountPortfolioSnapshot}
    (h : SameAccount a b) : SameAccount b a :=
  ⟨h.accountId.symm, h.asOf.symm, h.reconciliationId.symm,
    h.configurationFingerprint.symm, h.cash.symm, h.positions.symm⟩

def Reordered (accounts reordered : List AccountPortfolioSnapshot) : Prop :=
  ∃ order, accounts.Perm order ∧ List.Forall₂ SameAccount order reordered

theorem reordered_of_perm {reordered : List AccountPortfolioSnapshot}
    (h : accounts.Perm reordered) : Reordered accounts reordered :=
  ⟨reordered, h, List.forall₂_same.mpr
    fun _ _ => ⟨rfl, rfl, rfl, rfl, rfl, .refl _⟩⟩

section

variable {accounts order reordered : List AccountPortfolioSnapshot}

variable {a b : AccountPortfolioSnapshot}

theorem SameAccount.rows (h : SameAccount a b) : a.rows.Perm b.rows := by
  unfold AccountPortfolioSnapshot.rows
  rw [h.accountId]
  exact h.positions.map _

theorem positionRows_same (h : List.Forall₂ SameAccount order reordered) :
    (positionRows order).Perm (positionRows reordered) := by
  induction h with
  | nil => exact .refl _
  | cons hsame _ ih => exact hsame.rows.append ih

theorem cashRows_same (h : List.Forall₂ SameAccount order reordered) :
    cashRows order = cashRows reordered := by
  induction h with
  | nil => rfl
  | cons hsame _ ih =>
    simp only [cashRows, flatMap_cons] at ih ⊢
    rw [hsame.cash, ih]

theorem Reordered.positionRows (h : Reordered accounts reordered) :
    (positionRows accounts).Perm (positionRows reordered) := by
  obtain ⟨order, hperm, hsame⟩ := h
  exact (hperm.flatMap_right _).trans (positionRows_same hsame)

theorem Reordered.cashRows (h : Reordered accounts reordered) :
    (cashRows accounts).Perm (cashRows reordered) := by
  obtain ⟨order, hperm, hsame⟩ := h
  rw [← cashRows_same hsame]
  exact hperm.flatMap_right _

theorem Reordered.exists_same (h : Reordered accounts reordered)
    (hb : b ∈ reordered) : ∃ a ∈ accounts, SameAccount a b := by
  obtain ⟨order, hperm, hsame⟩ := h
  obtain ⟨i, hi, rfl⟩ := List.getElem_of_mem hb
  have hlength := hsame.length_eq
  have hi' : i < order.length := by omega
  exact ⟨order[i], hperm.mem_iff.mpr (List.getElem_mem hi'),
    (List.forall₂_iff_get.mp hsame).2 i hi' hi⟩

theorem Reordered.length_eq (h : Reordered accounts reordered) :
    accounts.length = reordered.length := by
  obtain ⟨order, hperm, hsame⟩ := h
  rw [hperm.length_eq, hsame.length_eq]

theorem compatible_same (h : List.Forall₂ SameAccount order reordered)
    (hpairs : order.Pairwise Compatible) : reordered.Pairwise Compatible := by
  induction h with
  | nil => exact .nil
  | @cons a b rest rest' hsame hrest ih =>
    rw [pairwise_cons] at hpairs ⊢
    refine ⟨?_, ih hpairs.2⟩
    intro c hc
    obtain ⟨c', hc', hother⟩ :=
      Reordered.exists_same ⟨rest, .refl _, hrest⟩ hc
    have hcompatible := hpairs.1 c' hc'
    refine ⟨?_, ?_, ?_⟩
    · rw [← hsame.accountId, ← hother.accountId]
      exact hcompatible.accountId
    · rw [← hsame.asOf, ← hother.asOf]
      exact hcompatible.asOf
    · rw [← hsame.configurationFingerprint, ← hother.configurationFingerprint]
      exact hcompatible.configurationFingerprint

theorem SameAccount.validateIds (h : SameAccount a b)
    : a.validateIds = b.validateIds := by
  unfold AccountPortfolioSnapshot.validateIds
  rw [h.accountId, h.asOf, h.reconciliationId, h.configurationFingerprint]

theorem SameAccount.positionsValid (h : SameAccount a b)
    (hvalid : a.PositionsValid) : b.PositionsValid where
  each := fun p hp => hvalid.each p (h.positions.mem_iff.mpr hp)
  keys := (h.positions.map _).nodup_iff.mp hvalid.keys

theorem AccountsValid.of_reordered (hvalid : AccountsValid accounts)
    (h : Reordered accounts reordered) : AccountsValid reordered where
  size := by
    refine ⟨fun hnil => hvalid.size.1 ?_, h.length_eq ▸ hvalid.size.2⟩
    apply List.eq_nil_of_length_eq_zero
    rw [h.length_eq, hnil]
    rfl
  headers := by
    constructor
    · intro b hb
      obtain ⟨a, ha, hsame⟩ := h.exists_same hb
      rw [← hsame.validateIds]
      exact hvalid.headers.valid a ha
    · obtain ⟨order, hperm, hsame⟩ := h
      exact compatible_same hsame
        (hperm.pairwise hvalid.headers.compatible fun hab => hab.symm)
  positions := by
    intro b hb
    obtain ⟨a, ha, hsame⟩ := h.exists_same hb
    exact hsame.positionsValid (hvalid.positions a ha)
  values := fun row hrow =>
    hvalid.values row (h.positionRows.mem_iff.mpr hrow)
  multipliers := fun row hrow row' hrow' =>
    hvalid.multipliers row (h.positionRows.mem_iff.mpr hrow) row'
      (h.positionRows.mem_iff.mpr hrow')

theorem Reordered.symm (h : Reordered accounts reordered) :
    Reordered reordered accounts := by
  obtain ⟨order, hperm, hsame⟩ := h
  have hflip : List.Forall₂ SameAccount reordered order :=
    hsame.flip.imp fun _ _ h => h.symm
  have hcomp : Relation.Comp (List.Forall₂ SameAccount) List.Perm reordered
      accounts := ⟨order, hflip, hperm.symm⟩
  rw [List.forall₂_comp_perm_eq_perm_comp_forall₂] at hcomp
  exact hcomp

theorem SameAccount.positionAt (h : SameAccount a b)
    (hvalid : a.PositionsValid) (key : PositionKey) :
    a.positionAt key = b.positionAt key := by
  have ha := filter_key_eq_find? hvalid.keys key
  have hb := filter_key_eq_find? (h.positionsValid hvalid).keys key
  have hperm := h.positions.filter fun p => p.key = key
  rw [ha, hb] at hperm
  unfold AccountPortfolioSnapshot.positionAt
  revert hperm
  cases a.positions.find? fun p => p.key = key with
  | none =>
    cases b.positions.find? fun p => p.key = key with
    | none => exact fun _ => rfl
    | some q => exact fun hperm => absurd hperm.length_eq (by simp)
  | some p =>
    cases b.positions.find? fun p => p.key = key with
    | none => exact fun hperm => absurd hperm.length_eq (by simp)
    | some q =>
      intro hperm
      rw [Option.toList_some, Option.toList_some,
        List.singleton_perm_singleton] at hperm
      rw [hperm]

theorem amountsOf_same (h : List.Forall₂ SameAccount order reordered)
    (hvalid : ∀ a ∈ order, a.PositionsValid) (total : AggregateTotal) :
    amountsOf total order = amountsOf total reordered := by
  unfold amountsOf contributed
  induction h with
  | nil => rfl
  | cons hsame _ ih =>
    rw [forall_mem_cons] at hvalid
    rw [flatMap_cons, flatMap_cons, ih hvalid.2]
    cases total <;>
      simp only [AccountPortfolioSnapshot.amount, hsame.cash, hsame.positionAt hvalid.1]

end

end Follon.Accounting
