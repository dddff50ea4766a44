import Follon.Accounting.AggregationOrder

/-!
# Aggregation in every order

When an aggregation succeeds, every reordering of its accounts that succeeds
gives the same projection.  Whether all reorderings succeed depends on the
gains and the losses of each total.
-/

namespace Follon.Accounting

open Foundation Domain

variable {accounts reordered : List AccountPortfolioSnapshot}

/-! ## One projection -/

theorem aggregate_eq_ok {result : MultiAccountPortfolioSnapshot} :
    aggregateAccountPortfolios accounts = .ok result ↔
      (accounts ≠ [] ∧ accounts.length ≤ u32Max) ∧
        ∃ acc, accounts.foldlM addAccount .empty = .ok acc ∧ result =
            { asOf := acc.header.asOf.getD ""
              configurationFingerprint :=
                acc.header.configurationFingerprint.getD ""
              accountCount := accounts.length
              reconciliationIdsByAccount := acc.header.reconciliationIds
              cashByCurrency := acc.cash
              positions := acc.positions.toList.map aggregatedPosition } := by
  simp only [aggregateAccountPortfolios, bind_eq_ok, refuseIf_eq_ok,
    exists_const, not_or, not_lt, pure_eq_ok]
  constructor
  · rintro ⟨hsize, acc, hacc, rfl⟩
    exact ⟨hsize, acc, hacc, rfl⟩
  · rintro ⟨hsize, acc, hacc, rfl⟩
    exact ⟨hsize, acc, hacc, rfl⟩

theorem reconciliationOf_eq_some (h : accounts.Pairwise Compatible)
    {id reconciliationId : String} :
    reconciliationOf accounts id = some reconciliationId ↔
      ∃ a ∈ accounts, a.accountId = id ∧
        a.reconciliationId = reconciliationId := by
  unfold reconciliationOf
  rw [map_eq_some_iff]
  constructor
  · rintro ⟨a, ha, hsame⟩
    have hid := List.find?_some ha
    exact ⟨a, List.mem_of_find?_eq_some ha, of_decide_eq_true hid, hsame⟩
  · rintro ⟨a, ha, hid, hsame⟩
    cases hfound : accounts.find? fun b => b.accountId = id with
    | none =>
      rw [List.find?_eq_none] at hfound
      exact absurd (decide_eq_true hid) (hfound a ha)
    | some b =>
      have hb := List.mem_of_find?_eq_some hfound
      have hbid := List.find?_some hfound
      simp only [decide_eq_true_eq] at hbid
      have hab : b = a := by
        by_contra hne
        exact (h.forall hb ha hne).accountId (hbid.trans hid.symm)
      exact ⟨b, rfl, hab ▸ hsame⟩

theorem Reordered.reconciliationOf (h : Reordered accounts reordered)
    (hvalid : HeadersAgree accounts) (hvalid' : HeadersAgree reordered)
    (id : String) : Accounting.reconciliationOf accounts id
      = Accounting.reconciliationOf reordered id := by
  apply Option.ext
  intro reconciliationId
  rw [reconciliationOf_eq_some hvalid.compatible,
    reconciliationOf_eq_some hvalid'.compatible]
  constructor
  · rintro ⟨a, ha, hid, hsame⟩
    obtain ⟨b, hb, hab⟩ := h.symm.exists_same ha
    exact ⟨b, hb, hab.accountId.trans hid, hab.reconciliationId.trans hsame⟩
  · rintro ⟨b, hb, hid, hsame⟩
    obtain ⟨a, ha, hab⟩ := h.exists_same hb
    exact ⟨a, ha, hab.accountId.trans hid, hab.reconciliationId.trans hsame⟩

theorem Reordered.head_text (h : Reordered accounts reordered)
    (hne : accounts ≠ []) {text : AccountPortfolioSnapshot → String}
    (hshared : ∀ a ∈ accounts, ∀ b ∈ accounts, text a = text b)
    (hsame : ∀ a b, SameAccount a b → text a = text b) :
    accounts.head?.map text = reordered.head?.map text := by
  obtain ⟨first, rest, rfl⟩ := List.exists_cons_of_ne_nil hne
  cases hreordered : reordered with
  | nil =>
    have hlength := h.length_eq
    rw [hreordered] at hlength
    simp at hlength
  | cons first' rest' =>
    obtain ⟨a, ha, hab⟩ := h.exists_same
      (hreordered ▸ mem_cons_self : first' ∈ reordered)
    rw [List.head?_cons, List.head?_cons, Option.map_some, Option.map_some,
      hshared first mem_cons_self a ha, hsame a first' hab]

theorem Reordered.cash_eq (h : Reordered accounts reordered)
    {cash cash' : OrderedMap Currency Decimal}
    (hcash : (Accounting.cashRows accounts).foldlM addCashRow ∅ = .ok cash)
    (hcash' : (Accounting.cashRows reordered).foldlM addCashRow ∅ = .ok cash') :
    cash = cash' := by
  rw [addCashRow_eq, OrderedMap.foldlM_stepAt_eq_ok] at hcash hcash'
  apply ext_getElem?
  intro currency
  have hperm := h.cashRows.filter fun row => row.1 = currency
  obtain ⟨hsum, hsome⟩ := foldFrom_cash (hcash currency)
  obtain ⟨hsum', hsome'⟩ := foldFrom_cash (hcash' currency)
  rw [← (hperm.map _).sum_eq, ← hsum] at hsum'
  rw [← hperm.isEmpty_eq, ← hsome] at hsome'
  revert hsum' hsome'
  cases cash[currency]? <;> cases cash'[currency]? <;>
    simp [scaled_inj, eq_comm]

theorem Reordered.positions_eq (h : Reordered accounts reordered)
    (hvalid : AccountsValid accounts)
    {positions positions' : OrderedMap PositionKey AggregatedPositionAccumulator}
    (hpositions : (Accounting.positionRows accounts).foldlM addRow ∅ = .ok positions)
    (hpositions' : (Accounting.positionRows reordered).foldlM addRow ∅
      = .ok positions') : positions = positions' := by
  rw [addRow, OrderedMap.foldlM_stepAt_eq_ok] at hpositions hpositions'
  apply ext_getElem?
  intro key
  have hkey := hpositions key
  have hkey' := hpositions' key
  rw [Std.ExtTreeMap.getElem?_empty] at hkey hkey'
  refine foldFrom_none_perm (h.positionRows.filter _) ?_ hkey hkey'
  intro row hrow row' hrow'
  rw [mem_filter] at hrow hrow'
  exact hvalid.multipliers row hrow.1 row' hrow'.1
    ((of_decide_eq_true hrow.2).trans (of_decide_eq_true hrow'.2).symm)

theorem Reordered.result_eq (h : Reordered accounts reordered)
    {result result' : MultiAccountPortfolioSnapshot}
    (hresult : aggregateAccountPortfolios accounts = .ok result)
    (hresult' : aggregateAccountPortfolios reordered = .ok result') :
    result = result' := by
  have hvalid := (exists_aggregate_iff.mp ⟨_, hresult⟩).1
  have hvalid' := (exists_aggregate_iff.mp ⟨_, hresult'⟩).1
  obtain ⟨-, acc, hacc, rfl⟩ := aggregate_eq_ok.mp hresult
  obtain ⟨-, acc', hacc', rfl⟩ := aggregate_eq_ok.mp hresult'
  obtain ⟨hheader, hcash, -, hpositions⟩ := foldlM_addAccount.mp hacc
  obtain ⟨hheader', hcash', -, hpositions'⟩ := foldlM_addAccount.mp hacc'
  have hover := headerOver_of_foldlM hheader
  have hover' := headerOver_of_foldlM hheader'
  have hasOf : acc.header.asOf = acc'.header.asOf := by
    rw [hover.asOf, hover'.asOf]
    exact h.head_text hvalid.size.1
      (fun a ha b hb => (shared_of_pairwise hover.compatible ha hb).1)
      fun _ _ hab => hab.asOf
  have hfingerprint : acc.header.configurationFingerprint
      = acc'.header.configurationFingerprint := by
    rw [hover.configurationFingerprint, hover'.configurationFingerprint]
    exact h.head_text hvalid.size.1
      (fun a ha b hb => (shared_of_pairwise hover.compatible ha hb).2)
      fun _ _ hab => hab.configurationFingerprint
  have hids : acc.header.reconciliationIds
      = acc'.header.reconciliationIds := by
    apply ext_getElem?
    intro id
    rw [hover.reconciliationIds, hover'.reconciliationIds]
    exact h.reconciliationOf hvalid.headers hvalid'.headers id
  rw [hasOf, hfingerprint, hids, h.length_eq, h.cash_eq hcash hcash',
    h.positions_eq hvalid hpositions hpositions']

/-! ## Every order -/

def PartsFit (accounts : List AccountPortfolioSnapshot) : Prop :=
  ∀ total, i128Min ≤ losses (amountsOf total accounts) ∧
    gains (amountsOf total accounts) ≤ i128Max

theorem PartsFit.totalsFit (hparts : PartsFit accounts)
    (hvalid : AccountsValid accounts) (h : Reordered accounts reordered) :
    TotalsFit reordered := by
  obtain ⟨order, hperm, hsame⟩ := h
  have hpositions : ∀ a ∈ order, a.PositionsValid :=
    fun a ha => hvalid.positions a (hperm.mem_iff.mpr ha)
  intro total
  rw [← amountsOf_same hsame hpositions total]
  exact runsWithin_all_orders_iff.mpr (hparts total) order hperm.symm

theorem partsFit_of_totalsFit (h : ∀ order, accounts.Perm order → TotalsFit order) :
    PartsFit accounts :=
  fun total => runsWithin_all_orders_iff.mp fun order hperm =>
    h order hperm.symm total

/-- Every reordering of the accounts gives the same projection or an error for
both, exactly when a check refuses the accounts, or the gains and the losses
of every total are representable, or no order keeps every running total
representable. -/
theorem aggregation_order_independent_iff (accounts : List AccountPortfolioSnapshot) :
    (∀ reordered, Reordered accounts reordered → ∀ result,
        aggregateAccountPortfolios accounts = .ok result ↔
          aggregateAccountPortfolios reordered = .ok result) ↔
      ¬AccountsValid accounts ∨ PartsFit accounts ∨
        ∀ reordered, Reordered accounts reordered → ¬TotalsFit reordered := by
  constructor
  · intro hsame
    by_contra hnone
    rw [not_or, not_or, not_not] at hnone
    obtain ⟨hvalid, hparts, hfits⟩ := hnone
    simp only [not_forall, not_not] at hfits
    obtain ⟨reordered, hreordered, hfits⟩ := hfits
    obtain ⟨result, hresult⟩ := exists_aggregate_iff.mpr
      ⟨hvalid.of_reordered hreordered, hfits⟩
    have haccounts := (hsame reordered hreordered result).mpr hresult
    apply hparts
    apply partsFit_of_totalsFit
    intro order hperm
    have horder := (hsame order (reordered_of_perm hperm) result).mp haccounts
    exact (exists_aggregate_iff.mp ⟨result, horder⟩).2
  · intro h reordered hreordered result
    have hboth : (∃ result, aggregateAccountPortfolios accounts = .ok result) ↔
        ∃ result, aggregateAccountPortfolios reordered = .ok result := by
      simp only [exists_aggregate_iff]
      rcases h with hinvalid | hparts | hnone
      · refine iff_of_false (fun hok => hinvalid hok.1) fun hok => hinvalid ?_
        exact hok.1.of_reordered hreordered.symm
      · constructor
        · exact fun hok => ⟨hok.1.of_reordered hreordered,
            hparts.totalsFit hok.1 hreordered⟩
        · intro hok
          have hvalid := hok.1.of_reordered hreordered.symm
          exact ⟨hvalid, hparts.totalsFit hvalid (reordered_of_perm (.refl _))⟩
      · exact iff_of_false
          (fun hok => hnone accounts (reordered_of_perm (.refl _)) hok.2)
          fun hok => hnone reordered hreordered hok.2
    constructor
    · intro hresult
      obtain ⟨result', hresult'⟩ := hboth.mp ⟨result, hresult⟩
      rw [hreordered.result_eq hresult hresult']
      exact hresult'
    · intro hresult
      obtain ⟨result', hresult'⟩ := hboth.mpr ⟨result, hresult⟩
      rw [← hreordered.result_eq hresult' hresult]
      exact hresult'

namespace AggregationRun

def usd : Currency := .usd

def holding (accountId : String) (cash : Decimal) : AccountPortfolioSnapshot where
  accountId := accountId
  asOf := "2026-01-05T15:00:00Z"
  reconciliationId := "rec-1"
  configurationFingerprint :=
    "b28709d3970f500b5bc52bfb71de46b2c6a287f8d50c6eb7af8042172c00b388"
  cashByCurrency := (∅ : OrderedMap Currency Decimal).insert usd cash
  positions := []

def rich (accountId : String) : AccountPortfolioSnapshot :=
  holding accountId .greatest

def poor : AccountPortfolioSnapshot := holding "acct-3" .least

/-- Two of the largest balances overflow unless the debt stands between. -/
theorem debt_between_succeeds :
    ¬∀ accounts reordered, Reordered accounts reordered → ∀ result,
      aggregateAccountPortfolios accounts = .ok result ↔
        aggregateAccountPortfolios reordered = .ok result := by
  intro hsame
  have hreordered : Reordered [rich "acct-1", poor, rich "acct-2"]
      [rich "acct-1", rich "acct-2", poor] :=
    reordered_of_perm (.cons _ (.swap _ _ _))
  have hok : (aggregateAccountPortfolios
      [rich "acct-1", poor, rich "acct-2"]).toOption.isSome = true := by
    decide
  have herror : (aggregateAccountPortfolios
      [rich "acct-1", rich "acct-2", poor]).toOption.isSome = false := by
    decide
  cases hresult : aggregateAccountPortfolios
      [rich "acct-1", poor, rich "acct-2"] with
  | error e =>
    rw [hresult] at hok
    contradiction
  | ok result =>
    rw [(hsame _ _ hreordered result).mp hresult] at herror
    contradiction

end AggregationRun

end Follon.Accounting
