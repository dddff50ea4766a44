import Follon.Accounting.AccountAggregation
import Mathlib.Data.List.Pairwise

/-!
# What an aggregation adds up

The loop over the accounts is a loop over headers, one over cash rows and one
over positions.  The last two keep every currency and every position key
apart, so an aggregation succeeds exactly when its accounts are consistent and
every running total is representable.
-/

namespace Follon.Accounting

open Foundation Domain

/-! ## Headers -/

structure Compatible (a b : AccountPortfolioSnapshot) : Prop where
  accountId : a.accountId ≠ b.accountId
  asOf : a.asOf = b.asOf
  configurationFingerprint :
    a.configurationFingerprint = b.configurationFingerprint

variable {a b : AccountPortfolioSnapshot} {header' : AggregationHeader}
  {acc acc' : Aggregation}

theorem Compatible.symm (h : Compatible a b) : Compatible b a :=
  ⟨h.accountId.symm, h.asOf.symm, h.configurationFingerprint.symm⟩

instance : Std.Symm Compatible := ⟨fun _ _ => Compatible.symm⟩

variable {accounts seen : List AccountPortfolioSnapshot}
  {header : AggregationHeader} {account : AccountPortfolioSnapshot}

theorem shared_of_pairwise (h : accounts.Pairwise Compatible)
    (ha : a ∈ accounts) (hb : b ∈ accounts) : a.asOf = b.asOf ∧
      a.configurationFingerprint = b.configurationFingerprint := by
  by_cases hsame : a = b
  · rw [hsame]
    exact ⟨rfl, rfl⟩
  · have hcompatible := h.forall ha hb hsame
    exact ⟨hcompatible.asOf, hcompatible.configurationFingerprint⟩

def reconciliationOf (accounts : List AccountPortfolioSnapshot)
    (accountId : String) : Option String :=
  (accounts.find? (·.accountId = accountId)).map (·.reconciliationId)

structure HeaderOver (seen : List AccountPortfolioSnapshot)
    (header : AggregationHeader) : Prop where
  compatible : seen.Pairwise Compatible
  accountIds : ∀ id : String, id ∈ header.accountIds ↔ ∃ a ∈ seen, a.accountId = id
  asOf : header.asOf = seen.head?.map (·.asOf)
  configurationFingerprint : header.configurationFingerprint
    = seen.head?.map (·.configurationFingerprint)
  reconciliationIds : ∀ id : String,
    header.reconciliationIds[id]? = reconciliationOf seen id

theorem headerOver_nil : HeaderOver [] Aggregation.empty.header where
  compatible := .nil
  accountIds := fun id => by simp [Aggregation.empty]
  asOf := rfl
  configurationFingerprint := rfl
  reconciliationIds := fun id => by simp [Aggregation.empty, reconciliationOf]

theorem addHeader_eq_ok : addHeader header account = .ok header' ↔
      account.validateIds = .ok () ∧ account.accountId ∉ header.accountIds ∧
        (∀ asOf ∈ header.asOf, asOf = account.asOf) ∧
        (∀ fingerprint ∈ header.configurationFingerprint,
          fingerprint = account.configurationFingerprint) ∧
        header' =
          { accountIds := header.accountIds.insert account.accountId
            asOf := some (header.asOf.getD account.asOf)
            configurationFingerprint := some
              (header.configurationFingerprint.getD account.configurationFingerprint)
            reconciliationIds :=
              header.reconciliationIds.insert account.accountId
                account.reconciliationId } := by
  have hany : ∀ (held : Option String) (value : String),
      ¬held.any (· != value) = true ↔ ∀ text ∈ held, text = value := by
    intro held value
    cases held <;> simp
  simp only [addHeader, bind_eq_ok, refuseIf_eq_ok, exists_const, pure_eq_ok, hany]
  constructor
  · rintro ⟨_, hvalid, hid, hasOf, hfingerprint, rfl⟩
    exact ⟨hvalid, hid, hasOf, hfingerprint, rfl⟩
  · rintro ⟨hvalid, hid, hasOf, hfingerprint, rfl⟩
    exact ⟨(), hvalid, hid, hasOf, hfingerprint, rfl⟩

theorem reconciliationOf_append
    (hnew : ∀ a ∈ seen, a.accountId ≠ account.accountId) (id : String) :
    reconciliationOf (seen ++ [account]) id
      = if account.accountId = id then some account.reconciliationId
        else reconciliationOf seen id := by
  unfold reconciliationOf
  rw [List.find?_append]
  split
  · next hsame =>
      have hnone : seen.find? (·.accountId = id) = none := by
        rw [List.find?_eq_none]
        intro a ha
        rw [← hsame]
        simpa using hnew a ha
      simp [hnone, hsame]
  · next hother => simp [hother]

theorem HeaderOver.addHeader (h : HeaderOver seen header)
    (account : AccountPortfolioSnapshot) :
    (∃ header', Accounting.addHeader header account = .ok header') ↔
      account.validateIds = .ok () ∧ ∀ a ∈ seen, Compatible a account := by
  have hhead : ∀ (f : AccountPortfolioSnapshot → String),
      (∀ a ∈ seen, ∀ b ∈ seen, f a = f b) →
        ((∀ text ∈ seen.head?.map f, text = f account) ↔
          ∀ a ∈ seen, f a = f account) := by
    intro f hsame
    cases hseen : seen with
    | nil => simp
    | cons first rest =>
      rw [hseen] at hsame
      simp only [List.head?_cons, Option.map_some, Option.mem_def,
        Option.some.injEq, forall_eq']
      exact ⟨fun hfirst a ha =>
        (hsame a ha first mem_cons_self).trans hfirst,
        fun hall => hall first mem_cons_self⟩
  simp only [addHeader_eq_ok, exists_and_left, exists_eq, and_true, h.asOf,
    h.configurationFingerprint, h.accountIds, not_exists, not_and]
  rw [hhead _ fun a ha b hb => (shared_of_pairwise h.compatible ha hb).1,
    hhead _ fun a ha b hb => (shared_of_pairwise h.compatible ha hb).2]
  refine and_congr_right fun _ => ?_
  constructor
  · rintro ⟨hid, hasOf, hfingerprint⟩ a ha
    exact ⟨hid a ha, hasOf a ha, hfingerprint a ha⟩
  · intro hcompatible
    exact ⟨fun a ha => (hcompatible a ha).accountId,
      fun a ha => (hcompatible a ha).asOf,
      fun a ha => (hcompatible a ha).configurationFingerprint⟩

theorem HeaderOver.next (h : HeaderOver seen header)
    (hadd : Accounting.addHeader header account = .ok header') :
    HeaderOver (seen ++ [account]) header' := by
  have hcompatible := ((h.addHeader account).mp ⟨header', hadd⟩).2
  obtain ⟨-, -, -, -, rfl⟩ := addHeader_eq_ok.mp hadd
  refine ⟨?_, ?_, ?_, ?_, ?_⟩
  · rw [pairwise_append]
    refine ⟨h.compatible, List.pairwise_singleton _ _, ?_⟩
    intro a ha b hb
    rw [mem_singleton.mp hb]
    exact hcompatible a ha
  · intro id
    rw [mem_insert, Std.LawfulEqCmp.compare_eq_iff_eq, h.accountIds]
    simp [or_comm]
  · rw [h.asOf]
    cases seen <;> rfl
  · rw [h.configurationFingerprint]
    cases seen <;> rfl
  · intro id
    rw [reconciliationOf_append fun a ha => (hcompatible a ha).accountId,
      ← h.reconciliationIds]
    split
    · next hsame =>
        subst hsame
        exact getElem?_insert_self _ _ _
    · next hother =>
        exact getElem?_insert_of_ne _ _ hother

structure HeadersAgree (accounts : List AccountPortfolioSnapshot) : Prop where
  valid : ∀ a ∈ accounts, a.validateIds = .ok ()
  compatible : accounts.Pairwise Compatible

theorem HeaderOver.exists_foldlM (h : HeaderOver seen header) :
    (∃ header', accounts.foldlM Accounting.addHeader header = .ok header') ↔
      HeadersAgree accounts ∧
        ∀ a ∈ seen, ∀ b ∈ accounts, Compatible a b := by
  induction accounts generalizing seen header with
  | nil => exact iff_of_true ⟨header, rfl⟩ ⟨⟨by simp, .nil⟩, by simp⟩
  | cons account rest ih =>
    simp only [foldlM_cons, bind_eq_ok]
    constructor
    · rintro ⟨header', next, hnext, hrest⟩
      obtain ⟨hvalid, hcompatible⟩ := (h.addHeader account).mp ⟨next, hnext⟩
      obtain ⟨hagree, hseen⟩ := (ih (h.next hnext)).mp ⟨header', hrest⟩
      simp only [mem_append, mem_singleton] at hseen
      refine ⟨⟨forall_mem_cons.mpr ⟨hvalid, hagree.valid⟩, pairwise_cons.mpr
          ⟨fun b hb => hseen account (.inr rfl) b hb, hagree.compatible⟩⟩, ?_⟩
      intro a ha
      exact forall_mem_cons.mpr
        ⟨hcompatible a ha, fun b hb => hseen a (.inl ha) b hb⟩
    · rintro ⟨hagree, hseen⟩
      have hvalid := forall_mem_cons.mp hagree.valid
      have hpairs := pairwise_cons.mp hagree.compatible
      obtain ⟨next, hnext⟩ := (h.addHeader account).mpr
        ⟨hvalid.1, fun a ha => hseen a ha account mem_cons_self⟩
      obtain ⟨header', hrest⟩ := (ih (h.next hnext)).mpr ⟨⟨hvalid.2,
        hpairs.2⟩, fun a ha b hb => by
          rcases mem_append.mp ha with ha | ha
          · exact hseen a ha b (mem_cons_of_mem _ hb)
          · rw [mem_singleton.mp ha]
            exact hpairs.1 b hb⟩
      exact ⟨header', next, hnext, hrest⟩

theorem exists_headers_iff : (∃ header, accounts.foldlM addHeader Aggregation.empty.header
        = .ok header) ↔ HeadersAgree accounts := by
  rw [headerOver_nil.exists_foldlM]
  simp

theorem headerOver_of_foldlM
    (h : accounts.foldlM addHeader Aggregation.empty.header = .ok header) :
    HeaderOver accounts header := by
  have hover : HeaderOver ([] ++ accounts) header :=
    foldlM_over (fun _ _ _ _ hseen hstep => hseen.next hstep) headerOver_nil h
  exact hover

/-! ## Rows -/

def cashRows (accounts : List AccountPortfolioSnapshot) : List (Currency × Decimal) :=
  accounts.flatMap (·.cashByCurrency.toList)

def AccountPortfolioSnapshot.rows (account : AccountPortfolioSnapshot) :
    List PositionRow :=
  account.positions.map (account.accountId, ·)

def positionRows (accounts : List AccountPortfolioSnapshot) : List PositionRow :=
  accounts.flatMap (·.rows)

structure AccountPortfolioSnapshot.PositionsValid
    (account : AccountPortfolioSnapshot) : Prop where
  each : ∀ p ∈ account.positions, p.validateAggregated = .ok ()
  keys : (account.positions.map (·.key)).Nodup

theorem addPosition_eq_ok {accountId : String} {position : MarginPosition}
    {acc acc' : OrderedMap PositionKey AggregatedPositionAccumulator ×
      OrderedSet PositionKey} : addPosition accountId acc position = .ok acc' ↔
      position.validateAggregated = .ok () ∧ position.key ∉ acc.2 ∧
        addRow acc.1 (accountId, position) = .ok acc'.1 ∧
        acc'.2 = acc.2.insert position.key := by
  simp only [addPosition, bind_eq_ok, refuseIf_eq_ok, exists_const, pure_eq_ok]
  constructor
  · rintro ⟨_, hvalid, hkey, positions, hpositions, rfl⟩
    exact ⟨hvalid, hkey, hpositions, rfl⟩
  · rintro ⟨hvalid, hkey, hpositions, hseen⟩
    exact ⟨(), hvalid, hkey, acc'.1, hpositions, Prod.ext rfl hseen.symm⟩

theorem foldlM_addPosition {accountId : String} {positions : List MarginPosition}
    {map map' : OrderedMap PositionKey AggregatedPositionAccumulator}
    {seen : OrderedSet PositionKey} :
    (∃ seen', positions.foldlM (addPosition accountId) (map, seen) = .ok (map', seen')) ↔
      (∀ p ∈ positions, p.validateAggregated = .ok () ∧ p.key ∉ seen) ∧
        (positions.map (·.key)).Nodup ∧
        (positions.map (accountId, ·)).foldlM addRow map = .ok map' := by
  induction positions generalizing map seen with
  | nil =>
    simp only [List.foldlM_nil, map_nil, pure_eq_ok, Prod.mk.injEq, exists_and_left, exists_eq', and_true]
    simp
  | cons position rest ih =>
    simp only [foldlM_cons, map_cons, bind_eq_ok, forall_mem_cons,
      nodup_cons, mem_map, not_exists, not_and]
    constructor
    · rintro ⟨seen', ⟨next, nextSeen⟩, hnext, hrest⟩
      obtain ⟨hvalid, hkey, hrow, rfl⟩ := addPosition_eq_ok.mp hnext
      obtain ⟨hall, hnodup, hloop⟩ := ih.mp ⟨seen', hrest⟩
      simp only [mem_insert,
        Std.LawfulEqCmp.compare_eq_iff_eq, not_or] at hall
      exact ⟨⟨⟨hvalid, hkey⟩, fun p hp => ⟨(hall p hp).1, (hall p hp).2.2⟩⟩,
        ⟨fun p hp hsame => (hall p hp).2.1 hsame.symm, hnodup⟩,
        next, hrow, hloop⟩
    · rintro ⟨⟨⟨hvalid, hkey⟩, hall⟩, ⟨hfresh, hnodup⟩, next, hrow, hloop⟩
      obtain ⟨seen', hrest⟩ := (@ih _ (seen.insert position.key)).mpr
        ⟨fun p hp => ⟨(hall p hp).1, by
          rw [mem_insert, Std.LawfulEqCmp.compare_eq_iff_eq, not_or]
          exact ⟨fun hsame => hfresh p hp hsame.symm, (hall p hp).2⟩⟩,
          hnodup, hloop⟩
      exact ⟨seen', (next, _), addPosition_eq_ok.mpr
        ⟨hvalid, hkey, hrow, rfl⟩, hrest⟩

theorem addAccount_eq_ok : addAccount acc account = .ok acc' ↔
      addHeader acc.header account = .ok acc'.header ∧
        account.cashByCurrency.toList.foldlM addCashRow acc.cash = .ok acc'.cash ∧
        account.PositionsValid ∧
        account.rows.foldlM addRow acc.positions = .ok acc'.positions := by
  simp only [addAccount, bind_eq_ok, pure_eq_ok]
  constructor
  · rintro ⟨header, hheader, cash, hcash, ⟨positions, seen⟩, hpositions, rfl⟩
    obtain ⟨hall, hnodup, hrows⟩ := foldlM_addPosition.mp ⟨seen, hpositions⟩
    exact ⟨hheader, hcash, ⟨fun p hp => (hall p hp).1, hnodup⟩, hrows⟩
  · rintro ⟨hheader, hcash, hvalid, hrows⟩
    obtain ⟨seen, hpositions⟩ := (@foldlM_addPosition _ _ _ _ ∅).mpr
      ⟨fun p hp => ⟨hvalid.each p hp, by simp⟩, hvalid.keys, hrows⟩
    exact ⟨_, hheader, _, hcash, _, hpositions, rfl⟩

theorem foldlM_addAccount : accounts.foldlM addAccount acc = .ok acc' ↔
      accounts.foldlM addHeader acc.header = .ok acc'.header ∧
        (cashRows accounts).foldlM addCashRow acc.cash = .ok acc'.cash ∧
        (∀ a ∈ accounts, a.PositionsValid) ∧
        (positionRows accounts).foldlM addRow acc.positions
          = .ok acc'.positions := by
  induction accounts generalizing acc with
  | nil =>
    simp only [cashRows, positionRows, List.flatMap_nil, List.foldlM_nil, pure_eq_ok,
      not_mem_nil, false_implies, implies_true, true_and]
    obtain ⟨header, cash, positions⟩ := acc
    obtain ⟨header', cash', positions'⟩ := acc'
    exact Aggregation.mk.injEq .. ▸ Iff.rfl
  | cons account rest ih =>
    simp only [cashRows, positionRows, flatMap_cons, foldlM_cons,
      List.foldlM_append, bind_eq_ok, forall_mem_cons] at ih ⊢
    constructor
    · rintro ⟨next, hnext, hrest⟩
      obtain ⟨hheader, hcash, hvalid, hrows⟩ := addAccount_eq_ok.mp hnext
      obtain ⟨hheader', hcash', hvalid', hrows'⟩ := ih.mp hrest
      exact ⟨⟨_, hheader, hheader'⟩, ⟨_, hcash, hcash'⟩, ⟨hvalid, hvalid'⟩,
        ⟨_, hrows, hrows'⟩⟩
    · rintro ⟨⟨header, hheader, hheader'⟩, ⟨cash, hcash, hcash'⟩,
        ⟨hvalid, hvalid'⟩, ⟨positions, hrows, hrows'⟩⟩
      exact ⟨⟨header, cash, positions⟩, addAccount_eq_ok.mpr ⟨hheader, hcash, hvalid,
        hrows⟩, ih.mpr ⟨hheader', hcash', hvalid', hrows'⟩⟩

end Follon.Accounting
