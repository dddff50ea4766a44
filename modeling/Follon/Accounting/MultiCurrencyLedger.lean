import Follon.Accounting.TaxLots
import Follon.Foundation.MapTotals

/-!
# The multi-currency ledger

A projection of an append-only double-entry journal.  A transaction is posted
once, as a whole, and only when it balances in every currency.
-/

namespace Follon.Accounting

open Foundation Domain

/-! ## Posting -/

structure JournalLine where
  accountId : String
  currency : Currency
  (debit credit : Decimal)
  deriving DecidableEq

def JournalLine.validate (line : JournalLine) : Result Unit := do
  validateCanonicalId "ledger account_id" line.accountId
  refuseIf (line.debit < Decimal.zero ∨ line.credit < Decimal.zero ∨
      (Decimal.zero < line.debit ↔ Decimal.zero < line.credit))
    "journal line must have exactly one positive debit or credit"

structure JournalTransaction where
  (transactionId tenantId referenceId : String)
  lines : List JournalLine
  deriving DecidableEq

abbrev BalanceKey : Type :=
  String × Currency

instance : Ord BalanceKey := lexOrd

def JournalTransaction.validateIds (transaction : JournalTransaction) : Result Unit := do
  validateCanonicalId "transaction_id" transaction.transactionId
  validateCanonicalId "tenant_id" transaction.tenantId
  validateCanonicalId "reference_id" transaction.referenceId

structure MultiCurrencyLedger where
  balances : OrderedMap BalanceKey Decimal
  appliedTransactions : OrderedSet String
  deriving DecidableEq

abbrev CurrencyTotals : Type :=
  OrderedMap Currency (Decimal × Decimal)

def addLine (totals : CurrencyTotals) (line : JournalLine) : Result CurrencyTotals := do
  line.validate
  let held := totals[line.currency]?.getD (Decimal.zero, Decimal.zero)
  let debits ← held.1.checkedAdd line.debit
  let credits ← held.2.checkedAdd line.credit
  pure (totals.insert line.currency (debits, credits))

def postLine (projected : OrderedMap BalanceKey Decimal) (line : JournalLine) :
    Result (OrderedMap BalanceKey Decimal) := do
  let current := projected[(line.accountId, line.currency)]?.getD Decimal.zero
  let signed ← line.debit.checkedSub line.credit
  let balance ← current.checkedAdd signed
  pure (projected.insert (line.accountId, line.currency) balance)

namespace MultiCurrencyLedger

def empty : MultiCurrencyLedger := ⟨∅, ∅⟩

def balance (ledger : MultiCurrencyLedger) (accountId : String)
    (currency : Currency) : Decimal :=
  ledger.balances[(accountId, currency)]?.getD Decimal.zero

abbrev LedgerM (α : Type) : Type :=
  Fallible MultiCurrencyLedger PaperError α

def project (ledger : MultiCurrencyLedger) (transaction : JournalTransaction) :
    Result (OrderedMap BalanceKey Decimal) := do
  refuseIf (transaction.lines.length < 2)
    "journal transaction requires at least two lines"
  let currencyTotals ← transaction.lines.foldlM addLine ∅
  refuseIf
    (currencyTotals.values.any (fun totals => totals.1 != totals.2) = true)
    "journal transaction is not balanced in every currency"
  transaction.lines.foldlM postLine ledger.balances

def post (transaction : JournalTransaction) : LedgerM Bool := do
  lift transaction.validateIds
  let ledger ← Fallible.read
  if transaction.transactionId ∈ ledger.appliedTransactions then
    pure false
  else do
    let projected ← lift (ledger.project transaction)
    update fun ledger =>
      { balances := projected
        appliedTransactions :=
          ledger.appliedTransactions.insert transaction.transactionId }
    pure true

end MultiCurrencyLedger

/-! ## Amounts of lines -/

def JournalLine.amount (line : JournalLine) : Int :=
  line.debit.scaled - line.credit.scaled

def postedTo (key : BalanceKey) (lines : List JournalLine) : Int :=
  ((lines.filter fun line => (line.accountId, line.currency) = key).map
    JournalLine.amount).sum

def postedIn (currency : Currency) (lines : List JournalLine) : Int :=
  ((lines.filter fun line => line.currency = currency).map
    JournalLine.amount).sum

@[simp] theorem postedTo_nil (key : BalanceKey) : postedTo key [] = 0 := rfl

@[simp] theorem postedIn_nil (currency : Currency) : postedIn currency [] = 0 := rfl

theorem postedTo_append (key : BalanceKey) (left right : List JournalLine) :
    postedTo key (left ++ right) = postedTo key left + postedTo key right := by
  simp [postedTo]

theorem postedIn_append (currency : Currency) (left right : List JournalLine) :
    postedIn currency (left ++ right)
      = postedIn currency left + postedIn currency right := by
  simp [postedIn]

theorem postedTo_singleton (key : BalanceKey) (line : JournalLine) : postedTo key [line]
      = if (line.accountId, line.currency) = key then line.amount else 0 := by
  unfold postedTo
  split <;> simp [*]

theorem postedIn_singleton (currency : Currency) (line : JournalLine) :
    postedIn currency [line]
      = if line.currency = currency then line.amount else 0 := by
  unfold postedIn
  split <;> simp [*]

/-! ## What the loops compute -/

def TotalsOver (lines : List JournalLine) (totals : CurrencyTotals) : Prop :=
  ∀ currency : Currency,
    let held := totals[currency]?.getD (Decimal.zero, Decimal.zero)
    held.1.scaled - held.2.scaled = postedIn currency lines

variable {seen : List JournalLine} {line : JournalLine}
  {totals : CurrencyTotals} {projected : OrderedMap BalanceKey Decimal}

theorem addLine_totals {totals' : CurrencyTotals}
    (hseen : TotalsOver seen totals) (h : addLine totals line = .ok totals') :
    TotalsOver (seen ++ [line]) totals' := by
  simp only [addLine, bind_eq_ok, checkedAdd_eq_ok] at h
  obtain ⟨_, -, debits, hdebits, credits, hcredits, h⟩ := h
  obtain rfl := Except.ok.inj h
  intro currency
  have hbefore := hseen currency
  rw [postedIn_append, postedIn_singleton, ← hbefore]
  by_cases hcurrency : line.currency = currency
  · subst hcurrency
    rw [getElem?_insert_self, if_pos rfl]
    simp only [getD_some, JournalLine.amount]
    omega
  · rw [getElem?_insert_of_ne totals _ hcurrency, if_neg hcurrency, Int.add_zero]

theorem postedIn_eq_zero {lines : List JournalLine} (htotals : TotalsOver lines totals)
    (hbalanced : ¬totals.values.any (fun totals => totals.1 != totals.2) = true)
    (currency : Currency) : postedIn currency lines = 0 := by
  rw [← htotals currency]
  cases hheld : totals[currency]? with
  | none => rfl
  | some held =>
    have hequal : held.1 = held.2 := by
      by_contra hne
      apply hbalanced
      rw [List.any_eq_true]
      refine ⟨held, OrderedMap.mem_values.mpr ⟨currency, hheld⟩, ?_⟩
      exact bne_iff_ne.mpr hne
    simp only [getD_some, hequal]
    omega

def totalIn (currency : Currency) (balances : OrderedMap BalanceKey Decimal) : Int :=
  balances.entryTotal fun key held =>
    if key.2 = currency then held.scaled else 0

structure PostedOver (balances : OrderedMap BalanceKey Decimal)
    (lines : List JournalLine) (projected : OrderedMap BalanceKey Decimal) :
    Prop where
  balance : ∀ key : BalanceKey, (projected[key]?.getD Decimal.zero).scaled
      = (balances[key]?.getD Decimal.zero).scaled + postedTo key lines
  total : ∀ currency : Currency, totalIn currency projected
      = totalIn currency balances + postedIn currency lines

theorem postLine_posted {balances : OrderedMap BalanceKey Decimal}
    {projected' : OrderedMap BalanceKey Decimal}
    (hseen : PostedOver balances seen projected)
    (h : postLine projected line = .ok projected') :
    PostedOver balances (seen ++ [line]) projected' := by
  simp only [postLine, bind_eq_ok, checkedAdd_eq_ok,
    checkedSub_eq_ok] at h
  obtain ⟨signed, hsigned, balance, hbalance, h⟩ := h
  obtain rfl := Except.ok.inj h
  constructor
  · intro key
    rw [postedTo_append, postedTo_singleton, ← Int.add_assoc, ← hseen.balance key]
    by_cases hkey : (line.accountId, line.currency) = key
    · subst hkey
      rw [getElem?_insert_self, if_pos rfl]
      simp only [getD_some, JournalLine.amount]
      omega
    · rw [getElem?_insert_of_ne projected _ hkey, if_neg hkey, Int.add_zero]
  · intro currency
    rw [postedIn_append, postedIn_singleton, ← Int.add_assoc,
      ← hseen.total currency, totalIn, OrderedMap.entryTotal_insert]
    have hcurrent : projected[(line.accountId, line.currency)]?.elim 0
        (fun held : Decimal => held.scaled)
          = (projected[(line.accountId, line.currency)]?.getD
            Decimal.zero).scaled := by
      cases projected[(line.accountId, line.currency)]? <;> rfl
    by_cases hcurrency : line.currency = currency
    · simp only [hcurrency, if_true, JournalLine.amount] at hcurrent ⊢
      rw [hcurrency] at hbalance
      rw [totalIn, hcurrent]
      omega
    · simp only [hcurrency, if_false, totalIn]
      cases projected[(line.accountId, line.currency)]? <;> simp

theorem project_ok {ledger : MultiCurrencyLedger} {transaction : JournalTransaction}
    (h : ledger.project transaction = .ok projected) :
    PostedOver ledger.balances transaction.lines projected ∧
      ∀ currency, postedIn currency transaction.lines = 0 := by
  simp only [MultiCurrencyLedger.project, bind_eq_ok, refuseIf_eq_ok,
    exists_const] at h
  obtain ⟨-, totals, htotals, hbalanced, hprojected⟩ := h
  have hover : TotalsOver ([] ++ transaction.lines) totals :=
    foldlM_over (fun _ _ _ _ hseen hstep => addLine_totals hseen hstep)
      (fun _ => by simp) htotals
  refine ⟨?_, postedIn_eq_zero hover hbalanced⟩
  have hposted : PostedOver ledger.balances ([] ++ transaction.lines)
      projected :=
    foldlM_over (fun _ _ _ _ hseen hstep => postLine_posted hseen hstep)
      ⟨fun _ => by simp, fun _ => by simp⟩ hprojected
  exact hposted

/-! ## Runs of posts -/

namespace MultiCurrencyLedger

variable {ledger ledger' : MultiCurrencyLedger}
  {transaction : JournalTransaction}

theorem post_cases {result : Result Bool}
    (h : (post transaction).run ledger = (result, ledger')) :
    (result ≠ .ok true ∧ ledger' = ledger) ∨ (result = .ok true ∧
        ledger.project transaction = .ok ledger'.balances) := by
  unfold post at h
  cases hids : transaction.validateIds with
  | error e =>
    rw [hids, run_lift_bind_error, Prod.mk.injEq] at h
    exact .inl ⟨h.1 ▸ nofun, h.2.symm⟩
  | ok _ =>
    rw [hids, run_lift_bind_ok, run_read_bind] at h
    split at h
    · rw [run_pure, Prod.mk.injEq] at h
      exact .inl ⟨h.1 ▸ by decide, h.2.symm⟩
    · cases hprojected : ledger.project transaction with
      | error e =>
        rw [hprojected, run_lift_bind_error, Prod.mk.injEq] at h
        exact .inl ⟨h.1 ▸ nofun, h.2.symm⟩
      | ok projected =>
        rw [hprojected, run_lift_bind_ok, run_update_bind, run_pure,
          Prod.mk.injEq] at h
        exact .inr ⟨h.1.symm, h.2 ▸ rfl⟩

structure Posting where
  ledger : MultiCurrencyLedger
  accepted : List JournalTransaction

def postNext (posting : Posting) (transaction : JournalTransaction) : Posting :=
  match (post transaction).run posting.ledger with
  | (.ok true, ledger) => ⟨ledger, posting.accepted ++ [transaction]⟩
  | (_, ledger) => ⟨ledger, posting.accepted⟩

def postAll (transactions : List JournalTransaction) : Posting :=
  transactions.foldl postNext ⟨.empty, []⟩

def Posting.lines (posting : Posting) : List JournalLine :=
  posting.accepted.flatMap (·.lines)

/-- The ledger holds what the accepted transactions posted, and no currency is
out of balance. -/
structure Posting.Balances (posting : Posting) : Prop where
  balance : ∀ (accountId : String) (currency : Currency),
    (posting.ledger.balance accountId currency).scaled
      = postedTo (accountId, currency) posting.lines
  total : ∀ currency : Currency, totalIn currency posting.ledger.balances = 0

theorem balances_empty : Posting.Balances ⟨.empty, []⟩ where
  balance := fun accountId currency => by
    simp [MultiCurrencyLedger.balance, empty, Posting.lines]
  total := fun currency => by
    simp [totalIn, empty]

theorem postNext_balances {posting : Posting} (h : posting.Balances)
    (transaction : JournalTransaction) : (postNext posting transaction).Balances := by
  rcases hrun : (post transaction).run posting.ledger with ⟨result, ledger'⟩
  rcases post_cases hrun with ⟨hrefused, rfl⟩ | ⟨rfl, hprojected⟩
  · have hsame : postNext posting transaction = posting := by
      unfold postNext
      rw [hrun]
      split
      · next heq => exact absurd (Prod.mk.inj heq).1 hrefused
      · next heq =>
          rw [← (Prod.mk.inj heq).2]
    rw [hsame]
    exact h
  · have hnext : postNext posting transaction
        = ⟨ledger', posting.accepted ++ [transaction]⟩ := by
      unfold postNext
      rw [hrun]
    obtain ⟨hposted, hbalanced⟩ := project_ok hprojected
    rw [hnext]
    constructor
    · intro accountId currency
      have hbefore := h.balance accountId currency
      have hafter := hposted.balance (accountId, currency)
      simp only [MultiCurrencyLedger.balance] at hbefore ⊢
      rw [hafter, hbefore, Posting.lines, Posting.lines, List.flatMap_append,
        postedTo_append]
      simp
    · intro currency
      rw [hposted.total, h.total, hbalanced, Int.zero_add]

theorem postAll_balances (transactions : List JournalTransaction) :
    (postAll transactions).Balances := by
  have hfrom : ∀ posting : Posting, posting.Balances →
      (transactions.foldl postNext posting).Balances := by
    induction transactions with
    | nil => exact fun _ h => h
    | cons transaction transactions ih =>
      exact fun posting h => ih _ (postNext_balances h transaction)
  exact hfrom _ balances_empty

end MultiCurrencyLedger

end Follon.Accounting
