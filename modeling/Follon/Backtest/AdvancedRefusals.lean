import Follon.Backtest.AdvancedAccount
import Follon.Backtest.LedgerRefusals

/-!
# Refused operations of the advanced account

When an operation that is refused leaves the account as it was, and the same
for the ledger and the account together.
-/

namespace Follon.Backtest

open Foundation Domain Accounting
open Foundation.Fallible (Fits Restores Returns Keeps)

namespace AdvancedBacktestAccount

variable {account account' : AdvancedBacktestAccount} {fill : Fill}
  {terms : AdvancedInstrumentTerms} {charges : BacktestExecutionCharges}
  {projection : FillProjection} {e : PaperError}

/-! ## The lots of a fill -/

def openCall (fill : Fill) (terms : AdvancedInstrumentTerms)
    (quantity fee : Decimal) : Result LotCall := do
  let unitPrice ← openingUnitPrice fill quantity fee
  pure (match fill.side with
    | .buy => .acquire (openingLot fill terms quantity unitPrice)
    | .sell => .openShort (openingLot fill terms quantity unitPrice))

def closeCall (fill : Fill) (terms : AdvancedInstrumentTerms)
    (closingLong : Bool) (quantity fee : Decimal) : LotCall :=
  if closingLong then
    .dispose
      { closeId := "taxdisposal-" ++ fill.executionId
        instrumentId := fill.instrumentId, currency := terms.currency
        quantity
        unitPrice := fill.price
        fee
        occurredAt := fill.executedAt
        selection := .fifo }
  else
    .cover
      { closeId := "taxcover-" ++ fill.executionId
        instrumentId := fill.instrumentId, currency := terms.currency
        quantity
        unitPrice := fill.price
        fee
        occurredAt := fill.executedAt
        selection := .fifo }

def openLots (fill : Fill) (terms : AdvancedInstrumentTerms)
    (quantity fee : Decimal) (book : TaxLotBook) : Result Unit × TaxLotBook :=
  match openCall fill terms quantity fee with
  | .ok call => call.perform book
  | .error e => (.error e, book)

def reduceLots (fill : Fill) (terms : AdvancedInstrumentTerms)
    (closingLong : Bool) (legs : FillLegs) (book : TaxLotBook) :
    Result Unit × TaxLotBook :=
  match (closeCall fill terms closingLong legs.closing
      legs.closingFee).perform book with
  | (.ok (), closed) =>
    if Decimal.zero < legs.remainder then
      openLots fill terms legs.remainder legs.remainderFee closed
    else (.ok (), closed)
  | (.error e, left) => (.error e, left)

def fillLots (fill : Fill) (terms : AdvancedInstrumentTerms)
    (projection : FillProjection) (book : TaxLotBook) : Result Unit × TaxLotBook :=
  if sameDirection projection then
    match extendedAveragePrice fill projection with
    | .ok _ => openLots fill terms fill.quantity fill.fee book
    | .error e => (.error e, book)
  else
    match fillLegs fill terms projection.prior with
    | .ok legs =>
      reduceLots fill terms (Decimal.zero < projection.prior.quantity) legs
        book
    | .error e => (.error e, book)

theorem run_applyTaxLotOpen (quantity fee : Decimal) (account : AdvancedBacktestAccount) :
    (applyTaxLotOpen fill terms quantity fee).run account =
      ((openLots fill terms quantity fee account.taxLots).1,
        setTaxLots (openLots fill terms quantity fee account.taxLots).2
          account) := by
  unfold applyTaxLotOpen openLots openCall
  cases openingUnitPrice fill quantity fee with
  | error e => rfl
  | ok unitPrice =>
    rw [run_lift_bind_ok]
    cases hside : fill.side with
    | buy => rfl
    | sell => rfl

theorem run_applyTaxLotClose (closingLong : Bool) (quantity fee : Decimal)
    (account : AdvancedBacktestAccount) :
    (applyTaxLotClose fill terms closingLong quantity fee).run account =
      (((closeCall fill terms closingLong quantity fee).perform account.taxLots).1,
        setTaxLots ((closeCall fill terms closingLong quantity fee).perform
          account.taxLots).2 account) := by
  cases closingLong with
  | true => rfl
  | false => rfl

theorem run_lots_bind {α : Type} {x : AccountM Unit} {a : α}
    {lots : Result Unit × TaxLotBook}
    (hx : x.run account = (lots.1, setTaxLots lots.2 account)) :
    (x >>= fun _ => pure a : AccountM α).run account
      = (lots.1.map fun _ => a, setTaxLots lots.2 account) := by
  rw [Fallible.run_bind, hx]
  rcases lots with ⟨_ | _, book⟩
  · rfl
  · rfl

variable {legs : FillLegs} {fee charge total settlementPrice : Decimal}
  {closingLong : Bool} {eventId effectiveAt : String}

theorem run_reduceLots (closingLong : Bool) (account : AdvancedBacktestAccount) :
    (applyTaxLotClose fill terms closingLong legs.closing legs.closingFee
        >>= fun _ => openRemainder fill terms legs).run account =
      ((reduceLots fill terms closingLong legs account.taxLots).1,
        setTaxLots (reduceLots fill terms closingLong legs
          account.taxLots).2 account) := by
  rw [Fallible.run_bind, run_applyTaxLotClose]
  unfold reduceLots openRemainder
  rcases (closeCall fill terms closingLong legs.closing
    legs.closingFee).perform account.taxLots with ⟨_ | _, book⟩
  · rfl
  · dsimp only
    split
    · rw [run_applyTaxLotOpen]
      rfl
    · rfl

theorem run_bookPosition (account : AdvancedBacktestAccount) :
    ∃ position : AdvancedBacktestPosition,
      (bookPosition fill terms projection).run account =
        ((fillLots fill terms projection account.taxLots).1.map
            fun _ => position,
          setTaxLots (fillLots fill terms projection account.taxLots).2
            account) := by
  unfold bookPosition fillLots
  split
  · unfold extendPosition
    cases extendedAveragePrice fill projection with
    | error e => exact ⟨projection.prior, rfl⟩
    | ok averagePrice =>
      rw [run_lift_bind_ok]
      exact ⟨_, run_lots_bind (run_applyTaxLotOpen _ _ account)⟩
  · unfold reducePosition
    dsimp only
    cases fillLegs fill terms projection.prior with
    | error e => exact ⟨projection.prior, rfl⟩
    | ok legs =>
      let reduced : AdvancedBacktestPosition :=
        { projection.prior with
          realizedPnl := legs.realizedPnl
          averagePrice := reducedAveragePrice fill projection.prior
            projection.projectedQuantity
          quantity := projection.projectedQuantity }
      refine ⟨reduced, ?_⟩
      rw [run_lift_bind_ok, ← bind_bind]
      exact run_lots_bind (run_reduceLots _ account)

/-! ## Conditions of a fill -/

/-- A closing leg whose profit does not fit keeps the lots it took, and so does
one that an opening leg cannot follow. -/
def LegsFit (fill : Fill) (terms : AdvancedInstrumentTerms)
    (projection : FillProjection) (book : TaxLotBook) : Prop :=
  sameDirection projection = false →
    ∀ legs, fillLegs fill terms projection.prior = .ok legs →
      let call := closeCall fill terms
        (Decimal.zero < projection.prior.quantity) legs.closing legs.closingFee
      call.ProfitFits book ∧ ∀ closed, call.perform book = (.ok (), closed) →
          Decimal.zero < legs.remainder →
            (openLots fill terms legs.remainder legs.remainderFee closed).1
                = .ok () ∨ closed = book

def ChargesFit (account : AdvancedBacktestAccount) (currency : Currency)
    (charges : BacktestExecutionCharges) : Prop :=
  let totals := account.chargesByCurrency[currency]?.getD .none
  Fits (totals.commission.checkedAdd charges.commission) ∧
    Fits (totals.exchange.checkedAdd charges.exchange) ∧
    Fits (totals.regulatory.checkedAdd charges.regulatory)

/-- Once the lots have moved the cash fits, and once the cash has moved the
charges do. -/
def FillFits (account : AdvancedBacktestAccount) (fill : Fill)
    (terms : AdvancedInstrumentTerms) (charges : BacktestExecutionCharges) : Prop :=
  ∀ projection, account.projectFill fill terms charges = .ok projection →
    LegsFit fill terms projection account.taxLots ∧
      ∀ book, fillLots fill terms projection account.taxLots = (.ok (), book) →
        let cash := (account.cashOf terms.currency).checkedAdd
          projection.cashDelta
        (Fits cash ∨ book = account.taxLots) ∧
          (Fits cash → account.ChargesFit terms.currency charges)

variable {quantity cash : Decimal} {book : TaxLotBook} {currency : Currency}
  {position : AdvancedBacktestPosition} {entries : List (Currency × Decimal)}
  {instrumentId : String}

theorem openLots_error {book' : TaxLotBook}
    (h : openLots fill terms quantity fee book = (.error e, book')) : book' = book := by
  unfold openLots at h
  cases hcall : openCall fill terms quantity fee with
  | error e' =>
    rw [hcall] at h
    exact (congrArg Prod.snd h).symm
  | ok call =>
    rw [hcall] at h
    unfold openCall at hcall
    rw [bind_eq_ok] at hcall
    obtain ⟨unitPrice, -, hcall⟩ := hcall
    have hsame := Except.ok.inj hcall
    cases hside : fill.side with
    | buy =>
      rw [hside] at hsame
      subst hsame
      exact TaxLotBook.acquire_error (run_discard_eq_error.mp h)
    | sell =>
      rw [hside] at hsame
      subst hsame
      exact TaxLotBook.openShort_error
        (run_discard_eq_error.mp h)

theorem keeps_closeCall_iff :
    (∀ e book', (closeCall fill terms closingLong quantity fee).perform book
        = (.error e, book') → book' = book) ↔
      (closeCall fill terms closingLong quantity fee).ProfitFits book := by
  cases closingLong with
  | true => exact LotCall.keeps_dispose_iff
  | false => exact LotCall.keeps_cover_iff

theorem keeps_reduceLots_iff : (∀ e book', reduceLots fill terms closingLong legs book
        = (.error e, book') → book' = book) ↔
      (closeCall fill terms closingLong legs.closing legs.closingFee).ProfitFits book ∧
        ∀ closed, (closeCall fill terms closingLong legs.closing
            legs.closingFee).perform book = (.ok (), closed) →
          Decimal.zero < legs.remainder →
            (openLots fill terms legs.remainder legs.remainderFee closed).1
                = .ok () ∨ closed = book := by
  rw [← keeps_closeCall_iff]
  unfold reduceLots
  rcases (closeCall fill terms closingLong legs.closing
    legs.closingFee).perform book with ⟨_ | _, closed⟩
  · simp
  · simp only [Prod.mk.injEq, reduceCtorEq, false_and, IsEmpty.forall_iff,
      implies_true, true_and, forall_eq']
    split
    · next hmore =>
        simp only [hmore, forall_const]
        cases hopen : openLots fill terms legs.remainder legs.remainderFee
          closed with
        | mk result opened =>
          cases result with
          | ok u => simp
          | error e =>
            have hkept := openLots_error hopen
            simp [hkept]
    · next hnone => simp [hnone]

theorem keeps_fillLots_iff :
    (∀ e book', fillLots fill terms projection book = (.error e, book') →
      book' = book) ↔ LegsFit fill terms projection book := by
  unfold LegsFit
  cases hside : sameDirection projection with
  | true =>
    refine iff_of_true ?_ (fun hne => by cases hne)
    intro e book' h
    unfold fillLots at h
    rw [if_pos hside] at h
    cases haverage : extendedAveragePrice fill projection with
    | error e' =>
      rw [haverage] at h
      exact (congrArg Prod.snd h).symm
    | ok averagePrice =>
      rw [haverage] at h
      exact openLots_error h
  | false =>
    have hlots : fillLots fill terms projection book =
        match fillLegs fill terms projection.prior with
        | .ok legs =>
          reduceLots fill terms
            (Decimal.zero < projection.prior.quantity) legs book
        | .error e => (.error e, book) := by
      unfold fillLots
      rw [if_neg (by rw [hside]; decide)]
    rw [hlots]
    cases hlegs : fillLegs fill terms projection.prior with
    | error e' => simp [eq_comm]
    | ok legs =>
      simp only [Except.ok.injEq, forall_eq', forall_const]
      exact keeps_reduceLots_iff

/-! ## Fills -/

theorem setTaxLots_eq_self_iff :
    setTaxLots book account = account ↔ book = account.taxLots := by
  constructor
  · intro h
    exact congrArg taxLots h
  · rintro rfl
    rfl

theorem restores_bookPosition_iff :
    Restores account (bookPosition fill terms projection) account ↔
      LegsFit fill terms projection account.taxLots := by
  obtain ⟨position, hrun⟩ := @run_bookPosition fill terms projection account
  rw [← keeps_fillLots_iff]
  unfold Restores
  rw [hrun]
  rcases fillLots fill terms projection account.taxLots with ⟨e | u, book⟩
  · simp [Except.map, ← setTaxLots_eq_self_iff, eq_comm]
  · simp [Except.map]

theorem returns_bookCharges_iff : Returns (bookCharges currency charges) account ↔
      account.ChargesFit currency charges := by
  unfold bookCharges ChargesFit Fits
  simp only [Fallible.returns_read_bind, Fallible.returns_update_bind,
    Fallible.returns_lift_bind, Fallible.returns_update, and_true]
  constructor
  · rintro ⟨commission, hcommission, exchange, hexchange, regulatory, hregulatory⟩
    exact ⟨⟨commission, hcommission⟩, ⟨exchange, hexchange⟩, regulatory, hregulatory⟩
  · rintro ⟨⟨commission, hcommission⟩, ⟨exchange, hexchange⟩, regulatory, hregulatory⟩
    exact ⟨commission, hcommission, exchange, hexchange, regulatory, hregulatory⟩

theorem keeps_executionIds_bookCharges (currency : Currency) :
    Keeps executionIds (bookCharges currency charges) := by
  unfold bookCharges
  apply Keeps.read_bind
  intro account
  refine Keeps.update_bind (fun _ => rfl) (Keeps.lift_bind fun commission => ?_)
  refine Keeps.update_bind (fun _ => rfl) (Keeps.lift_bind fun exchange => ?_)
  refine Keeps.update_bind (fun _ => rfl) (Keeps.lift_bind fun regulatory => ?_)
  exact Keeps.update fun _ => rfl

theorem new_of_projectFill (h : account.projectFill fill terms charges = .ok projection) :
    fill.executionId ∉ account.executionIds := by
  simp only [projectFill, checkFill, bind_eq_ok, refuseIf_eq_ok, not_or] at h
  obtain ⟨_, ⟨_, _, _, _, _, _, _, _, _, _, _, _, total, _, _, hnew⟩, -⟩ := h
  exact hnew

theorem restores_applyFill_rest (hnew : fill.executionId ∉ account.executionIds) :
    Restores account
        (lift ((account.cashOf terms.currency).checkedAdd
          projection.cashDelta) >>= fun cash => do
            update (setCash terms.currency cash)
            update (setPosition fill.instrumentId position)
            update (noteExecution fill.executionId)
            bookCharges terms.currency charges)
        (setTaxLots book account) ↔
      (Fits ((account.cashOf terms.currency).checkedAdd projection.cashDelta) ∨
          book = account.taxLots) ∧
        (Fits ((account.cashOf terms.currency).checkedAdd projection.cashDelta) →
          account.ChargesFit terms.currency charges) := by
  rw [restores_lift_bind, setTaxLots_eq_self_iff]
  apply and_congr_right
  intro _
  constructor
  · rintro h ⟨cash, hcash⟩
    have hrest := h cash hcash
    simp only [restores_update_bind] at hrest
    rw [(keeps_executionIds_bookCharges terms.currency).restores_iff,
      returns_bookCharges_iff] at hrest
    · exact hrest
    · intro hsame
      apply hnew
      rw [← hsame]
      exact mem_insert_self
  · intro h cash hcash
    simp only [restores_update_bind]
    apply Returns.restores
    exact returns_bookCharges_iff.mpr (h ⟨cash, hcash⟩)

theorem restores_applyFill_iff : Restores account (applyFill fill terms charges) account ↔
      account.FillFits fill terms charges := by
  unfold applyFill FillFits
  rw [restores_read_bind, restores_self_lift_bind]
  apply forall_congr'
  intro projection
  apply imp_congr_right
  intro hproject
  have hnew := new_of_projectFill hproject
  rw [restores_bind, restores_bookPosition_iff]
  apply and_congr_right
  intro _
  obtain ⟨position, hrun⟩ := @run_bookPosition fill terms projection account
  rw [hrun]
  rcases fillLots fill terms projection account.taxLots with ⟨e | u, book⟩
  · simp [Except.map]
  · constructor
    · intro h book' hbook
      obtain rfl := (Prod.mk.inj hbook).2
      exact (restores_applyFill_rest hnew).mp (h position _ rfl)
    · intro h position' booked hbooked
      obtain ⟨hposition, rfl⟩ := Prod.mk.inj hbooked
      exact (restores_applyFill_rest hnew).mpr (h book rfl)

/-! ## Financing -/

def financingOf (account : AdvancedBacktestAccount) (currency : Currency) : Decimal :=
  account.financingByCurrency[currency]?.getD Decimal.zero

def Covers (account : AdvancedBacktestAccount) (entry : Currency × Decimal) : Prop :=
  Fits ((account.cashOf entry.1).checkedSub entry.2) ∧
    Fits ((account.financingOf entry.1).checkedAdd entry.2)

def IsIdle (account : AdvancedBacktestAccount) (entry : Currency × Decimal) : Prop :=
  entry.2 = Decimal.zero ∧ entry.1 ∈ account.cashByCurrency ∧
    entry.1 ∈ account.financingByCurrency

def FinancingFits (account : AdvancedBacktestAccount) : List (Currency × Decimal) → Prop
  | [] => True
  | entry :: entries =>
    Fits ((account.cashOf entry.1).checkedSub entry.2) →
      Fits ((account.financingOf entry.1).checkedAdd entry.2) ∧
        (account.IsIdle entry → account.FinancingFits entries) ∧
        (¬account.IsIdle entry → ∀ later ∈ entries, account.Covers later)

def charged (currency : Currency) (cash total : Decimal)
    (account : AdvancedBacktestAccount) : AdvancedBacktestAccount :=
  setFinancing currency total (setCash currency cash account)

def rowsOf (currency : Currency) (account : AdvancedBacktestAccount) :
    Option Decimal × Option Decimal :=
  (account.cashByCurrency[currency]?, account.financingByCurrency[currency]?)

theorem rowsOf_charged_self (currency : Currency) (cash total : Decimal)
    (account : AdvancedBacktestAccount) :
    rowsOf currency (charged currency cash total account)
      = (some cash, some total) := by
  simp [rowsOf, charged, setCash, setFinancing]

theorem rowsOf_charged_of_ne {other : Currency} (hne : currency ≠ other)
    (cash total : Decimal) (account : AdvancedBacktestAccount) :
    rowsOf other (charged currency cash total account)
      = rowsOf other account := by
  simp only [rowsOf, charged, setCash, setFinancing, getElem?_insert_of_ne _ _ hne]

theorem covers_of_rowsOf {entry : Currency × Decimal}
    (h : rowsOf entry.1 account' = rowsOf entry.1 account) :
    account'.Covers entry ↔ account.Covers entry := by
  obtain ⟨hcash, hfinancing⟩ := Prod.mk.inj h
  simp only [Covers, cashOf, financingOf, hcash, hfinancing]

theorem covers_charged {later : Currency × Decimal}
    (hnew : currency ∉ entries.map (·.1)) (hmem : later ∈ entries)
    (cash total : Decimal) : (charged currency cash total account).Covers later ↔
      account.Covers later := by
  apply covers_of_rowsOf
  apply rowsOf_charged_of_ne
  intro heq
  exact hnew (mem_map.mpr ⟨later, hmem, heq.symm⟩)

theorem fits_financing_of_setCash
    (hcash : (account.cashOf currency).checkedSub charge = .ok cash)
    (hsame : setCash currency cash account = account) :
    Fits ((account.financingOf currency).checkedAdd charge) := by
  have hrow := insert_eq_self_iff.mp (congrArg cashByCurrency hsame)
  have hcash' : account.cashOf currency = cash := by
    simp [cashOf, hrow]
  rw [checkedSub_eq_ok, hcash'] at hcash
  refine ⟨account.financingOf currency, ?_⟩
  rw [checkedAdd_eq_ok]
  omega

theorem rowsOf_eq_of_idle (hcash : (account.cashOf currency).checkedSub charge = .ok cash)
    (htotal : (account.financingOf currency).checkedAdd charge = .ok total) :
    rowsOf currency account = (some cash, some total) ↔
      account.IsIdle (currency, charge) := by
  rw [checkedSub_eq_ok] at hcash
  rw [checkedAdd_eq_ok] at htotal
  simp only [rowsOf, IsIdle, Prod.mk.injEq, mem_iff_isSome_getElem?]
  constructor
  · rintro ⟨hrow, hrow'⟩
    have hsame : account.cashOf currency = cash := by
      simp [cashOf, hrow]
    refine ⟨Decimal.ext ?_, by simp [hrow], by simp [hrow']⟩
    rw [hsame] at hcash
    rw [scaled_zero]
    omega
  · rintro ⟨rfl, hrow, hrow'⟩
    obtain ⟨before, hbefore⟩ := isSome_iff_exists.mp hrow
    obtain ⟨before', hbefore'⟩ := isSome_iff_exists.mp hrow'
    have hcash' : account.cashOf currency = before := by
      simp [cashOf, hbefore]
    have htotal' : account.financingOf currency = before' := by
      simp [financingOf, hbefore']
    rw [hcash', scaled_zero, Int.sub_zero] at hcash
    rw [htotal', scaled_zero, Int.add_zero] at htotal
    rw [hbefore, hbefore', Decimal.ext hcash, Decimal.ext htotal]
    exact ⟨rfl, rfl⟩

theorem charged_of_rowsOf (h : rowsOf currency account = (some cash, some total)) :
    charged currency cash total account = account := by
  obtain ⟨hcash, htotal⟩ := Prod.mk.inj h
  have hsame := insert_eq_self_iff.mpr hcash
  have hsame' := insert_eq_self_iff.mpr htotal
  unfold charged setFinancing setCash
  rw [hsame, hsame']

theorem returns_chargeFinancing_iff (hdistinct : (entries.map (·.1)).Nodup) :
    Returns (chargeFinancing entries) account ↔
      ∀ entry ∈ entries, account.Covers entry := by
  induction entries generalizing account with
  | nil => simp [chargeFinancing]
  | cons entry entries ih =>
    obtain ⟨currency, charge⟩ := entry
    rw [map_cons, nodup_cons] at hdistinct
    have hlater : ∀ cash total,
        (∀ later ∈ entries, (charged currency cash total account).Covers later) ↔
            ∀ later ∈ entries, account.Covers later := fun cash total =>
      forall₂_congr fun later hmem =>
        covers_charged hdistinct.1 hmem cash total
    simp only [chargeFinancing, Fallible.returns_read_bind, Fallible.returns_lift_bind,
      Fallible.returns_update_bind, forall_mem_cons]
    constructor
    · rintro ⟨cash, hcash, total, htotal, hrest⟩
      have hrest : Returns (chargeFinancing entries)
          (charged currency cash total account) := hrest
      rw [ih hdistinct.2, hlater] at hrest
      exact ⟨⟨⟨cash, hcash⟩, total, htotal⟩, hrest⟩
    · rintro ⟨⟨⟨cash, hcash⟩, total, htotal⟩, hrest⟩
      rw [← hlater cash total, ← ih hdistinct.2] at hrest
      exact ⟨cash, hcash, total, htotal, hrest⟩

theorem keeps_rowsOf_chargeFinancing (hother : currency ∉ entries.map (·.1)) :
    Keeps (rowsOf currency) (chargeFinancing entries) := by
  induction entries with
  | nil => exact Keeps.pure ()
  | cons entry entries ih =>
    rw [map_cons, mem_cons, not_or] at hother
    have hne : entry.1 ≠ currency := fun heq => hother.1 heq.symm
    apply Keeps.read_bind
    intro account
    apply Keeps.lift_bind
    intro cash
    refine Keeps.update_bind ?_ (Keeps.lift_bind fun total => ?_)
    · intro account
      simp only [rowsOf, setCash, getElem?_insert_of_ne _ _ hne]
    · refine Keeps.update_bind ?_ (ih hother.2)
      intro account
      simp only [rowsOf, setFinancing, getElem?_insert_of_ne _ _ hne]

theorem restores_chargeFinancing_iff (hdistinct : (entries.map (·.1)).Nodup) :
    Restores account (chargeFinancing entries) account ↔
      account.FinancingFits entries := by
  induction entries with
  | nil => simp [chargeFinancing, FinancingFits]
  | cons entry entries ih =>
    obtain ⟨currency, charge⟩ := entry
    rw [map_cons, nodup_cons] at hdistinct
    unfold chargeFinancing FinancingFits
    rw [restores_read_bind, restores_self_lift_bind]
    constructor
    · rintro h ⟨cash, hcash⟩
      have hrest := h cash hcash
      rw [restores_update_bind, restores_lift_bind]
        at hrest
      have hadd : Fits ((account.financingOf currency).checkedAdd charge) :=
        hrest.1.elim id (fits_financing_of_setCash hcash)
      obtain ⟨total, htotal⟩ := hadd
      have hcharged : Restores account (chargeFinancing entries)
          (charged currency cash total account) := hrest.2 total htotal
      have hidle := rowsOf_eq_of_idle hcash htotal
      refine ⟨⟨total, htotal⟩, ?_, ?_⟩
      · intro h
        rw [charged_of_rowsOf (hidle.mpr h), ih hdistinct.2] at hcharged
        exact hcharged
      · intro hbusy
        rw [(keeps_rowsOf_chargeFinancing hdistinct.1).restores_iff,
          returns_chargeFinancing_iff hdistinct.2] at hcharged
        · intro later hmem
          rw [← covers_charged hdistinct.1 hmem cash total]
          exact hcharged later hmem
        · rw [rowsOf_charged_self]
          exact fun hsame => hbusy (hidle.mp hsame.symm)
    · intro h cash hcash
      obtain ⟨⟨total, htotal⟩, hsame, hlater⟩ := h ⟨cash, hcash⟩
      have hidle := rowsOf_eq_of_idle hcash htotal
      rw [restores_update_bind, restores_lift_bind]
      refine ⟨.inl ⟨total, htotal⟩, ?_⟩
      intro total' htotal'
      obtain rfl : total = total' :=
        Except.ok.inj (htotal.symm.trans htotal')
      change Restores account (chargeFinancing entries)
        (charged currency cash total account)
      by_cases hbusy : account.IsIdle (currency, charge)
      · rw [charged_of_rowsOf (hidle.mpr hbusy), ih hdistinct.2]
        exact hsame hbusy
      · apply Returns.restores
        rw [returns_chargeFinancing_iff hdistinct.2]
        intro later hmem
        rw [covers_charged hdistinct.1 hmem]
        exact hlater hbusy later hmem

def AccrualFits (account : AdvancedBacktestAccount) (accrualId : String)
    (days dayCountBasis : Nat) (marks : OrderedMap String Decimal)
    (rates : OrderedMap Currency Nat) : Prop :=
  validateCanonicalId "financing accrual_id" accrualId = .ok () →
    accrualId ∉ account.lifecycleEventIds →
      ∀ balances accrual, account.financingBalances marks rates = .ok balances →
        Accounting.accrueFinancing balances days dayCountBasis = .ok accrual →
          account.FinancingFits accrual.chargesByCurrency.toList

theorem restores_accrueFinancing_iff {accrualId : String}
    {days dayCountBasis : Nat} {marks : OrderedMap String Decimal}
    {rates : OrderedMap Currency Nat} :
    Restores account (accrueFinancing accrualId days dayCountBasis marks rates)
        account ↔
      account.AccrualFits accrualId days dayCountBasis marks rates := by
  have hdistinct : ∀ accrual : FinancingAccrual,
      (accrual.chargesByCurrency.toList.map (·.1)).Nodup := by
    intro accrual
    rw [Std.ExtTreeMap.map_fst_toList_eq_keys]
    exact Std.ExtTreeMap.nodup_keys
  have hcharges : ∀ accrual : FinancingAccrual,
      Restores account
          (chargeFinancing accrual.chargesByCurrency.toList >>= fun _ => do
            update (noteLifecycleEvent accrualId)
            pure accrual.chargesByCurrency) account ↔
        account.FinancingFits accrual.chargesByCurrency.toList := by
    intro accrual
    rw [restores_bind, restores_chargeFinancing_iff (hdistinct accrual)]
    simp
  unfold accrueFinancing AccrualFits
  simp only [restores_read_bind, restores_self_lift_bind,
    hcharges, refuseIf_eq_ok, forall_const]
  constructor
  · intro h hid hnew balances accrual hbalances haccrual
    exact h () hid hnew balances hbalances accrual haccrual
  · intro h _ hid hnew balances hbalances accrual haccrual
    exact h hid hnew balances accrual hbalances haccrual

/-! ## Corporate actions -/

def SplitFits (account : AdvancedBacktestAccount) (instrumentId : String)
    (position : AdvancedBacktestPosition) (ratio : Decimal) : Prop :=
  ∀ book, account.taxLots.applySplit instrumentId ratio = .ok book →
    (Fits (position.quantity.checkedMul ratio) ∨ book = account.taxLots) ∧
      ∀ quantity, position.quantity.checkedMul ratio = .ok quantity →
        quantity ≠ Decimal.zero → Fits (position.averagePrice.checkedDiv ratio) ∨
            book = account.taxLots ∧ quantity = position.quantity

def ActionFits (account : AdvancedBacktestAccount) : CorporateAction → Prop
  | .split actionId instrumentId effectiveAt ratio =>
    account.checkAction (.split actionId instrumentId effectiveAt ratio) = .ok () →
      ∀ position, account.positions[instrumentId]? = some position →
        account.SplitFits instrumentId position ratio
  | .cashDividend .. => True

theorem setPosition_eq_self_iff
    (hfound : account.positions[instrumentId]? = some position) :
    setPosition instrumentId { position with quantity }
        (setTaxLots book account) = account ↔
      book = account.taxLots ∧ quantity = position.quantity := by
  constructor
  · intro h
    have hrow := insert_eq_self_iff.mp (congrArg positions h)
    change account.positions[instrumentId]? = _ at hrow
    rw [hfound] at hrow
    have hposition := Option.some.inj hrow
    exact ⟨congrArg taxLots h,
      (congrArg AdvancedBacktestPosition.quantity hposition).symm⟩
  · rintro ⟨rfl, rfl⟩
    have hrow := insert_eq_self_iff.mpr hfound
    rw [setPosition]
    change { account with
      positions := account.positions.insert instrumentId position } = account
    rw [hrow]

theorem restores_bookSplit_iff {ratio : Decimal}
    (hfound : account.positions[instrumentId]? = some position) :
    Restores account (bookSplit position instrumentId ratio) account ↔
      account.SplitFits instrumentId position ratio := by
  unfold bookSplit SplitFits
  rw [restores_read_bind, restores_self_lift_bind]
  apply forall_congr'
  intro book
  apply imp_congr_right
  intro _
  rw [restores_update_bind, restores_lift_bind, setTaxLots_eq_self_iff]
  apply and_congr_right
  intro _
  apply forall_congr'
  intro quantity
  apply imp_congr_right
  intro _
  rw [restores_update_bind]
  split
  · next hzero => simp [hzero]
  · next hnonzero =>
      rw [restores_lift_bind, setPosition_eq_self_iff hfound]
      simp [hnonzero]

theorem restores_bookDividend {amount : Decimal} :
    Restores account (bookDividend position amount) account := by
  unfold bookDividend
  rw [restores_read_bind, restores_self_lift_bind]
  intro value _
  rw [restores_self_lift_bind]
  intro cashDelta _
  rw [restores_self_lift_bind]
  intro cash _
  simp

theorem restores_applyCorporateAction_iff {action : CorporateAction} :
    Restores account (applyCorporateAction action) account ↔
      account.ActionFits action := by
  have hdone : ∀ {x : AccountM Unit},
      Restores account (x >>= fun _ =>
        update (noteLifecycleEvent action.actionId)) account ↔
          Restores account x account := by
    intro x
    rw [restores_bind]
    simp
  unfold applyCorporateAction
  rw [restores_read_bind, restores_self_lift_bind]
  cases action with
  | cashDividend actionId instrumentId effectiveAt amount =>
    refine iff_of_true ?_ trivial
    intro _ _
    dsimp only [CorporateAction.instrumentId]
    split
    · simp
    · exact hdone.mpr restores_bookDividend
  | split actionId instrumentId effectiveAt ratio =>
    unfold ActionFits
    dsimp only [CorporateAction.instrumentId]
    constructor
    · intro h hchecked position hfound
      have hrest := h () hchecked
      rw [hfound] at hrest
      exact (restores_bookSplit_iff hfound).mp (hdone.mp hrest)
    · intro h _ hchecked
      cases hfound : account.positions[instrumentId]? with
      | none => simp
      | some position =>
        exact hdone.mpr ((restores_bookSplit_iff hfound).mpr (h hchecked position hfound))

/-! ## Delistings -/

def SettlementFits (account : AdvancedBacktestAccount)
    (eventId instrumentId effectiveAt : String) (settlementPrice : Decimal) : Prop :=
  ∀ position amounts,
    account.findDelisted eventId instrumentId effectiveAt settlementPrice = .ok position →
      settlementAmounts position settlementPrice = .ok amounts →
        Fits ((account.cashOf position.terms.currency).checkedAdd amounts.1)

theorem findDelisted_eq_ok
    (h : account.findDelisted eventId instrumentId effectiveAt settlementPrice
      = .ok position) : account.positions[instrumentId]? = some position ∧
      position.quantity ≠ Decimal.zero := by
  simp only [findDelisted, bind_eq_ok] at h
  obtain ⟨_, -, _, -, _, -, _, -, h⟩ := h
  cases hfound : account.positions[instrumentId]? with
  | none =>
    rw [hfound] at h
    cases h
  | some found =>
    rw [hfound] at h
    simp only [bind_eq_ok, refuseIf_eq_ok, exists_const] at h
    obtain rfl := Except.ok.inj h.2
    exact ⟨rfl, h.1⟩

theorem restores_settleDelisting_iff : Restores account
        (settleDelisting eventId instrumentId effectiveAt settlementPrice)
        account ↔
      account.SettlementFits eventId instrumentId effectiveAt
        settlementPrice := by
  unfold settleDelisting SettlementFits
  rw [restores_read_bind, restores_self_lift_bind]
  apply forall_congr'
  intro position
  rw [forall_comm]
  apply imp_congr_right
  intro hfound
  rw [restores_self_lift_bind]
  apply forall_congr'
  intro amounts
  apply imp_congr_right
  intro _
  rw [restores_update_bind, restores_lift_bind]
  obtain ⟨hrow, hopen⟩ := findDelisted_eq_ok hfound
  constructor
  · rintro ⟨hfits | hsame, -⟩
    · exact hfits
    · have hclosed := insert_eq_self_iff.mp (congrArg positions hsame)
      rw [hrow] at hclosed
      have hposition := Option.some.inj hclosed
      exact absurd (congrArg AdvancedBacktestPosition.quantity hposition) hopen
  · intro hfits
    refine ⟨.inl hfits, ?_⟩
    intro cash _
    simp

end AdvancedBacktestAccount

/-! ## Both books -/

def LedgerOperation.Fits (ledger : BacktestLedger) : LedgerOperation → Prop
  | .fill booked => ledger.Begins booked → ledger.FillFits booked
  | .corporateAction action => ledger.ActionFits action

def AdvancedOperation.Fits (account : AdvancedBacktestAccount) : AdvancedOperation → Prop
  | .fill booked terms charges => account.FillFits booked terms charges
  | .fillWithCapitalCheck .. => True
  | .accrueFinancing accrualId days dayCountBasis marks rates =>
    account.AccrualFits accrualId days dayCountBasis marks rates
  | .corporateAction action => account.ActionFits action
  | .settleDelisting eventId instrumentId effectiveAt settlementPrice =>
    account.SettlementFits eventId instrumentId effectiveAt settlementPrice

theorem LedgerOperation.restores_iff {ledger : BacktestLedger}
    {operation : LedgerOperation} :
    Restores ledger operation.apply ledger ↔ operation.Fits ledger := by
  cases operation with
  | fill booked => exact BacktestLedger.restores_applyFill_iff
  | corporateAction action =>
    exact BacktestLedger.restores_applyCorporateAction_iff

variable {account : AdvancedBacktestAccount}

theorem AdvancedBacktestAccount.restores_applyFillWithCapitalCheck
    {fill : Fill} {terms : AdvancedInstrumentTerms}
    {charges : BacktestExecutionCharges} {capital : BacktestCapitalCheck} :
    Restores account (applyFillWithCapitalCheck fill terms charges capital)
      account := by
  unfold applyFillWithCapitalCheck
  simp only [restores_read_bind, restores_self_lift_bind,
    Fallible.restores_update, implies_true]

theorem AdvancedOperation.restores_iff {operation : AdvancedOperation} :
    Restores account operation.apply account ↔ operation.Fits account := by
  cases operation with
  | fill booked terms charges =>
    exact AdvancedBacktestAccount.restores_applyFill_iff
  | fillWithCapitalCheck booked terms charges capital =>
    exact iff_of_true
      AdvancedBacktestAccount.restores_applyFillWithCapitalCheck trivial
  | accrueFinancing accrualId days dayCountBasis marks rates =>
    exact Fallible.restores_discard.trans
      AdvancedBacktestAccount.restores_accrueFinancing_iff
  | corporateAction action =>
    exact AdvancedBacktestAccount.restores_applyCorporateAction_iff
  | settleDelisting eventId instrumentId effectiveAt settlementPrice =>
    exact Fallible.restores_discard.trans
      AdvancedBacktestAccount.restores_settleDelisting_iff

/-- An operation that is refused leaves the ledger or the account as it was,
and with it every report, exactly when it is refused before its first write
or what follows that write does not fail. -/
theorem refused_operation_keeps_iff (ledger : BacktestLedger)
    (operation : LedgerOperation) (account : AdvancedBacktestAccount)
    (advanced : AdvancedOperation) :
    ((∀ e ledger', operation.apply.run ledger = (.error e, ledger') →
        ledger' = ledger ∧ ∀ marks report, ledger.report marks = .ok report →
            ledger'.report marks = .ok report) ↔
        operation.Fits ledger) ∧
      ((∀ e account', advanced.apply.run account = (.error e, account') →
          account' = account) ↔ advanced.Fits account) := by
  constructor
  · rw [← LedgerOperation.restores_iff]
    constructor
    · intro h e ledger' hrun
      exact (h e ledger' hrun).1
    · intro h e ledger' hrun
      have hsame := h e ledger' hrun
      subst hsame
      exact ⟨rfl, fun _ _ hreport => hreport⟩
  · exact AdvancedOperation.restores_iff

namespace RefusalRun

def opened : BacktestLedger where
  currency := "USD"
  cash := .hundred
  positions := ∅
  taxLots := .empty
  executionIds := ∅
  corporateActionIds := ∅
  entries := []
  fees := Decimal.zero
  dividends := Decimal.zero

def dear : Fill where
  executionId := "execution-1"
  orderId := "order-1"
  instrumentId := "aapl"
  side := .buy
  quantity := .one
  price := ⟨20000000000, by decide, by decide⟩
  fee := Decimal.zero
  executedAt := "2026-01-02T14:31:00Z"

/-- A buy refused for want of cash leaves a row without a mark, and the report
that was there is refused too. -/
theorem refused_buy_loses_report :
    BacktestLedger.new "USD" ⟨10000000000, by decide, by decide⟩ = .ok opened ∧
      (opened.report ∅).toOption.isSome = true ∧
      (((LedgerOperation.fill dear).apply.final opened).report
        ∅).toOption.isSome = false ∧
      ¬∀ e ledger', (LedgerOperation.fill dear).apply.run opened = (.error e, ledger') →
          ledger' = opened ∧ ∀ marks report, opened.report marks = .ok report →
              ledger'.report marks = .ok report := by
  refine ⟨rfl, by decide, by decide, ?_⟩
  intro hkeeps
  have herror : ((LedgerOperation.fill dear).apply.run
      opened).1.toOption.isSome = false := by
    decide
  have hrow : ((LedgerOperation.fill dear).apply.run
      opened).2.positions.contains "aapl" = true := by
    decide
  have hempty : opened.positions.contains "aapl" = false := by
    decide
  cases hrun : (LedgerOperation.fill dear).apply.run opened with
  | mk result ledger' =>
    rw [hrun] at herror hrow
    cases result with
    | ok u => contradiction
    | error e =>
      rw [(hkeeps e ledger' hrun).1, hempty] at hrow
      contradiction

end RefusalRun

end Follon.Backtest
