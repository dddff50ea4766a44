import Follon.Accounting.LotsFollow
import Follon.Backtest.AdvancedAccount
import Follon.Foundation.Transition

/-!
# Lots of the advanced account

Fills and splits move the lots of an instrument with its position.  A delisting
settlement does not, and a fill that fails after its lots moved leaves them
moved; away from both, the lots follow the positions.
-/

namespace Follon.Backtest

open Foundation Domain Accounting

namespace AdvancedBacktestAccount

def LotsFollow (account : AdvancedBacktestAccount) : Prop :=
  account.taxLots.Follows "taxlot-"
    (fun instrumentId => (account.heldQuantity instrumentId).scaled)
    account.executionIds

/-! ## Operations that settle -/

def OpeningFits (fill : Fill) (quantity fee : Decimal) : Prop :=
  ∃ unitPrice, openingUnitPrice fill quantity fee = .ok unitPrice ∧
    (fill.side = .buy → Decimal.zero < unitPrice)

def CashFits (account : AdvancedBacktestAccount)
    (terms : AdvancedInstrumentTerms) (cashDelta : Decimal) : Prop :=
  ∃ cash, (account.cashOf terms.currency).checkedAdd cashDelta = .ok cash

instance (fill : Fill) (quantity fee : Decimal) :
    Decidable (OpeningFits fill quantity fee) :=
  inferInstanceAs (Decidable (∃ _, _ = _ ∧ (_ → _)))

instance (account : AdvancedBacktestAccount) (terms : AdvancedInstrumentTerms)
    (cashDelta : Decimal) : Decidable (account.CashFits terms cashDelta) :=
  inferInstanceAs (Decidable (∃ _, _ = _))

def closingProfit (account : AdvancedBacktestAccount) (fill : Fill)
    (terms : AdvancedInstrumentTerms) (prior : AdvancedBacktestPosition)
    (legs : FillLegs) : Result Decimal :=
  if Decimal.zero < prior.quantity then
    account.taxLots.disposalProfit ("taxdisposal-" ++ fill.executionId)
      fill.instrumentId terms.currency legs.closing fill.price legs.closingFee
      fill.executedAt .fifo
  else
    account.taxLots.coverProfit ("taxcover-" ++ fill.executionId)
      fill.instrumentId terms.currency legs.closing fill.price legs.closingFee
      fill.executedAt .fifo

structure ReductionFits (account : AdvancedBacktestAccount) (fill : Fill)
    (terms : AdvancedInstrumentTerms) (cashDelta profit : Decimal)
    (legs : FillLegs) : Prop where
  realized : account.taxLots.RealizedFits terms.currency profit
  opening : Decimal.zero < legs.remainder →
    OpeningFits fill legs.remainder legs.remainderFee
  cash : account.CashFits terms cashDelta

instance (account : AdvancedBacktestAccount) (fill : Fill)
    (terms : AdvancedInstrumentTerms) (cashDelta profit : Decimal) (legs : FillLegs) :
    Decidable (account.ReductionFits fill terms cashDelta profit legs) :=
  decidable_of_iff
    (account.taxLots.RealizedFits terms.currency profit ∧ (Decimal.zero < legs.remainder →
        OpeningFits fill legs.remainder legs.remainderFee) ∧
      account.CashFits terms cashDelta)
    ⟨fun h => ⟨h.1, h.2.1, h.2.2⟩, fun h => ⟨h.realized, h.opening, h.cash⟩⟩

/-- A fill that passes its checks has room for everything it writes after its
lots. -/
def FillSettles (account : AdvancedBacktestAccount) (fill : Fill)
    (terms : AdvancedInstrumentTerms) (charges : BacktestExecutionCharges) : Prop :=
  ∀ projection, account.projectFill fill terms charges = .ok projection →
    if sameDirection projection then
      ∀ averagePrice, extendedAveragePrice fill projection = .ok averagePrice →
        OpeningFits fill fill.quantity fill.fee →
          account.CashFits terms projection.cashDelta
    else
      ∀ legs, fillLegs fill terms projection.prior = .ok legs → ∀ profit,
          account.closingProfit fill terms projection.prior legs = .ok profit →
            account.ReductionFits fill terms projection.cashDelta profit legs

instance (account : AdvancedBacktestAccount) (fill : Fill)
    (terms : AdvancedInstrumentTerms) (charges : BacktestExecutionCharges) :
    Decidable (account.FillSettles fill terms charges) := by
  unfold FillSettles
  infer_instance

def DelistingCloses (account : AdvancedBacktestAccount)
    (eventId instrumentId effectiveAt : String) (settlementPrice : Decimal) : Prop :=
  ∃ position amounts,
    account.findDelisted eventId instrumentId effectiveAt settlementPrice = .ok position ∧
    settlementAmounts position settlementPrice = .ok amounts

def Settles (account : AdvancedBacktestAccount) : AdvancedOperation → Prop
  | .fill booked terms charges => account.FillSettles booked terms charges
  | .settleDelisting eventId instrumentId effectiveAt settlementPrice =>
    ¬account.DelistingCloses eventId instrumentId effectiveAt settlementPrice
  | _ => True

/-! ## Untouched lots -/

structure SameLots (account account' : AdvancedBacktestAccount) : Prop where
  taxLots : account'.taxLots = account.taxLots
  positions : account'.positions = account.positions
  executionIds : account'.executionIds = account.executionIds

variable {account account' : AdvancedBacktestAccount}

theorem LotsFollow.same (h : account.LotsFollow) (hsame : SameLots account account') :
    account'.LotsFollow := by
  unfold LotsFollow
  rw [hsame.taxLots, hsame.executionIds]
  refine h.weaken ?_ fun _ => id
  intro instrumentId
  simp only [heldQuantity, hsame.positions]

def lotParts (account : AdvancedBacktestAccount) :
    TaxLotBook × OrderedMap String AdvancedBacktestPosition ×
      OrderedSet String :=
  (account.taxLots, account.positions, account.executionIds)

theorem sameLots_of_lotParts (h : account'.lotParts = account.lotParts)
    : SameLots account account' := by
  simp only [lotParts, Prod.mk.injEq] at h
  exact ⟨h.1, h.2.1, h.2.2⟩

theorem bookCharges_keeps (currency : Currency) (charges : BacktestExecutionCharges) :
    (bookCharges currency charges).Keeps lotParts := by
  apply Fallible.Keeps.read_bind
  intro account
  refine Fallible.Keeps.update_bind (fun _ => rfl) ?_
  apply Fallible.Keeps.lift_bind
  intro commission
  refine Fallible.Keeps.update_bind (fun _ => rfl) ?_
  apply Fallible.Keeps.lift_bind
  intro exchange
  refine Fallible.Keeps.update_bind (fun _ => rfl) ?_
  apply Fallible.Keeps.lift_bind
  intro regulatory
  exact Fallible.Keeps.update fun _ => rfl

theorem chargeFinancing_keeps (charges : List (Currency × Decimal)) :
    (chargeFinancing charges).Keeps lotParts := by
  induction charges with
  | nil => exact Fallible.Keeps.pure ()
  | cons entry charges ih =>
    apply Fallible.Keeps.read_bind
    intro account
    apply Fallible.Keeps.lift_bind
    intro cash
    refine Fallible.Keeps.update_bind (fun _ => rfl) ?_
    apply Fallible.Keeps.lift_bind
    intro total
    exact Fallible.Keeps.update_bind (fun _ => rfl) ih

theorem accrueFinancing_keeps (accrualId : String) (days dayCountBasis : Nat)
    (marks : OrderedMap String Decimal) (rates : OrderedMap Currency Nat) :
    (accrueFinancing accrualId days dayCountBasis marks rates).Keeps
      lotParts := by
  apply Fallible.Keeps.read_bind
  intro account
  apply Fallible.Keeps.lift_bind
  intro _
  apply Fallible.Keeps.lift_bind
  intro _
  apply Fallible.Keeps.lift_bind
  intro balances
  apply Fallible.Keeps.lift_bind
  intro accrual
  apply Fallible.Keeps.bind (chargeFinancing_keeps _)
  intro _
  refine Fallible.Keeps.update_bind (fun _ => rfl) ?_
  exact Fallible.Keeps.pure _

theorem bookDividend_keeps (position : AdvancedBacktestPosition)
    (amount : Decimal) : (bookDividend position amount).Keeps lotParts := by
  apply Fallible.Keeps.read_bind
  intro account
  apply Fallible.Keeps.lift_bind
  intro value
  apply Fallible.Keeps.lift_bind
  intro cashDelta
  apply Fallible.Keeps.lift_bind
  intro cash
  exact Fallible.Keeps.update fun _ => rfl

/-! ## What a fill is projected from -/

section

variable {account account' : AdvancedBacktestAccount} {fill : Fill}
  {terms : AdvancedInstrumentTerms} {charges : BacktestExecutionCharges}
  {projection : FillProjection}

theorem priorPosition_quantity (account : AdvancedBacktestAccount)
    (instrumentId : String) (terms : AdvancedInstrumentTerms) :
    (account.priorPosition instrumentId terms).quantity
      = account.heldQuantity instrumentId := by
  unfold priorPosition heldQuantity
  cases account.positions[instrumentId]? with
  | none => rfl
  | some position => rfl

structure Projected (account : AdvancedBacktestAccount) (fill : Fill)
    (projection : FillProjection) : Prop where
  executionId : isCanonicalId fill.executionId = true
  instrumentId : isCanonicalId fill.instrumentId = true
  executedAt : isUtcTimestamp fill.executedAt = true
  quantity : 0 < fill.quantity.scaled
  isNew : fill.executionId ∉ account.executionIds
  prior : projection.prior.quantity = account.heldQuantity fill.instrumentId
  signed : projection.signedFill.scaled = signedFill fill
  projected : projection.projectedQuantity.scaled
    = (account.heldQuantity fill.instrumentId).scaled + signedFill fill

theorem scaled_of_signedQuantity {signed : Decimal}
    (h : signedQuantity fill = .ok signed) : signed.scaled = signedFill fill := by
  unfold signedQuantity at h
  unfold signedFill
  cases hside : fill.side with
  | buy =>
    simp only [hside] at h
    rw [← Except.ok.inj h]
  | sell =>
    simp only [hside, checkedSub_eq_ok, scaled_zero] at h
    simp only [h]
    omega

theorem projected_of_projectFill
    (h : account.projectFill fill terms charges = .ok projection) :
    account.Projected fill projection := by
  simp only [projectFill, checkFill, bind_eq_ok, validateCanonicalId_eq_ok,
    validateUtcTimestamp_eq_ok, refuseIf_eq_ok, exists_const, not_or,
    checkedAdd_eq_ok, le_def, scaled_zero, pure_eq_ok] at h
  obtain ⟨⟨_, -, hexecution, -, hinstrument, hexecuted, ⟨hquantity, -⟩,
    _, -, -, hnew⟩, -, signed, hsigned, projected, hprojected, _, -, _, -,
    rfl⟩ := h
  have hsum := scaled_of_signedQuantity hsigned
  have hprior := priorPosition_quantity account fill.instrumentId terms
  constructor
  · exact hexecution
  · exact hinstrument
  · exact hexecuted
  · omega
  · exact hnew
  · exact hprior
  · exact hsum
  · simp only
    rw [hprojected, hsum, hprior]

/-! ## Legs -/

variable {u : Unit} {e : PaperError} {quantity fee : Decimal}
  {prior position : AdvancedBacktestPosition} {legs : FillLegs}

variable {α : Type}

theorem onTaxLots_eq_ok {x : TaxLotBook.BookM α}
    (h : (onTaxLots x).run account = (.ok u, account')) :
    ∃ a book', x.run account.taxLots = (.ok a, book') ∧
      account' = setTaxLots book' account := by
  simp only [onTaxLots, Fallible.run_discard_eq_ok, run_zoom,
    Prod.mk.injEq] at h
  obtain ⟨a, hrun, rfl⟩ := h
  exact ⟨a, _, Prod.ext hrun rfl, rfl⟩

theorem onTaxLots_eq_error {x : TaxLotBook.BookM α}
    (h : (onTaxLots x).run account = (.error e, account')) :
    ∃ book', x.run account.taxLots = (.error e, book') ∧
      account' = setTaxLots book' account := by
  simp only [onTaxLots, run_discard_eq_error, run_zoom,
    Prod.mk.injEq] at h
  obtain ⟨hrun, rfl⟩ := h
  exact ⟨_, Prod.ext hrun rfl, rfl⟩

theorem applyTaxLotOpen_moves (h : (applyTaxLotOpen fill terms quantity fee).run account
      = (.ok u, account')) (hlong : account.taxLots.long.Open)
    (hshort : account.taxLots.short.Open)
    (hlot : "taxlot-" ++ fill.executionId ∉ account.taxLots.long.appliedLotIds)
    (hshortLot : "taxlot-" ++ fill.executionId ∉ account.taxLots.short.appliedLotIds) :
    ∃ book', account' = setTaxLots book' account ∧
      match fill.side with
      | .buy => TaxLotBook.Moves "taxlot-" fill.instrumentId fill.executionId
          quantity.scaled 0 account.taxLots book'
      | .sell => TaxLotBook.Moves "taxlot-" fill.instrumentId fill.executionId
          0 quantity.scaled account.taxLots book' := by
  simp only [applyTaxLotOpen, run_lift_bind_eq_ok] at h
  obtain ⟨unitPrice, -, h⟩ := h
  cases hside : fill.side with
  | buy =>
    simp only [hside] at h
    obtain ⟨fresh, book', hrun, rfl⟩ := onTaxLots_eq_ok h
    exact ⟨book', rfl, TaxLotBook.moves_acquire hrun hlong hshort rfl rfl hlot⟩
  | sell =>
    simp only [hside] at h
    obtain ⟨fresh, book', hrun, rfl⟩ := onTaxLots_eq_ok h
    exact ⟨book', rfl, TaxLotBook.moves_openShort hrun hlong hshort rfl rfl hshortLot⟩

theorem applyTaxLotOpen_error (h : (applyTaxLotOpen fill terms quantity fee).run account
      = (.error e, account')) : account' = account := by
  simp only [applyTaxLotOpen, run_lift_bind_eq_error] at h
  rcases h with h | ⟨unitPrice, -, h⟩
  · exact h.2
  · cases hside : fill.side with
    | buy =>
      simp only [hside] at h
      obtain ⟨book', hrun, rfl⟩ := onTaxLots_eq_error h
      rw [TaxLotBook.acquire_error hrun]
      rfl
    | sell =>
      simp only [hside] at h
      obtain ⟨book', hrun, rfl⟩ := onTaxLots_eq_error h
      rw [TaxLotBook.openShort_error hrun]
      rfl

theorem openingFits_of_applyTaxLotOpen
    (h : (applyTaxLotOpen fill terms quantity fee).run account
      = (.ok u, account')) : OpeningFits fill quantity fee := by
  simp only [applyTaxLotOpen, run_lift_bind_eq_ok] at h
  obtain ⟨unitPrice, hunit, h⟩ := h
  refine ⟨unitPrice, hunit, ?_⟩
  intro hside
  simp only [hside] at h
  obtain ⟨fresh, book', hrun, -⟩ := onTaxLots_eq_ok h
  exact TaxLotBook.acquire_price hrun

theorem applyTaxLotOpen_runs (hprojected : account.Projected fill projection)
    (hquantity : 0 < quantity.scaled) (hfits : OpeningFits fill quantity fee)
    (start : AdvancedBacktestAccount) (e : PaperError) :
    (applyTaxLotOpen fill terms quantity fee).run start
      ≠ (.error e, account') := by
  obtain ⟨unitPrice, hunit, hpositive⟩ := hfits
  have hid : isCanonicalId ("taxlot-" ++ fill.executionId) = true :=
    isCanonicalId_append (by decide) hprojected.executionId
  intro h
  simp only [applyTaxLotOpen, run_lift_bind_eq_error, hunit] at h
  rcases h with h | ⟨_, hsame, h⟩
  · simp at h
  · obtain rfl := Except.ok.inj hsame
    cases hside : fill.side with
    | buy =>
      simp only [hside] at h
      obtain ⟨book', hrun, -⟩ := onTaxLots_eq_error h
      obtain ⟨_, _, hruns⟩ := @TaxLotBook.acquire_runs
        (openingLot fill terms quantity unitPrice) hid
        hprojected.instrumentId hprojected.executedAt hquantity
        (hpositive hside) start.taxLots
      rw [hruns] at hrun
      simp at hrun
    | sell =>
      simp only [hside] at h
      obtain ⟨book', hrun, -⟩ := onTaxLots_eq_error h
      obtain ⟨_, _, hruns⟩ := @TaxLotBook.openShort_runs
        (openingLot fill terms quantity unitPrice) hid
        hprojected.instrumentId hprojected.executedAt hquantity
        start.taxLots
      rw [hruns] at hrun
      simp at hrun

theorem applyTaxLotClose_moves {closingLong : Bool}
    (h : (applyTaxLotClose fill terms closingLong quantity fee).run account
      = (.ok u, account')) (hlong : account.taxLots.long.Open)
    (hshort : account.taxLots.short.Open)
    (hnew : account.taxLots.Unapplied "taxlot-" fill.executionId) :
    ∃ book', account' = setTaxLots book' account ∧
      book'.long.appliedLotIds = account.taxLots.long.appliedLotIds ∧
      book'.short.appliedLotIds = account.taxLots.short.appliedLotIds ∧
      TaxLotBook.Moves "taxlot-" fill.instrumentId fill.executionId
        (if closingLong = true then -quantity.scaled else 0)
        (if closingLong = true then 0 else -quantity.scaled)
        account.taxLots book' := by
  unfold applyTaxLotClose at h
  cases closingLong with
  | true =>
    simp only [if_true] at h ⊢
    obtain ⟨closed, book', hrun, rfl⟩ := onTaxLots_eq_ok h
    have hmoves := TaxLotBook.moves_dispose "taxlot-" hrun hlong hshort
      hnew.disposal
    obtain ⟨taking, realized, -, rfl⟩ :=
      TaxLotBook.dispose_ok hrun hnew.disposal
    exact ⟨_, rfl, rfl, rfl, hmoves⟩
  | false =>
    simp only [Bool.false_eq_true, if_false] at h ⊢
    obtain ⟨closed, book', hrun, rfl⟩ := onTaxLots_eq_ok h
    have hmoves := TaxLotBook.moves_cover "taxlot-" hrun hlong hshort
      hnew.cover
    obtain ⟨taking, realized, -, rfl⟩ := TaxLotBook.cover_ok hrun hnew.cover
    exact ⟨_, rfl, rfl, rfl, hmoves⟩

theorem applyTaxLotClose_error
    (h : (applyTaxLotClose fill terms (Decimal.zero < prior.quantity)
      legs.closing legs.closingFee).run account = (.error e, account'))
    (hfits : ∀ profit, account.closingProfit fill terms prior legs = .ok profit →
        account.taxLots.RealizedFits terms.currency profit) : account' = account := by
  unfold applyTaxLotClose at h
  unfold closingProfit at hfits
  by_cases hheld : Decimal.zero < prior.quantity
  · simp only [hheld, decide_true, if_true] at h hfits
    obtain ⟨book', hrun, rfl⟩ := onTaxLots_eq_error h
    rw [TaxLotBook.dispose_error hrun hfits]
    rfl
  · simp only [hheld, decide_false, Bool.false_eq_true, if_false] at h hfits
    obtain ⟨book', hrun, rfl⟩ := onTaxLots_eq_error h
    rw [TaxLotBook.cover_error hrun hfits]
    rfl

theorem applyTaxLotClose_profit
    (h : (applyTaxLotClose fill terms (Decimal.zero < prior.quantity)
      legs.closing legs.closingFee).run account = (.ok u, account')) :
    ∃ profit, account.closingProfit fill terms prior legs = .ok profit := by
  unfold applyTaxLotClose at h
  unfold closingProfit
  by_cases hheld : Decimal.zero < prior.quantity
  · simp only [hheld, decide_true, if_true] at h ⊢
    obtain ⟨closed, book', hrun, -⟩ := onTaxLots_eq_ok h
    exact TaxLotBook.dispose_profit hrun
  · simp only [hheld, decide_false, Bool.false_eq_true, if_false] at h ⊢
    obtain ⟨closed, book', hrun, -⟩ := onTaxLots_eq_ok h
    exact TaxLotBook.cover_profit hrun

/-! ## The booked position -/

structure LotsMoved (account : AdvancedBacktestAccount) (fill : Fill)
    (long short : Int) (book' : TaxLotBook) : Prop where
  moves : TaxLotBook.Moves "taxlot-" fill.instrumentId fill.executionId long
    short account.taxLots book'
  signed : long - short = signedFill fill
  oneSided : longQuantity account.taxLots fill.instrumentId + long = 0 ∨
    shortQuantity account.taxLots fill.instrumentId + short = 0

theorem sameDirection_eq_true : sameDirection projection = true ↔
      projection.prior.quantity.scaled = 0 ∨ 0 < projection.prior.quantity.scaled ∧
          0 < projection.signedFill.scaled ∨
        projection.prior.quantity.scaled < 0 ∧
          projection.signedFill.scaled < 0 := by
  simp only [sameDirection, decide_eq_true_eq, lt_def, scaled_zero, ← scaled_inj]

theorem extendPosition_moves (hfollow : account.LotsFollow)
    (hprojected : account.Projected fill projection)
    (hsame : sameDirection projection = true)
    (h : (extendPosition fill terms projection).run account
      = (.ok position, account')) : position.quantity = projection.projectedQuantity ∧
      ∃ long short book', account' = setTaxLots book' account ∧
        account.LotsMoved fill long short book' := by
  have hnew := hfollow.unapplied hprojected.isNew
  have hquantity := hfollow.quantity fill.instrumentId
  have hlongPositive := (hfollow.long fill.instrumentId).lotQuantity_nonneg
  have hshortPositive := (hfollow.short fill.instrumentId).lotQuantity_nonneg
  have hone := hfollow.oneSided fill.instrumentId
  have hfill := hprojected.quantity
  have hsigned := hprojected.signed
  rw [sameDirection_eq_true, hprojected.prior] at hsame
  simp only [extendPosition, run_lift_bind_eq_ok] at h
  obtain ⟨averagePrice, -, h⟩ := h
  obtain ⟨_, opened, hopen, h⟩ := run_bind_eq_ok.mp h
  obtain ⟨book', rfl, hmoves⟩ := applyTaxLotOpen_moves hopen hfollow.long
    hfollow.short hnew.lot hnew.shortLot
  rw [run_pure, Prod.mk.injEq] at h
  obtain ⟨hposition, rfl⟩ := h
  obtain rfl := Except.ok.inj hposition
  refine ⟨rfl, ?_⟩
  simp only [longQuantity, shortQuantity, TaxLotBook.lots,
    TaxLotBook.shortLots] at hquantity hone
  cases hside : fill.side with
  | buy =>
    simp only [hside] at hmoves
    simp only [signedFill, hside] at hsigned
    refine ⟨_, _, book', rfl, hmoves, ?_, ?_⟩
    · simp [signedFill, hside]
    · simp only [longQuantity, shortQuantity, TaxLotBook.lots, TaxLotBook.shortLots]
      omega
  | sell =>
    simp only [hside] at hmoves
    simp only [signedFill, hside] at hsigned
    refine ⟨_, _, book', rfl, hmoves, ?_, ?_⟩
    · simp [signedFill, hside]
    · simp only [longQuantity, shortQuantity, TaxLotBook.lots, TaxLotBook.shortLots]
      omega

theorem fillLegs_eq_ok (h : fillLegs fill terms prior = .ok legs) :
    legs.closing.scaled = min (|prior.quantity.scaled|) fill.quantity.scaled ∧
      legs.remainder.scaled
        = fill.quantity.scaled - legs.closing.scaled := by
  simp only [fillLegs, bind_eq_ok, checkedSub_eq_ok, pure_eq_ok] at h
  obtain ⟨units, hunits, _, -, _, -, _, -, _, -, remainder, hremainder, _, -,
    _, -, rfl⟩ := h
  refine ⟨?_, hremainder⟩
  rw [scaled_min, scaled_of_magnitude hunits]

theorem openRemainder_moves
    (h : (openRemainder fill terms legs).run account = (.ok u, account'))
    (hlong : account.taxLots.long.Open) (hshort : account.taxLots.short.Open)
    (hlot : "taxlot-" ++ fill.executionId ∉ account.taxLots.long.appliedLotIds)
    (hshortLot : "taxlot-" ++ fill.executionId
      ∉ account.taxLots.short.appliedLotIds) (hremainder : 0 ≤ legs.remainder.scaled) :
    ∃ book', account' = setTaxLots book' account ∧
      match fill.side with
      | .buy => TaxLotBook.Moves "taxlot-" fill.instrumentId fill.executionId
          legs.remainder.scaled 0 account.taxLots book'
      | .sell => TaxLotBook.Moves "taxlot-" fill.instrumentId fill.executionId
          0 legs.remainder.scaled account.taxLots book' := by
  unfold openRemainder at h
  by_cases hcrosses : Decimal.zero < legs.remainder
  · rw [if_pos hcrosses] at h
    exact applyTaxLotOpen_moves h hlong hshort hlot hshortLot
  · rw [if_neg hcrosses, run_pure, Prod.mk.injEq] at h
    obtain ⟨-, rfl⟩ := h
    rw [lt_def, scaled_zero] at hcrosses
    have hzero : legs.remainder.scaled = 0 := by omega
    have hrefl := TaxLotBook.moves_refl hlong hshort "taxlot-"
      fill.instrumentId fill.executionId
    refine ⟨account.taxLots, rfl, ?_⟩
    rw [hzero]
    cases fill.side with
    | buy => exact hrefl
    | sell => exact hrefl

theorem reducePosition_moves (hfollow : account.LotsFollow)
    (hprojected : account.Projected fill projection)
    (hopposed : sameDirection projection = false)
    (h : (reducePosition fill terms projection).run account
      = (.ok position, account')) : position.quantity = projection.projectedQuantity ∧
      ∃ long short book', account' = setTaxLots book' account ∧
        account.LotsMoved fill long short book' := by
  have hnew := hfollow.unapplied hprojected.isNew
  have hquantity := hfollow.quantity fill.instrumentId
  have hlongPositive := (hfollow.long fill.instrumentId).lotQuantity_nonneg
  have hshortPositive := (hfollow.short fill.instrumentId).lotQuantity_nonneg
  have hone := hfollow.oneSided fill.instrumentId
  have hfill := hprojected.quantity
  have hsigned := hprojected.signed
  rw [Bool.eq_false_iff, ne_eq, sameDirection_eq_true,
    hprojected.prior] at hopposed
  simp only [reducePosition, run_lift_bind_eq_ok] at h
  obtain ⟨legs, hlegs, h⟩ := h
  obtain ⟨_, closed, hclose, h⟩ := run_bind_eq_ok.mp h
  obtain ⟨_, opened, hopen, h⟩ := run_bind_eq_ok.mp h
  obtain ⟨hclosing, hremainder⟩ := fillLegs_eq_ok hlegs
  rw [hprojected.prior, Int.abs_eq_natAbs] at hclosing
  obtain ⟨book', rfl, hlotIds, hshortIds, hclosed⟩ :=
    applyTaxLotClose_moves hclose hfollow.long hfollow.short hnew
  obtain ⟨book'', rfl, hopened⟩ := openRemainder_moves hopen
    hclosed.long.isOpen hclosed.short.isOpen
    (by simpa only [setTaxLots, hlotIds] using hnew.lot)
    (by simpa only [setTaxLots, hshortIds] using hnew.shortLot) (by omega)
  rw [run_pure, Prod.mk.injEq] at h
  obtain ⟨hposition, rfl⟩ := h
  obtain rfl := Except.ok.inj hposition
  refine ⟨rfl, ?_⟩
  simp only [longQuantity, shortQuantity, TaxLotBook.lots,
    TaxLotBook.shortLots] at hquantity hone
  simp only [hprojected.prior, lt_def, scaled_zero,
    decide_eq_true_eq] at hclosed
  cases hside : fill.side with
  | buy =>
    simp only [hside] at hopened
    simp only [signedFill, hside] at hsigned
    have hshorts : ¬0 < (account.heldQuantity fill.instrumentId).scaled := by
      omega
    rw [if_neg hshorts, if_neg hshorts] at hclosed
    refine ⟨_, _, book'', rfl, hclosed.trans hopened, ?_, ?_⟩
    · simp only [signedFill, hside]
      omega
    · simp only [longQuantity, shortQuantity, TaxLotBook.lots, TaxLotBook.shortLots]
      omega
  | sell =>
    simp only [hside] at hopened
    simp only [signedFill, hside] at hsigned
    have hlongs : 0 < (account.heldQuantity fill.instrumentId).scaled := by
      omega
    rw [if_pos hlongs, if_pos hlongs] at hclosed
    refine ⟨_, _, book'', rfl, hclosed.trans hopened, ?_, ?_⟩
    · simp only [signedFill, hside]
      omega
    · simp only [longQuantity, shortQuantity, TaxLotBook.lots, TaxLotBook.shortLots]
      omega

theorem bookPosition_moves (hfollow : account.LotsFollow)
    (hprojected : account.Projected fill projection)
    (h : (bookPosition fill terms projection).run account
      = (.ok position, account')) : position.quantity = projection.projectedQuantity ∧
      ∃ long short book', account' = setTaxLots book' account ∧
        account.LotsMoved fill long short book' := by
  unfold bookPosition at h
  cases hsame : sameDirection projection with
  | true =>
    rw [hsame, if_pos rfl] at h
    exact extendPosition_moves hfollow hprojected hsame h
  | false =>
    rw [hsame, if_neg (by decide)] at h
    exact reducePosition_moves hfollow hprojected hsame h

theorem bookPosition_error (hprojected : account.Projected fill projection)
    (hopening : sameDirection projection = false → ∀ legs,
      fillLegs fill terms projection.prior = .ok legs → ∀ profit,
        account.closingProfit fill terms projection.prior legs = .ok profit →
          account.ReductionFits fill terms projection.cashDelta profit legs)
    (h : (bookPosition fill terms projection).run account
      = (.error e, account')) : account' = account := by
  unfold bookPosition at h
  cases hsame : sameDirection projection with
  | true =>
    rw [hsame, if_pos rfl] at h
    simp only [extendPosition, run_lift_bind_eq_error] at h
    rcases h with h | ⟨averagePrice, -, h⟩
    · exact h.2
    · rcases run_bind_eq_error.mp h with h | ⟨_, _, -, h⟩
      · exact applyTaxLotOpen_error h
      · simp at h
  | false =>
    rw [hsame, if_neg (by decide)] at h
    simp only [reducePosition, run_lift_bind_eq_error] at h
    rcases h with h | ⟨legs, hlegs, h⟩
    · exact h.2
    · rcases run_bind_eq_error.mp h with h | ⟨_, closed, hclose, h⟩
      · exact applyTaxLotClose_error h fun profit hprofit =>
          (hopening hsame legs hlegs profit hprofit).realized
      · obtain ⟨profit, hprofit⟩ := applyTaxLotClose_profit hclose
        have hfits := hopening hsame legs hlegs profit hprofit
        rcases run_bind_eq_error.mp h with h | ⟨_, _, -, h⟩
        · refine absurd h ?_
          unfold openRemainder
          by_cases hcrosses : Decimal.zero < legs.remainder
          · rw [if_pos hcrosses]
            exact applyTaxLotOpen_runs hprojected hcrosses
              (hfits.opening hcrosses) closed e
          · simp [hcrosses]
        · simp at h

theorem cashFits_of_bookPosition (hsettles : account.FillSettles fill terms charges)
    (hproject : account.projectFill fill terms charges = .ok projection)
    (h : (bookPosition fill terms projection).run account
      = (.ok position, account')) : account.CashFits terms projection.cashDelta := by
  have hfits := hsettles projection hproject
  unfold bookPosition at h
  cases hsame : sameDirection projection with
  | true =>
    rw [hsame, if_pos rfl] at h hfits
    simp only [extendPosition, run_lift_bind_eq_ok] at h
    obtain ⟨averagePrice, haverage, h⟩ := h
    obtain ⟨_, opened, hopen, -⟩ := run_bind_eq_ok.mp h
    exact hfits averagePrice haverage (openingFits_of_applyTaxLotOpen hopen)
  | false =>
    rw [hsame, if_neg (by decide)] at h hfits
    simp only [reducePosition, run_lift_bind_eq_ok] at h
    obtain ⟨legs, hlegs, h⟩ := h
    obtain ⟨_, closed, hclose, -⟩ := run_bind_eq_ok.mp h
    obtain ⟨profit, hprofit⟩ := applyTaxLotClose_profit hclose
    exact (hfits legs hlegs profit hprofit).cash

theorem LotsFollow.booked {long short : Int} {book' : TaxLotBook}
    (hfollow : account.LotsFollow) (hprojected : account.Projected fill projection)
    (hquantity : position.quantity = projection.projectedQuantity)
    (hmoved : account.LotsMoved fill long short book')
    (htaxLots : account'.taxLots = book') (hpositions : account'.positions
      = account.positions.insert fill.instrumentId position) (hids : account'.executionIds
      = account.executionIds.insert fill.executionId) : account'.LotsFollow := by
  have hheld : ∀ other, account'.heldQuantity other
      = if fill.instrumentId = other then position.quantity
        else account.heldQuantity other := by
    intro other
    simp only [heldQuantity, hpositions, getElem?_insert,
      Std.LawfulEqCmp.compare_eq_iff_eq]
    by_cases hother : fill.instrumentId = other
    · simp [hother]
    · simp [hother]
  unfold LotsFollow
  rw [htaxLots, hids]
  refine hfollow.moved hmoved.moves ?_ ?_ hmoved.oneSided ?_ ?_
  · rw [hheld, if_pos rfl, hquantity, hprojected.projected, hmoved.signed]
  · intro other hother
    rw [hheld, if_neg hother]
  · intro id hid
    exact mem_insert.mpr (.inr hid)
  · exact mem_insert_self

theorem applyFill_follows (hfollow : account.LotsFollow)
    (hsettles : account.FillSettles fill terms charges) :
    ((applyFill fill terms charges).final account).LotsFollow := by
  unfold applyFill
  rw [final_read_bind]
  refine final_lift_bind ?_ hfollow
  intro projection hproject
  have hprojected := projected_of_projectFill hproject
  refine final_bind ?_ ?_
  · intro position booked hrun
    obtain ⟨cash, hcash⟩ := cashFits_of_bookPosition hsettles hproject hrun
    obtain ⟨hquantity, long, short, book', rfl, hmoved⟩ :=
      bookPosition_moves hfollow hprojected hrun
    rw [hcash]
    refine LotsFollow.same ?_
      (sameLots_of_lotParts (bookCharges_keeps terms.currency charges _))
    exact hfollow.booked hprojected hquantity hmoved rfl rfl rfl
  · intro e failed hrun
    rw [bookPosition_error hprojected ?_ hrun]
    · exact hfollow
    · intro hopposed legs hlegs profit hprofit
      have hfits := hsettles projection hproject
      rw [hopposed, if_neg (by decide)] at hfits
      exact hfits legs hlegs profit hprofit

theorem applyFill_ok_follows (hfollow : account.LotsFollow)
    (h : (applyFill fill terms charges).run account = (.ok u, account')) :
    account'.LotsFollow := by
  simp only [applyFill, run_read_bind,
    run_lift_bind_eq_ok] at h
  obtain ⟨projection, hproject, h⟩ := h
  obtain ⟨position, booked, hrun, h⟩ := run_bind_eq_ok.mp h
  simp only [run_lift_bind_eq_ok, run_update_bind] at h
  obtain ⟨cash, -, h⟩ := h
  have hprojected := projected_of_projectFill hproject
  obtain ⟨hquantity, long, short, book', rfl, hmoved⟩ :=
    bookPosition_moves hfollow hprojected hrun
  rw [← final_eq h]
  refine LotsFollow.same ?_
    (sameLots_of_lotParts (bookCharges_keeps terms.currency charges _))
  exact hfollow.booked hprojected hquantity hmoved rfl rfl rfl

theorem applyFillWithCapitalCheck_follows {capital : BacktestCapitalCheck}
    (hfollow : account.LotsFollow) :
    ((applyFillWithCapitalCheck fill terms charges capital).final
      account).LotsFollow := by
  unfold applyFillWithCapitalCheck
  rw [final_read_bind]
  refine final_lift_bind ?_ hfollow
  intro u happlied
  refine final_lift_bind ?_ hfollow
  intro snapshot _
  refine final_lift_bind ?_ hfollow
  intro _ _
  exact applyFill_ok_follows hfollow (Prod.ext happlied rfl)

end

/-! ## Corporate actions -/

section

variable {account : AdvancedBacktestAccount}

variable {instrumentId : String}

variable {position : AdvancedBacktestPosition}
  {ratio settlementPrice : Decimal} {eventId effectiveAt : String}

theorem quantity_fits_of_applySplit {book' : TaxLotBook} (hfollow : account.LotsFollow)
    (hposition : account.positions[instrumentId]? = some position)
    (h : account.taxLots.applySplit instrumentId ratio = .ok book') :
    ∃ quantity, position.quantity.checkedMul ratio = .ok quantity := by
  simp only [TaxLotBook.applySplit, bind_eq_ok, refuseIf_eq_ok, exists_const,
    le_def, scaled_zero] at h
  obtain ⟨_, -, hratio, long, hlong, short, hshort, -⟩ := h
  have hquantity := hfollow.quantity instrumentId
  have hheld : account.heldQuantity instrumentId = position.quantity := by
    simp [heldQuantity, hposition]
  simp only [hheld, longQuantity, shortQuantity, TaxLotBook.lots,
    TaxLotBook.shortLots] at hquantity
  have hone := hfollow.oneSided instrumentId
  simp only [longQuantity, shortQuantity, TaxLotBook.lots,
    TaxLotBook.shortLots] at hone
  rcases hone with hnone | hnone
  · obtain ⟨held, target, hsum, htarget⟩ :=
      LotSide.applySplit_fits hshort (by omega) hfollow.short
    refine Decimal.checkedMul_neg htarget (by omega) ?_
    rw [hsum]
    exact Int.mul_nonneg (hfollow.short instrumentId).lotQuantity_nonneg
      (by omega)
  · obtain ⟨held, target, hsum, htarget⟩ :=
      LotSide.applySplit_fits hlong (by omega) hfollow.long
    have hsame : position.quantity = held := by
      apply Decimal.ext
      omega
    exact ⟨target, hsame ▸ htarget⟩

theorem bookSplit_follows (hfollow : account.LotsFollow)
    (hposition : account.positions[instrumentId]? = some position) :
    ((bookSplit position instrumentId ratio).final account).LotsFollow := by
  unfold bookSplit
  rw [final_read_bind]
  refine final_lift_bind ?_ hfollow
  intro book' hsplit
  obtain ⟨quantity, hquantity⟩ :=
    quantity_fits_of_applySplit hfollow hposition hsplit
  rw [final_update_bind, hquantity]
  have hscaled := scaled_of_checkedMul hquantity
  have hheld : (account.heldQuantity instrumentId).scaled
      = position.quantity.scaled := by
    simp [heldQuantity, hposition]
  have hstored : ∀ averagePrice,
      (setPosition instrumentId { position with quantity, averagePrice }
        (setTaxLots book' account)).LotsFollow := by
    intro averagePrice
    refine hfollow.split hsplit ?_ ?_
    · rw [hheld, ← hscaled]
      simp [heldQuantity, setPosition]
    · intro other hother
      simp [heldQuantity, setPosition, setTaxLots, getElem?_insert, hother]
  rw [Fallible.final_lift_ok_bind, final_update_bind]
  by_cases hzero : quantity = Decimal.zero
  · rw [if_pos hzero]
    exact hstored position.averagePrice
  · rw [if_neg hzero]
    refine final_lift_bind ?_ (hstored position.averagePrice)
    intro averagePrice _
    rw [Fallible.final_update]
    have hagain := hstored averagePrice
    unfold setPosition at hagain ⊢
    rwa [OrderedMap.insert_insert]

theorem applyCorporateAction_follows {action : CorporateAction}
    (hfollow : account.LotsFollow) :
    ((applyCorporateAction action).final account).LotsFollow := by
  have hnoted : ∀ noted : AdvancedBacktestAccount, noted.LotsFollow →
      (noteLifecycleEvent action.actionId noted).LotsFollow :=
    fun noted hnoted => hnoted.same ⟨rfl, rfl, rfl⟩
  unfold applyCorporateAction
  rw [final_read_bind]
  refine final_lift_bind ?_ hfollow
  intro _ _
  cases hposition : account.positions[action.instrumentId]? with
  | none => exact hnoted account hfollow
  | some position =>
    have hbooked : ((bookAction position action).final account).LotsFollow := by
      cases action with
      | split _ instrumentId _ ratio =>
        exact bookSplit_follows hfollow hposition
      | cashDividend _ _ _ amount =>
        exact hfollow.same
          (sameLots_of_lotParts (bookDividend_keeps position amount account))
    refine final_bind ?_ ?_
    · intro _ booked hrun
      rw [final_eq hrun] at hbooked
      exact hnoted booked hbooked
    · intro e failed hrun
      rw [final_eq hrun] at hbooked
      exact hbooked

/-! ## Delistings -/

theorem settleDelisting_closed
    (h : ¬account.DelistingCloses eventId instrumentId effectiveAt settlementPrice) :
    (settleDelisting eventId instrumentId effectiveAt settlementPrice).final
      account = account := by
  unfold settleDelisting
  rw [final_read_bind]
  refine final_lift_bind (P := (· = account)) ?_ rfl
  intro position hfound
  refine final_lift_bind (P := (· = account)) ?_ rfl
  intro amounts hamounts
  exact absurd ⟨position, amounts, hfound, hamounts⟩ h

theorem settleDelisting_breaks (hfollow : account.LotsFollow)
    (h : account.DelistingCloses eventId instrumentId effectiveAt settlementPrice) :
    ¬((settleDelisting eventId instrumentId effectiveAt settlementPrice).final
      account).LotsFollow := by
  obtain ⟨position, amounts, hfound, hamounts⟩ := h
  have hopen : account.positions[instrumentId]? = some position ∧
      position.quantity ≠ Decimal.zero := by
    simp only [findDelisted, bind_eq_ok] at hfound
    obtain ⟨_, -, _, -, _, -, _, -, hfound⟩ := hfound
    cases hposition : account.positions[instrumentId]? with
    | none => simp [hposition] at hfound
    | some held =>
      simp only [hposition, bind_eq_ok, refuseIf_eq_ok, exists_const, pure_eq_ok] at hfound
      obtain ⟨hquantity, rfl⟩ := hfound
      exact ⟨rfl, hquantity⟩
  have hheld : account.heldQuantity instrumentId = position.quantity := by
    simp [heldQuantity, hopen.1]
  have hclosed : ∀ cash lifecycleEventIds delistings,
      ¬LotsFollow
        { setPosition instrumentId { position with
            realizedPnl := amounts.2.2, quantity := Decimal.zero
            averagePrice := Decimal.zero } account with
          cashByCurrency := cash, lifecycleEventIds, delistings } := by
    intro cash lifecycleEventIds delistings hafter
    have hbefore := hfollow.quantity instrumentId
    have hnow := hafter.quantity instrumentId
    simp only [setPosition] at hnow
    rw [hbefore, hheld] at hnow
    apply hopen.2
    apply Decimal.ext
    rw [hnow]
    simp [heldQuantity]
  unfold settleDelisting
  rw [final_read_bind, hfound, Fallible.final_lift_ok_bind, hamounts,
    Fallible.final_lift_ok_bind, final_update_bind]
  refine final_lift_bind (P := fun t => ¬LotsFollow t) ?_ ?_
  · intro cash _
    exact hclosed _ _ _
  · exact hclosed account.cashByCurrency account.lifecycleEventIds
      account.delistings

/-! ## Runs -/

theorem lotsFollow_opened (h : Opened account) : account.LotsFollow := by
  obtain ⟨cashByCurrency, hnew⟩ := h
  simp only [new, bind_eq_ok, refuseIf_eq_ok, exists_const, pure_eq_ok] at hnew
  obtain ⟨-, rfl⟩ := hnew
  refine (TaxLotBook.Follows.empty "taxlot-" ∅).weaken ?_ fun _ => id
  intro instrumentId
  simp [heldQuantity]

theorem lotsFollow_operates {account' : AdvancedBacktestAccount}
    (hfollow : account.LotsFollow) (h : Operates Settles account account') :
    account'.LotsFollow := by
  obtain ⟨operation, hsettles⟩ := h
  cases operation with
  | fill booked terms charges => exact applyFill_follows hfollow hsettles
  | fillWithCapitalCheck booked terms charges capital =>
    exact applyFillWithCapitalCheck_follows hfollow
  | accrueFinancing accrualId days dayCountBasis marks rates =>
    exact hfollow.same (sameLots_of_lotParts
      (accrueFinancing_keeps accrualId days dayCountBasis marks rates account))
  | corporateAction action => exact applyCorporateAction_follows hfollow
  | settleDelisting eventId instrumentId effectiveAt settlementPrice =>
    rw [AdvancedOperation.apply, final_discard, settleDelisting_closed hsettles]
    exact hfollow

end

/-- Whatever a run whose operations settle has booked, the open lots of an
instrument add up to its position and are open on one side only. -/
theorem settled_lots_match {account : AdvancedBacktestAccount}
    (h : Reachable Opened (Operates Settles) account) (instrumentId : String) :
    lotQuantity (account.taxLots.lots instrumentId)
        - lotQuantity (account.taxLots.shortLots instrumentId)
      = (account.heldQuantity instrumentId).scaled ∧
      (account.taxLots.lots instrumentId = [] ∨
        account.taxLots.shortLots instrumentId = []) := by
  have hfollow : account.LotsFollow := by
    refine h.invariant (P := LotsFollow) ?_ ?_
    · exact fun _ => lotsFollow_opened
    · exact fun _ _ _ => lotsFollow_operates
  exact ⟨hfollow.quantity instrumentId, hfollow.lots_eq_nil instrumentId⟩

end AdvancedBacktestAccount

namespace AdvancedSession

def dollars (units : Int) : Decimal :=
  (Decimal.fromInteger units).toOption.getD Decimal.zero

def usd : Currency := .usd

def terms : AdvancedInstrumentTerms where
  currency := usd
  assetClass := "equity"
  multiplier := dollars 1
  shortable := true
  borrowAvailable := dollars 100
  borrowRateBps := 300

def opening : AdvancedBacktestAccount where
  cashByCurrency := (∅ : OrderedMap Currency Decimal).insert usd (dollars 1000)
  positions := ∅
  executionIds := ∅
  lifecycleEventIds := ∅
  chargesByCurrency := ∅
  financingByCurrency := ∅
  delistings := []
  taxLots := .empty

def trade (executionId : String) (side : Side) (quantity : Int) : AdvancedOperation :=
  .fill
    { executionId, orderId := "order-1", instrumentId := "aapl", side
      quantity := dollars quantity, price := dollars 5, fee := dollars 1
      executedAt := "2026-01-02T10:00:00Z" }
    terms ⟨dollars 1, Decimal.zero, Decimal.zero⟩

def bought : AdvancedBacktestAccount := (trade "fill-1" .buy 10).apply.final opening

def delisted : AdvancedBacktestAccount :=
  (AdvancedOperation.settleDelisting "event-1" "aapl" "2026-02-02T10:00:00Z"
    (dollars 3)).apply.final bought

def crossed : AdvancedBacktestAccount := (trade "fill-2" .sell 15).apply.final bought

def split : AdvancedBacktestAccount :=
  (AdvancedOperation.corporateAction (.split "action-1" "aapl" "2026-02-02T10:00:00Z"
      (dollars 2))).apply.final crossed

theorem opened_opening : opening.Opened := by
  refine ⟨(∅ : OrderedMap Currency Decimal).insert usd (dollars 1000), ?_⟩
  unfold AdvancedBacktestAccount.new
  rw [refuseIf_of_not (by simp)]
  rfl

/-- A delisting settlement closes the position and leaves its lots open. -/
theorem delisting_leaves_lots : ∃ account : AdvancedBacktestAccount,
      Reachable AdvancedBacktestAccount.Opened
        (AdvancedBacktestAccount.Operates fun _ _ => True) account ∧
      (account.heldQuantity "aapl").scaled = 0 ∧
      lotQuantity (account.taxLots.lots "aapl")
        - lotQuantity (account.taxLots.shortLots "aapl") = 1000000000 := by
  refine ⟨delisted, ?_, by decide, by decide⟩
  exact .step (.step (.init opened_opening) (.operate _ trivial))
    (.operate _ trivial)

/-- A sale through zero and a split of the short position it opened. -/
theorem settled_lots_match_short : lotQuantity (split.taxLots.lots "aapl")
        - lotQuantity (split.taxLots.shortLots "aapl")
      = (split.heldQuantity "aapl").scaled ∧
      (split.taxLots.lots "aapl" = [] ∨
        split.taxLots.shortLots "aapl" = []) := by
  refine AdvancedBacktestAccount.settled_lots_match ?_ "aapl"
  refine .step (.step (.step (.init opened_opening) (.operate _ ?_))
    (.operate _ ?_)) (.operate _ trivial)
  · show opening.FillSettles _ _ _
    decide
  · show bought.FillSettles _ _ _
    decide

end AdvancedSession

end Follon.Backtest
