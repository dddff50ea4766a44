import Follon.Paper.OrderEffects
import Follon.Paper.RecordRuns

/-!
# Positions and tax lots

The portfolio keeps one net quantity for each instrument and the tax-lot book
keeps lots.  Every fill and every split moves both by the same amount, and the
lots of an instrument are never open on both sides.
-/

namespace Follon.Paper

open Foundation Domain ControlPlane Accounting

/-! ## Positions -/

variable {fill : Fill} {portfolio filled : Portfolio}
  {book book' : TaxLotBook} {intent : ComboIntent} {u : Unit}
  {execution : BrokerComboExecution} {may : Allowance} {s : ServiceRecord}

theorem scaled_of_signedQuantity {signed : Decimal}
    (h : Portfolio.signedQuantity fill = .ok signed) :
    signed.scaled = signedFill fill := by
  unfold Portfolio.signedQuantity at h
  unfold signedFill
  cases hside : fill.side with
  | buy =>
    simp only [hside] at h
    rw [← Except.ok.inj h]
  | sell =>
    simp only [hside, checkedSub_eq_ok, scaled_zero] at h
    simp only [h]
    omega

theorem applyFill_quantity (h : portfolio.applyFill fill = .ok filled)
    : 0 < fill.quantity.scaled ∧ filled.quantity.scaled
        = portfolio.quantity.scaled + signedFill fill := by
  simp only [Portfolio.applyFill, bind_eq_ok, refuseIf_eq_ok, exists_const,
    not_or, le_def, scaled_zero] at h
  obtain ⟨⟨-, hquantity⟩, h⟩ := h
  refine ⟨by omega, ?_⟩
  unfold signedFill
  cases hside : fill.side with
  | buy =>
    simp only [hside, bind_eq_ok, checkedAdd_eq_ok, pure_eq_ok] at h
    obtain ⟨_, -, _, -, _, -, quantity, hsum, _, -, _, -, rfl⟩ := h
    exact hsum
  | sell =>
    simp only [hside, bind_eq_ok, refuseIf_eq_ok, exists_const,
      checkedSub_eq_ok, pure_eq_ok] at h
    obtain ⟨-, _, -, _, -, _, -, _, -, quantity, hdifference, rfl⟩ := h
    simp only [hdifference]
    omega

theorem applySignedFill_quantity (h : portfolio.applySignedFill fill = .ok filled)
    : 0 < fill.quantity.scaled ∧ filled.quantity.scaled
        = portfolio.quantity.scaled + signedFill fill := by
  simp only [Portfolio.applySignedFill, bind_eq_ok, Prod.exists,
    refuseIf_eq_ok, exists_const, not_or, le_def, scaled_zero,
    checkedAdd_eq_ok, pure_eq_ok] at h
  obtain ⟨⟨-, hquantity, -⟩, signed, hsigned, _, -, next, hnext, _, _, -, -,
    rfl⟩ := h
  refine ⟨by omega, ?_⟩
  rw [hnext, scaled_of_signedQuantity hsigned]

theorem applySplit_checkedMul {scaled : Portfolio} {ratio : Decimal}
    (h : portfolio.applySplit ratio = .ok scaled) :
    portfolio.quantity.checkedMul ratio = .ok scaled.quantity := by
  simp only [Portfolio.applySplit, bind_eq_ok, refuseIf_eq_ok, exists_const,
    pure_eq_ok] at h
  obtain ⟨-, quantity, hquantity, _, -, -, rfl⟩ := h
  exact hquantity

namespace Books

variable {books : Books}

theorem heldQuantity_insert {books' : Books} {instrumentId : String}
    {portfolio : Portfolio}
    (h : books'.portfolios = books.portfolios.insert instrumentId portfolio)
    (other : String) : books'.heldQuantity other
      = if instrumentId = other then portfolio.quantity
        else books.heldQuantity other := by
  simp only [heldQuantity, h, getElem?_insert, Std.LawfulEqCmp.compare_eq_iff_eq]
  by_cases hsame : instrumentId = other
  · simp [hsame]
  · simp [hsame]

theorem fillPosition_quantity {config : Configuration} {fill : Fill}
    {filled : Portfolio} (h : books.fillPosition config fill = .ok filled)
    : 0 < fill.quantity.scaled ∧ filled.quantity.scaled
        = (books.heldQuantity fill.instrumentId).scaled + signedFill fill := by
  have hheld : (books.portfolios[fill.instrumentId]?.getD
      (Portfolio.new config.account.accountId fill.instrumentId)).quantity
      = books.heldQuantity fill.instrumentId := by
    unfold heldQuantity
    cases books.portfolios[fill.instrumentId]? <;> rfl
  rw [← hheld]
  dsimp only [fillPosition] at h
  split at h
  · exact applySignedFill_quantity h
  · exact applyFill_quantity h

end Books

/-! ## Lots a fill moves -/

/-- No lot and no closing of the book carries an identity derived from this
execution. -/
structure Unapplied (executionId : String) (book : TaxLotBook) : Prop where
  lot : "taxlot-" ++ executionId ∉ book.long.appliedLotIds
  short : "taxshort-" ++ executionId ∉ book.short.appliedLotIds
  disposal : "taxdisposal-" ++ executionId ∉ book.long.appliedCloseIds
  cover : "taxcover-" ++ executionId ∉ book.short.appliedCloseIds

/-- The book after lots of one instrument moved under the identities derived
from one execution. -/
structure LotsMove (instrumentId executionId : String) (long short : Int)
    (book book' : TaxLotBook) : Prop where
  long : book.long.Moves instrumentId ("taxlot-" ++ executionId)
    ("taxdisposal-" ++ executionId) long book'.long
  short : book.short.Moves instrumentId ("taxshort-" ++ executionId)
    ("taxcover-" ++ executionId) short book'.short

section

variable {currency : Currency} {fill : Fill} {closing closeFee opening : Decimal}
  {book book' : TaxLotBook}

theorem ClosesLots.moves (h : ClosesLots currency fill closing closeFee book book')
    (hlong : book.long.Open) (hshort : book.short.Open)
    (hclosing : 0 ≤ closing.scaled) (hnew : Unapplied fill.executionId book) :
    (match fill.side with
      | .buy => LotsMove fill.instrumentId fill.executionId 0
          (-closing.scaled) book book'
      | .sell => LotsMove fill.instrumentId fill.executionId
          (-closing.scaled) 0 book book') ∧
      book'.long.appliedLotIds = book.long.appliedLotIds ∧
        book'.short.appliedLotIds = book.short.appliedLotIds := by
  cases h with
  | nothing hnothing =>
    rw [le_def, scaled_zero] at hnothing
    have hzero : -closing.scaled = 0 := by omega
    refine ⟨?_, rfl, rfl⟩
    rw [hzero]
    cases fill.side <;>
      exact ⟨LotSide.moves_refl hlong _ _ _, LotSide.moves_refl hshort _ _ _⟩
  | covered _ hside hrun =>
    obtain ⟨taking, realized, hclose, rfl⟩ :=
      TaxLotBook.cover_ok hrun hnew.cover
    obtain ⟨-, hquantity, hnonneg⟩ :=
      LotSide.close_eq_some hclose (hshort fill.instrumentId)
    rw [hside]
    exact ⟨⟨LotSide.moves_refl hlong _ _ _,
      LotSide.moves_store hshort hquantity hnonneg _⟩, rfl, rfl⟩
  | disposed _ hside hrun =>
    obtain ⟨taking, realized, hclose, rfl⟩ :=
      TaxLotBook.dispose_ok hrun hnew.disposal
    obtain ⟨-, hquantity, hnonneg⟩ :=
      LotSide.close_eq_some hclose (hlong fill.instrumentId)
    rw [hside]
    exact ⟨⟨LotSide.moves_store hlong hquantity hnonneg _,
      LotSide.moves_refl hshort _ _ _⟩, rfl, rfl⟩

theorem OpensLot.moves (h : OpensLot currency fill opening book book')
    (hlong : book.long.Open) (hshort : book.short.Open)
    (hlot : "taxlot-" ++ fill.executionId ∉ book.long.appliedLotIds)
    (hshortLot : "taxshort-" ++ fill.executionId ∉ book.short.appliedLotIds) :
    match fill.side with
    | .buy => LotsMove fill.instrumentId fill.executionId opening.scaled 0
        book book'
    | .sell => LotsMove fill.instrumentId fill.executionId 0 opening.scaled
        book book' := by
  cases h with
  | nothing hnothing =>
    rw [hnothing, scaled_zero]
    cases fill.side <;>
      exact ⟨LotSide.moves_refl hlong _ _ _, LotSide.moves_refl hshort _ _ _⟩
  | acquired hside hrun =>
    obtain ⟨hopening, rfl⟩ := TaxLotBook.acquire_ok hrun hlot
    rw [hside]
    exact ⟨LotSide.moves_push hlong hopening _, LotSide.moves_refl hshort _ _ _⟩
  | shorted hside hrun =>
    obtain ⟨hopening, rfl⟩ := TaxLotBook.openShort_ok hrun hshortLot
    rw [hside]
    exact ⟨LotSide.moves_refl hlong _ _ _, LotSide.moves_push hshort hopening _⟩

end

theorem LotsMove.trans {instrumentId executionId : String}
    {long long' short short' : Int} {book'' : TaxLotBook}
    (h : LotsMove instrumentId executionId long short book book')
    (h' : LotsMove instrumentId executionId long' short' book' book'') :
    LotsMove instrumentId executionId (long + long') (short + short') book
      book'' :=
  ⟨h.long.trans h'.long, h.short.trans h'.short⟩

theorem FillsLots.moves {config : Configuration}
    (h : FillsLots config fill book book') (hlong : book.long.Open)
    (hshort : book.short.Open) (hone : longQuantity book fill.instrumentId = 0 ∨
      shortQuantity book fill.instrumentId = 0) (hquantity : 0 < fill.quantity.scaled)
    (hnew : Unapplied fill.executionId book) : ∃ long short,
      LotsMove fill.instrumentId fill.executionId long short book book' ∧
        long - short = signedFill fill ∧ (longQuantity book' fill.instrumentId = 0 ∨
            shortQuantity book' fill.instrumentId = 0) := by
  obtain @⟨currency, available, opening, closeFee, closed, _, -, havailable,
    hopening, hcloses, hopens⟩ := h
  have hfull := scaled_of_openQuantity havailable
  have hlongPositive := (hlong fill.instrumentId).lotQuantity_nonneg
  have hshortPositive := (hshort fill.instrumentId).lotQuantity_nonneg
  rw [checkedSub_eq_ok, scaled_min] at hopening
  have hclosing : 0 ≤ (available.min fill.quantity).scaled := by
    rw [scaled_min, hfull, opposingLots]
    split
    · exact le_min hshortPositive hquantity.le
    · exact le_min hlongPositive hquantity.le
  obtain ⟨hclosed, hlotIds, hshortIds⟩ :=
    hcloses.moves hlong hshort hclosing hnew
  rw [scaled_min] at hclosed
  simp only [longQuantity, shortQuantity, TaxLotBook.lots,
    TaxLotBook.shortLots] at hone ⊢
  cases hside : fill.side with
  | buy =>
    simp only [hside, opposingLots, TaxLotBook.shortLots] at hclosed hfull
    have hopened := hopens.moves hclosed.long.isOpen hclosed.short.isOpen
      (by rw [hlotIds]; exact hnew.lot) (by rw [hshortIds]; exact hnew.short)
    simp only [hside] at hopened
    have hmoved := hclosed.trans hopened
    have hlong' := hmoved.long.quantity
    have hshort' := hmoved.short.quantity
    refine ⟨_, _, hmoved, ?_, ?_⟩
    · simp only [signedFill, hside]
      omega
    · omega
  | sell =>
    simp only [hside, opposingLots, TaxLotBook.lots] at hclosed hfull
    have hopened := hopens.moves hclosed.long.isOpen hclosed.short.isOpen
      (by rw [hlotIds]; exact hnew.lot) (by rw [hshortIds]; exact hnew.short)
    simp only [hside] at hopened
    have hmoved := hclosed.trans hopened
    have hlong' := hmoved.long.quantity
    have hshort' := hmoved.short.quantity
    refine ⟨_, _, hmoved, ?_, ?_⟩
    · simp only [signedFill, hside]
      omega
    · omega

/-! ## The invariant -/

structure InStep (books : Books) (instrumentId : String) : Prop where
  quantity : longQuantity books.taxLots instrumentId
      - shortQuantity books.taxLots instrumentId
    = (books.heldQuantity instrumentId).scaled
  oneSided : longQuantity books.taxLots instrumentId = 0 ∨
    shortQuantity books.taxLots instrumentId = 0

structure Lockstep (books : Books) : Prop where
  inStep : ∀ instrumentId, InStep books instrumentId
  long : books.taxLots.long.Open
  short : books.taxLots.short.Open
  lots : Derived "taxlot-" books.taxLots.long.appliedLotIds books.executionIds
  shortLots : Derived "taxshort-" books.taxLots.short.appliedLotIds
    books.executionIds
  disposals : Derived "taxdisposal-" books.taxLots.long.appliedCloseIds
    books.executionIds
  covers : Derived "taxcover-" books.taxLots.short.appliedCloseIds
    books.executionIds

structure SameHoldings (books books' : Books) : Prop where
  portfolios : books'.portfolios = books.portfolios
  taxLots : books'.taxLots = books.taxLots
  executionIds : ∀ id ∈ books.executionIds, id ∈ books'.executionIds

namespace Lockstep

variable {books books' : Books}

theorem same (h : Lockstep books) (hsame : SameHoldings books books') :
    Lockstep books' := by
  have hheld : ∀ instrumentId,
      books'.heldQuantity instrumentId = books.heldQuantity instrumentId := by
    intro instrumentId
    simp only [Books.heldQuantity, hsame.portfolios]
  have hids := hsame.executionIds
  refine ⟨fun instrumentId => ⟨?_, ?_⟩, ?_, ?_, ?_, ?_, ?_, ?_⟩ <;>
    rw [hsame.taxLots]
  · rw [hheld]
    exact (h.inStep instrumentId).quantity
  · exact (h.inStep instrumentId).oneSided
  · exact h.long
  · exact h.short
  · exact h.lots.mono hids
  · exact h.shortLots.mono hids
  · exact h.disposals.mono hids
  · exact h.covers.mono hids

theorem unapplied (h : Lockstep books) {executionId : String}
    (hnew : executionId ∉ books.executionIds) : Unapplied executionId books.taxLots :=
  ⟨h.lots.not_mem hnew, h.shortLots.not_mem hnew, h.disposals.not_mem hnew,
    h.covers.not_mem hnew⟩

variable {config : Configuration} {strategyId : String}

theorem accounted {fill : Fill} (h : Lockstep books)
    (hfill : Books.Accounted config fill strategyId books books')
    (hnew : Unapplied fill.executionId books.taxLots) : Lockstep books' := by
  obtain ⟨filled, hposition, hportfolios⟩ := hfill.position
  obtain ⟨hquantity, hfilled⟩ := Books.fillPosition_quantity hposition
  have hinstrument := h.inStep fill.instrumentId
  obtain ⟨long, short, hmoves, hsigned, hone⟩ := hfill.taxLots.moves h.long
    h.short hinstrument.oneSided hquantity hnew
  have hids : ∀ id ∈ books.executionIds, id ∈ books'.executionIds := by
    intro id hid
    rw [hfill.executionIds]
    exact mem_insert.mpr (.inr hid)
  have hmem : fill.executionId ∈ books'.executionIds := by
    rw [hfill.executionIds]
    exact mem_insert_self
  refine ⟨fun other => ?_, hmoves.long.isOpen, hmoves.short.isOpen,
    h.lots.of_grown hmoves.long.lotIds hids hmem,
    h.shortLots.of_grown hmoves.short.lotIds hids hmem,
    h.disposals.of_grown hmoves.long.closeIds hids hmem,
    h.covers.of_grown hmoves.short.closeIds hids hmem⟩
  have hheld := Books.heldQuantity_insert hportfolios other
  by_cases hother : fill.instrumentId = other
  · rw [if_pos hother] at hheld
    subst hother
    refine ⟨?_, hone⟩
    have hlong := hmoves.long.quantity
    have hshort := hmoves.short.quantity
    have hprior := hinstrument.quantity
    rw [hheld, hfilled]
    simp only [longQuantity, shortQuantity, TaxLotBook.lots,
      TaxLotBook.shortLots] at hprior ⊢
    omega
  · rw [if_neg hother] at hheld
    have hlong := hmoves.long.frame other hother
    have hshort := hmoves.short.frame other hother
    have hprior := h.inStep other
    refine ⟨?_, ?_⟩
    · rw [hheld, ← hprior.quantity]
      simp only [longQuantity, shortQuantity, TaxLotBook.lots,
        TaxLotBook.shortLots, hlong, hshort]
    · simpa only [longQuantity, shortQuantity, TaxLotBook.lots,
        TaxLotBook.shortLots, hlong, hshort] using hprior.oneSided

theorem accountedAll {fills : List Fill}
    (hfills : Books.AccountedAll config strategyId fills books books')
    (h : Lockstep books) (hdistinct : (fills.map (·.executionId)).Nodup)
    (hnew : ∀ fill ∈ fills, fill.executionId ∉ books.executionIds) : Lockstep books' := by
  induction hfills with
  | nil => exact h
  | @cons fill fills books next books' hfill _ ih =>
    rw [map_cons, nodup_cons] at hdistinct
    refine ih (h.accounted hfill ?_) hdistinct.2 ?_
    · exact h.unapplied (hnew fill mem_cons_self)
    · intro other hother hmem
      rw [hfill.executionIds, mem_insert,
        Std.LawfulEqCmp.compare_eq_iff_eq] at hmem
      rcases hmem with hsame | hmem
      · apply hdistinct.1
        rw [hsame]
        exact mem_map_of_mem hother
      · exact hnew other (mem_cons_of_mem _ hother) hmem

end Lockstep

/-! ## Events and splits -/

theorem nodup_of_validateLegs {units : Decimal} {instruments ids : List String}
    {legs : List BrokerComboExecutionLeg}
    (h : BrokerComboExecution.validateLegs intent units instruments ids legs
      = .ok u) : (legs.map (·.executionId)).Nodup ∧
      ∀ leg ∈ legs, leg.executionId ∉ ids := by
  induction legs generalizing instruments ids with
  | nil => simp
  | cons leg legs ih =>
    simp only [BrokerComboExecution.validateLegs, bind_eq_ok] at h
    obtain ⟨_, -, _, -, h⟩ := h
    split at h
    · contradiction
    · simp only [bind_eq_ok, refuseIf_eq_ok, exists_const, not_or] at h
      obtain ⟨⟨-, hid, -⟩, _, -, _, -, -, hrest⟩ := h
      obtain ⟨hnodup, hnew⟩ := ih hrest
      refine ⟨?_, ?_⟩
      · rw [map_cons, nodup_cons]
        refine ⟨?_, hnodup⟩
        intro hmem
        obtain ⟨other, hother, hsame⟩ := mem_map.mp hmem
        apply hnew other hother
        rw [hsame]
        exact mem_cons_self
      · intro other hother
        rcases mem_cons.mp hother with rfl | hother
        · exact hid
        · exact fun hmem =>
            hnew other hother (mem_cons_of_mem _ hmem)

theorem nodup_fills (h : execution.validate intent = .ok u) :
    (execution.fills.map (·.executionId)).Nodup := by
  simp only [BrokerComboExecution.validate, bind_eq_ok] at h
  obtain ⟨_, -, _, -, _, -, _, -, hlegs⟩ := h
  have hnodup := (nodup_of_validateLegs hlegs).1
  rw [BrokerComboExecution.fills, map_map]
  exact hnodup

theorem fills_unapplied {books : Books} (h : books.overlapsApplied execution = false) :
    ∀ fill ∈ execution.fills, fill.executionId ∉ books.executionIds := by
  simp only [Books.overlapsApplied, Bool.or_eq_false_iff,
    List.any_eq_false] at h
  intro fill hfill
  obtain ⟨leg, hleg, rfl⟩ := mem_map.mp hfill
  intro hmem
  exact h.2 leg hleg (Std.ExtTreeSet.contains_iff_mem.mpr hmem)

namespace Lockstep

variable {books : Books} {s : ServiceRecord} {instrumentId actionId : String}
  {ratio : Decimal} {portfolio : Option Portfolio}

theorem applies {config : Configuration} {books' : Books} {event : BrokerEvent}
    (h : Lockstep books) (happly : Books.Applies config books event books')
    : Lockstep books' := by
  cases happly with
  | order => exact h.same ⟨rfl, rfl, fun _ => id⟩
  | replayed => exact h
  | @executed execution order order' fill strategyId _ _ _ hnew _ hrun hfill =>
    obtain ⟨-, rfl, -⟩ := PaperOrder.applyExecution_eq_ok hrun
    have hnoted : Lockstep ((books.putOrder execution.clientOrderId
        order').noteExecution execution.executionId) :=
      h.same ⟨rfl, rfl, fun id hid =>
        mem_insert.mpr (.inr hid)⟩
    exact hnoted.accounted hfill (h.unapplied hnew)
  | combo => exact h.same ⟨rfl, rfl, fun _ => id⟩
  | comboReplayed => exact h
  | @comboExecuted execution order confirmed order' total booked _ hvalid _
      hoverlap _ _ _ hfills _ =>
      have hbooked : Lockstep booked := by
        refine accountedAll hfills (h.same ⟨rfl, rfl, fun _ => id⟩)
          (nodup_fills hvalid) ?_
        exact fills_unapplied hoverlap
      exact hbooked.same ⟨rfl, rfl,
        fun id hid => mem_insert.mpr (.inr hid)⟩

theorem heldQuantity_checkedMul (hportfolio : ServiceRecord.transpose
      (s.splitPortfolio instrumentId actionId ratio)
        s.portfolios[instrumentId]? = .ok portfolio) (h : books.portfolios
      = ServiceRecord.putWhen s.portfolios instrumentId portfolio) :
    (s.heldQuantity instrumentId).checkedMul ratio
        = .ok (books.heldQuantity instrumentId) ∧
      ∀ other, instrumentId ≠ other →
        books.heldQuantity other = s.heldQuantity other := by
  cases hheld : s.portfolios[instrumentId]? with
  | none =>
    rw [hheld] at hportfolio
    obtain rfl := Except.ok.inj hportfolio
    refine ⟨?_, fun other _ => ?_⟩
    · simp only [Books.heldQuantity, h, ServiceRecord.putWhen, hheld]
      exact Decimal.zero_checkedMul ratio
    · simp only [Books.heldQuantity, h, ServiceRecord.putWhen]
  | some held =>
    rw [hheld] at hportfolio
    simp only [ServiceRecord.transpose, ServiceRecord.splitPortfolio,
      bind_eq_ok, refuseIf_eq_ok, exists_const, pure_eq_ok] at hportfolio
    obtain ⟨_, ⟨scaled, hscaled, _, -, -, rfl⟩, rfl⟩ := hportfolio
    refine ⟨?_, fun other hother => ?_⟩
    · rw [Books.heldQuantity_insert h, if_pos rfl, Books.heldQuantity, hheld]
      exact applySplit_checkedMul hscaled
    · rw [Books.heldQuantity_insert h, if_neg hother]

theorem heldQuantity_split (hportfolio : ServiceRecord.transpose
      (s.splitPortfolio instrumentId actionId ratio)
        s.portfolios[instrumentId]? = .ok portfolio) (h : books.portfolios
      = ServiceRecord.putWhen s.portfolios instrumentId portfolio) :
    (books.heldQuantity instrumentId).scaled
        = ((s.heldQuantity instrumentId).scaled * ratio.scaled).tdiv
          Decimal.scale ∧
      ∀ other, instrumentId ≠ other →
        books.heldQuantity other = s.heldQuantity other := by
  obtain ⟨hheld, hframe⟩ := heldQuantity_checkedMul hportfolio h
  exact ⟨scaled_of_checkedMul hheld, hframe⟩

theorem split {s : ServiceRecord} {instrumentId actionId : String}
    {ratio : Decimal} {books : Books} {marks : OrderedMap String Decimal}
    (h : Lockstep s.toBooks)
    (hsplit : s.splitBooks instrumentId actionId ratio = .ok (books, marks)) :
    Lockstep books := by
  simp only [ServiceRecord.splitBooks, TaxLotBook.applySplit, bind_eq_ok,
    refuseIf_eq_ok, exists_const, pure_eq_ok,
    Prod.mk.injEq, le_def, scaled_zero] at hsplit
  obtain ⟨_, -, portfolio, hportfolio, _, ⟨_, -, hratio, long, hlong, short,
    hshort, rfl⟩, _, -, _, -, hbooks, -⟩ := hsplit
  obtain ⟨hlongSum, hlongFrame, hlongOpen, hlotIds, hdisposalIds⟩ :=
    LotSide.applySplit_ok hlong (by omega) h.long
  obtain ⟨hshortSum, hshortFrame, hshortOpen, hshortIds, hcoverIds⟩ :=
    LotSide.applySplit_ok hshort (by omega) h.short
  have hportfolios : books.portfolios
      = ServiceRecord.putWhen s.portfolios instrumentId portfolio := by
    rw [← hbooks]
  obtain ⟨hheld, hheldFrame⟩ := heldQuantity_split hportfolio hportfolios
  have hlots : books.taxLots = { s.taxLots with long, short } := by
    rw [← hbooks]
  have hids : books.executionIds = s.executionIds := by
    rw [← hbooks]
  refine ⟨fun other => ?_, ?_, ?_, ?_, ?_, ?_, ?_⟩
  · have hprior := h.inStep other
    by_cases hother : instrumentId = other
    · subst hother
      have hlong' : longQuantity books.taxLots instrumentId
          = (longQuantity s.taxLots instrumentId * ratio.scaled).tdiv
            Decimal.scale := by
        rw [hlots]
        exact hlongSum
      have hshort' : shortQuantity books.taxLots instrumentId
          = (shortQuantity s.taxLots instrumentId * ratio.scaled).tdiv
            Decimal.scale := by
        rw [hlots]
        exact hshortSum
      refine ⟨?_, ?_⟩
      · rw [hheld, hlong', hshort', ← hprior.quantity]
        rcases hprior.oneSided with hone | hone <;> rw [hone]
        · simp [Int.neg_tdiv]
        · simp
      · rw [hlong', hshort']
        refine hprior.oneSided.imp ?_ ?_ <;> intro hone <;> rw [hone] <;> simp
    · have hlong' : longQuantity books.taxLots other
          = longQuantity s.taxLots other := by
        rw [hlots]
        exact congrArg lotQuantity (hlongFrame other hother)
      have hshort' : shortQuantity books.taxLots other
          = shortQuantity s.taxLots other := by
        rw [hlots]
        exact congrArg lotQuantity (hshortFrame other hother)
      refine ⟨?_, ?_⟩
      · rw [hlong', hshort', hheldFrame other hother]
        exact hprior.quantity
      · rw [hlong', hshort']
        exact hprior.oneSided
  · rw [hlots]
    exact hlongOpen
  · rw [hlots]
    exact hshortOpen
  · rw [hlots, hids, hlotIds]
    exact h.lots
  · rw [hlots, hids, hshortIds]
    exact h.shortLots
  · rw [hlots, hids, hdisposalIds]
    exact h.disposals
  · rw [hlots, hids, hcoverIds]
    exact h.covers

end Lockstep

/-! ## Reachable states -/

theorem lockstep_start (config : Configuration) (killSwitches : KillSwitchRegistry) :
    Lockstep (startRecord config killSwitches).toBooks := by
  have hnil : ∀ instrumentId, LotSide.empty.lotsOf instrumentId = [] := by
    intro instrumentId
    simp [LotSide.lotsOf, LotSide.empty]
  have hopen : LotSide.empty.Open := by
    intro instrumentId
    rw [hnil]
    exact List.forall_mem_nil _
  have hnone : ∀ stem executionIds, Derived stem ∅ executionIds := by
    intro stem executionIds id hid
    exact absurd hid Std.ExtTreeSet.not_mem_empty
  refine ⟨fun instrumentId => ⟨?_, .inl ?_⟩, hopen, hopen, hnone _ _,
    hnone _ _, hnone _ _, hnone _ _⟩
  · have hheld : (startRecord config killSwitches).heldQuantity instrumentId
        = Decimal.zero := by
      simp [Books.heldQuantity, startRecord, PaperTradingService.emptyBooks]
    rw [hheld]
    simp [longQuantity, shortQuantity, TaxLotBook.lots, TaxLotBook.shortLots,
      startRecord, PaperTradingService.emptyBooks, TaxLotBook.empty, hnil]
  · simp [longQuantity, TaxLotBook.lots, startRecord,
      PaperTradingService.emptyBooks, TaxLotBook.empty, hnil]

theorem lockstep_step {t : ServiceRecord} (h : RecordStep may s t)
    (hs : Lockstep s.toBooks) : Lockstep t.toBooks := by
  have hsame : ∀ {books : Books}, SameHoldings s.toBooks books →
      Lockstep books := fun hsame => hs.same hsame
  cases h with
  | edited h =>
    cases h with
    | applied happly => exact hs.applies (Books.applyBrokerEvent_eq_ok happly)
    | @acted request after receipt admitted heffect =>
      unfold ServiceRecord.takeEffect at heffect
      split at heffect
      · simp only [bind_eq_ok, Prod.exists, pure_eq_ok, Prod.mk.injEq] at heffect
        obtain ⟨books, marks, hsplit, rfl, -⟩ := heffect
        exact hs.split hsplit
      · simp only [bind_eq_ok, pure_eq_ok,
          Prod.mk.injEq] at heffect
        obtain ⟨_, -, cash, -, rfl, -⟩ := heffect
        exact hsame ⟨rfl, rfl, fun _ => id⟩
    | operated => exact hs
    | _ => exact hsame ⟨rfl, rfl, fun _ => id⟩
  | observed h =>
    cases h with
    | _ => exact hsame ⟨rfl, rfl, fun _ => id⟩
  | replacing h =>
    cases h with
    | begun => exact hsame ⟨rfl, rfl, fun _ => id⟩

theorem reachableRecord_lockstep (hs : ReachableRecord may s) : Lockstep s.toBooks := by
  refine hs.invariant (P := fun s => Lockstep s.toBooks) ?_ ?_
  · rintro _ ⟨-, -, -⟩
    exact lockstep_start _ _
  · exact fun s t _ hs hst => lockstep_step hst hs

namespace PaperTradingService

variable {B : Type} [PaperBrokerAdapter B] [ContentHash]

/-- In every reachable state the open lots of an instrument add up to its
position, and they are open on one side only. -/
theorem lots_match_position {s : PaperTradingService B}
    (hs : Reachable Started Step s) (instrumentId : String) :
    lotQuantity (s.taxLots.lots instrumentId)
        - lotQuantity (s.taxLots.shortLots instrumentId)
      = (s.heldQuantity instrumentId).scaled ∧
      (s.taxLots.lots instrumentId = [] ∨
        s.taxLots.shortLots instrumentId = []) := by
  have hlockstep := reachableRecord_lockstep (reachable_record hs)
  have hinstrument := hlockstep.inStep instrumentId
  refine ⟨hinstrument.quantity, hinstrument.oneSided.imp ?_ ?_⟩
  · exact (hlockstep.long instrumentId).eq_nil
  · exact (hlockstep.short instrumentId).eq_nil

end PaperTradingService

namespace Session

attribute [local instance] contentHash

/-- A partly filled order of a session. -/
theorem lots_match_partial_fill :
    let s := [submission, partialFill, .operate .synchronize].foldl play start
    lotQuantity (s.taxLots.lots "aapl")
        - lotQuantity (s.taxLots.shortLots "aapl")
      = (s.heldQuantity "aapl").scaled ∧
      (s.taxLots.lots "aapl" = [] ∨ s.taxLots.shortLots "aapl" = []) :=
  PaperTradingService.lots_match_position (reachable_plays _) "aapl"

end Session

end Follon.Paper
