import Follon.Accounting.Inventory

/-!
# Lots that follow positions

A book of lots kept beside a book of signed positions: the open lots of every
instrument add up to its position and are open on one side only.  The lots and
closings of one execution carry identities derived from it, so a book whose
identities all derive from known executions takes a new one as new.
-/

namespace Follon.Accounting

open Foundation Domain

namespace TaxLotBook

structure Moves (shortStem instrumentId executionId : String)
    (long short : Int) (book book' : TaxLotBook) : Prop where
  long : book.long.Moves instrumentId ("taxlot-" ++ executionId)
    ("taxdisposal-" ++ executionId) long book'.long
  short : book.short.Moves instrumentId (shortStem ++ executionId)
    ("taxcover-" ++ executionId) short book'.short

/-- No lot and no closing of the book carries an identity derived from this
execution. -/
structure Unapplied (shortStem executionId : String) (book : TaxLotBook) :
    Prop where
  lot : "taxlot-" ++ executionId ∉ book.long.appliedLotIds
  shortLot : shortStem ++ executionId ∉ book.short.appliedLotIds
  disposal : "taxdisposal-" ++ executionId ∉ book.long.appliedCloseIds
  cover : "taxcover-" ++ executionId ∉ book.short.appliedCloseIds

structure Follows (shortStem : String) (held : String → Int)
    (executionIds : OrderedSet String) (book : TaxLotBook) : Prop where
  quantity : ∀ instrumentId,
    longQuantity book instrumentId - shortQuantity book instrumentId = held instrumentId
  oneSided : ∀ instrumentId,
    longQuantity book instrumentId = 0 ∨ shortQuantity book instrumentId = 0
  long : book.long.Open
  short : book.short.Open
  lots : Derived "taxlot-" book.long.appliedLotIds executionIds
  shortLots : Derived shortStem book.short.appliedLotIds executionIds
  disposals : Derived "taxdisposal-" book.long.appliedCloseIds executionIds
  covers : Derived "taxcover-" book.short.appliedCloseIds executionIds

/-! ## Legs of a fill -/

section

variable {shortStem instrumentId executionId : String} {book book' : TaxLotBook}

theorem moves_refl (hlong : book.long.Open) (hshort : book.short.Open)
    (shortStem instrumentId executionId : String) :
    Moves shortStem instrumentId executionId 0 0 book book :=
  ⟨LotSide.moves_refl hlong _ _ _, LotSide.moves_refl hshort _ _ _⟩

theorem Moves.trans {long short long' short' : Int} {book'' : TaxLotBook}
    (h : Moves shortStem instrumentId executionId long short book book')
    (h' : Moves shortStem instrumentId executionId long' short' book' book'') :
    Moves shortStem instrumentId executionId (long + long') (short + short')
      book book'' :=
  ⟨h.long.trans h'.long, h.short.trans h'.short⟩

variable {fresh : Bool}

theorem moves_acquire {lot : TaxLot}
    (h : (acquire lot).run book = (.ok fresh, book')) (hlong : book.long.Open)
    (hshort : book.short.Open) (hinstrument : lot.instrumentId = instrumentId)
    (hid : lot.lotId = "taxlot-" ++ executionId)
    (hnew : "taxlot-" ++ executionId ∉ book.long.appliedLotIds) :
    Moves shortStem instrumentId executionId lot.remainingQuantity.scaled 0
      book book' := by
  rw [← hid] at hnew
  obtain ⟨hquantity, rfl⟩ := acquire_ok h hnew
  subst hinstrument
  constructor
  · rw [← hid]
    exact LotSide.moves_push hlong hquantity _
  · exact LotSide.moves_refl hshort _ _ _

theorem moves_openShort {lot : ShortTaxLot}
    (h : (openShort lot).run book = (.ok fresh, book'))
    (hlong : book.long.Open) (hshort : book.short.Open)
    (hinstrument : lot.instrumentId = instrumentId)
    (hid : lot.lotId = shortStem ++ executionId)
    (hnew : shortStem ++ executionId ∉ book.short.appliedLotIds) :
    Moves shortStem instrumentId executionId 0 lot.remainingQuantity.scaled
      book book' := by
  rw [← hid] at hnew
  obtain ⟨hquantity, rfl⟩ := openShort_ok h hnew
  subst hinstrument
  constructor
  · exact LotSide.moves_refl hlong _ _ _
  · rw [← hid]
    exact LotSide.moves_push hshort hquantity _

variable {currency : Currency} {quantity unitPrice fee : Decimal}
  {occurredAt : String} {selection : TaxLotSelection}
  {closed : Option LotClose}

theorem moves_dispose (shortStem : String)
    (h : (dispose ("taxdisposal-" ++ executionId) instrumentId currency quantity
      unitPrice fee occurredAt selection).run book = (.ok closed, book'))
    (hlong : book.long.Open) (hshort : book.short.Open)
    (hnew : "taxdisposal-" ++ executionId ∉ book.long.appliedCloseIds) :
    Moves shortStem instrumentId executionId (-quantity.scaled) 0 book book' := by
  obtain ⟨taking, realized, hclose, rfl⟩ := dispose_ok h hnew
  obtain ⟨-, hquantity, hnonneg⟩ :=
    LotSide.close_eq_some hclose (hlong instrumentId)
  constructor
  · exact LotSide.moves_store hlong hquantity hnonneg _
  · exact LotSide.moves_refl hshort _ _ _

theorem moves_cover (shortStem : String)
    (h : (cover ("taxcover-" ++ executionId) instrumentId currency quantity
      unitPrice fee occurredAt selection).run book = (.ok closed, book'))
    (hlong : book.long.Open) (hshort : book.short.Open)
    (hnew : "taxcover-" ++ executionId ∉ book.short.appliedCloseIds) :
    Moves shortStem instrumentId executionId 0 (-quantity.scaled) book book' := by
  obtain ⟨taking, realized, hclose, rfl⟩ := cover_ok h hnew
  obtain ⟨-, hquantity, hnonneg⟩ :=
    LotSide.close_eq_some hclose (hshort instrumentId)
  constructor
  · exact LotSide.moves_refl hlong _ _ _
  · exact LotSide.moves_store hshort hquantity hnonneg _

end

/-! ## Legs that fail -/

def disposalProfit (book : TaxLotBook) (disposalId instrumentId : String)
    (currency : Currency) (quantity unitProceeds fee : Decimal)
    (occurredAt : String) (selection : TaxLotSelection) : Result Decimal := do
  let taken ← book.long.close disposalTexts disposalId instrumentId currency
    quantity unitProceeds fee occurredAt selection
  match taken with
  | none => pure Decimal.zero
  | some taking => do
    let grossProceeds ← quantity.checkedMul unitProceeds
    let gain ← grossProceeds.checkedSub taking.amount
    gain.checkedSub fee

def coverProfit (book : TaxLotBook) (coverId instrumentId : String)
    (currency : Currency) (quantity unitCost fee : Decimal)
    (occurredAt : String) (selection : TaxLotSelection) : Result Decimal := do
  let taken ← book.short.close coverTexts coverId instrumentId currency
    quantity unitCost fee occurredAt selection
  match taken with
  | none => pure Decimal.zero
  | some taking => do
    let costBasis ← quantity.checkedMul unitCost
    let gain ← taking.amount.checkedSub costBasis
    gain.checkedSub fee

def RealizedFits (book : TaxLotBook) (currency : Currency) (profit : Decimal) : Prop :=
  ∃ total, (book.realized currency).checkedAdd profit = .ok total

instance (book : TaxLotBook) (currency : Currency) (profit : Decimal) :
    Decidable (book.RealizedFits currency profit) :=
  inferInstanceAs (Decidable (∃ _, _ = _))

section

variable {book book' : TaxLotBook} {e : PaperError}

theorem acquire_error {lot : TaxLot}
    (h : (acquire lot).run book = (.error e, book')) : book' = book := by
  simp only [acquire, run_read_bind,
    run_lift_bind_eq_error] at h
  rcases h with h | ⟨_, -, h | ⟨_, -, h | ⟨_, -, h | ⟨_, -, h⟩⟩⟩⟩
  · exact h.2
  · exact h.2
  · exact h.2
  · exact h.2
  · split at h
    · simp at h
    · simp at h

theorem openShort_error {lot : ShortTaxLot}
    (h : (openShort lot).run book = (.error e, book')) : book' = book := by
  simp only [openShort, run_read_bind,
    run_lift_bind_eq_error] at h
  rcases h with h | ⟨_, -, h | ⟨_, -, h | ⟨_, -, h | ⟨_, -, h⟩⟩⟩⟩
  · exact h.2
  · exact h.2
  · exact h.2
  · exact h.2
  · split at h
    · simp at h
    · simp at h

variable {closeId instrumentId occurredAt : String} {currency : Currency}
  {quantity unitPrice fee : Decimal} {selection : TaxLotSelection}

theorem realize_fits {profit : Decimal} (h : RealizedFits book currency profit) :
    (realize currency profit).run book ≠ (.error e, book') := by
  obtain ⟨total, htotal⟩ := h
  simp [realize, htotal]

theorem dispose_error (h : (dispose closeId instrumentId currency quantity unitPrice fee
      occurredAt selection).run book = (.error e, book'))
    (hfits : ∀ profit, book.disposalProfit closeId instrumentId currency
      quantity unitPrice fee occurredAt selection = .ok profit →
        RealizedFits book currency profit) : book' = book := by
  simp only [dispose, run_read_bind,
    run_lift_bind_eq_error] at h
  rcases h with h | ⟨taken, htaken, h⟩
  · exact h.2
  cases taken with
  | none => simp at h
  | some taking =>
    simp only [run_lift_bind_eq_error,
      run_update_bind] at h
    rcases h with h | ⟨gross, hgross, h | ⟨gain, hgain, h |
      ⟨profit, hprofit, h⟩⟩⟩
    · exact h.2
    · exact h.2
    · exact h.2
    · rcases run_bind_eq_error.mp h with h | ⟨_, _, -, h⟩
      · refine absurd h (realize_fits (hfits profit ?_))
        simp only [disposalProfit, htaken, bind_eq_ok, Except.ok.injEq, exists_eq_left']
        exact ⟨gross, hgross, gain, hgain, hprofit⟩
      · simp at h

theorem cover_error (h : (cover closeId instrumentId currency quantity unitPrice fee
      occurredAt selection).run book = (.error e, book'))
    (hfits : ∀ profit, book.coverProfit closeId instrumentId currency
      quantity unitPrice fee occurredAt selection = .ok profit →
        RealizedFits book currency profit) : book' = book := by
  simp only [cover, run_read_bind,
    run_lift_bind_eq_error] at h
  rcases h with h | ⟨taken, htaken, h⟩
  · exact h.2
  cases taken with
  | none => simp at h
  | some taking =>
    simp only [run_lift_bind_eq_error,
      run_update_bind] at h
    rcases h with h | ⟨cost, hcost, h | ⟨gain, hgain, h |
      ⟨profit, hprofit, h⟩⟩⟩
    · exact h.2
    · exact h.2
    · exact h.2
    · rcases run_bind_eq_error.mp h with h | ⟨_, _, -, h⟩
      · refine absurd h (realize_fits (hfits profit ?_))
        simp only [coverProfit, htaken, bind_eq_ok, Except.ok.injEq, exists_eq_left']
        exact ⟨cost, hcost, gain, hgain, hprofit⟩
      · simp at h

variable {closed : Option LotClose}

theorem dispose_profit (h : (dispose closeId instrumentId currency quantity unitPrice fee
      occurredAt selection).run book = (.ok closed, book')) :
    ∃ profit, book.disposalProfit closeId instrumentId currency quantity
      unitPrice fee occurredAt selection = .ok profit := by
  simp only [dispose, run_read_bind,
    run_lift_bind_eq_ok] at h
  obtain ⟨taken, htaken, h⟩ := h
  simp only [disposalProfit, htaken, bind_eq_ok, Except.ok.injEq, exists_eq_left']
  cases taken with
  | none => exact ⟨_, rfl⟩
  | some taking =>
    simp only [run_lift_bind_eq_ok] at h
    obtain ⟨gross, hgross, gain, hgain, profit, hprofit, -⟩ := h
    exact ⟨profit, bind_eq_ok.mpr ⟨gross, hgross, bind_eq_ok.mpr ⟨gain, hgain, hprofit⟩⟩⟩

theorem cover_profit (h : (cover closeId instrumentId currency quantity unitPrice fee
      occurredAt selection).run book = (.ok closed, book')) :
    ∃ profit, book.coverProfit closeId instrumentId currency quantity
      unitPrice fee occurredAt selection = .ok profit := by
  simp only [cover, run_read_bind,
    run_lift_bind_eq_ok] at h
  obtain ⟨taken, htaken, h⟩ := h
  simp only [coverProfit, htaken, bind_eq_ok, Except.ok.injEq, exists_eq_left']
  cases taken with
  | none => exact ⟨_, rfl⟩
  | some taking =>
    simp only [run_lift_bind_eq_ok] at h
    obtain ⟨cost, hcost, gain, hgain, profit, hprofit, -⟩ := h
    exact ⟨profit, bind_eq_ok.mpr ⟨cost, hcost, bind_eq_ok.mpr ⟨gain, hgain, hprofit⟩⟩⟩

end

/-! ## Steps -/

namespace Follows

variable {shortStem : String} {held held' : String → Int}
  {executionIds executionIds' : OrderedSet String} {book book' : TaxLotBook}

theorem empty (shortStem : String) (executionIds : OrderedSet String) :
    Follows shortStem (fun _ => 0) executionIds TaxLotBook.empty := by
  have hnil : ∀ instrumentId, LotSide.empty.lotsOf instrumentId = [] := by
    intro instrumentId
    simp [LotSide.lotsOf, LotSide.empty]
  have hopen : LotSide.empty.Open := by
    intro instrumentId
    rw [hnil]
    exact List.forall_mem_nil _
  have hnone : ∀ stem, Derived stem ∅ executionIds := by
    intro stem id hid
    exact absurd hid Std.ExtTreeSet.not_mem_empty
  constructor
  · intro instrumentId
    simp [longQuantity, shortQuantity, TaxLotBook.lots, TaxLotBook.shortLots,
      TaxLotBook.empty, hnil]
  · intro instrumentId
    left
    simp [longQuantity, TaxLotBook.lots, TaxLotBook.empty, hnil]
  · exact hopen
  · exact hopen
  · exact hnone _
  · exact hnone _
  · exact hnone _
  · exact hnone _

theorem weaken (h : Follows shortStem held executionIds book)
    (hheld : ∀ instrumentId, held' instrumentId = held instrumentId)
    (hids : ∀ id ∈ executionIds, id ∈ executionIds') :
    Follows shortStem held' executionIds' book := by
  refine ⟨?_, h.oneSided, h.long, h.short, h.lots.mono hids,
    h.shortLots.mono hids, h.disposals.mono hids, h.covers.mono hids⟩
  intro instrumentId
  rw [hheld]
  exact h.quantity instrumentId

theorem unapplied (h : Follows shortStem held executionIds book)
    {executionId : String} (hnew : executionId ∉ executionIds) :
    Unapplied shortStem executionId book :=
  ⟨h.lots.not_mem hnew, h.shortLots.not_mem hnew, h.disposals.not_mem hnew,
    h.covers.not_mem hnew⟩

theorem moved {instrumentId executionId : String} {long short : Int}
    (h : Follows shortStem held executionIds book)
    (hmoves : Moves shortStem instrumentId executionId long short book book')
    (hheld : held' instrumentId = held instrumentId + (long - short))
    (hframe : ∀ other, instrumentId ≠ other → held' other = held other)
    (hone : longQuantity book instrumentId + long = 0 ∨
      shortQuantity book instrumentId + short = 0)
    (hids : ∀ id ∈ executionIds, id ∈ executionIds')
    (hmem : executionId ∈ executionIds') :
    Follows shortStem held' executionIds' book' := by
  have hlong : longQuantity book' instrumentId
      = longQuantity book instrumentId + long := hmoves.long.quantity
  have hshort : shortQuantity book' instrumentId
      = shortQuantity book instrumentId + short := hmoves.short.quantity
  have hlongFrame : ∀ other, instrumentId ≠ other →
      longQuantity book' other = longQuantity book other :=
    fun other hother => congrArg lotQuantity (hmoves.long.frame other hother)
  have hshortFrame : ∀ other, instrumentId ≠ other →
      shortQuantity book' other = shortQuantity book other :=
    fun other hother => congrArg lotQuantity (hmoves.short.frame other hother)
  refine ⟨?_, ?_, hmoves.long.isOpen, hmoves.short.isOpen,
    h.lots.of_grown hmoves.long.lotIds hids hmem,
    h.shortLots.of_grown hmoves.short.lotIds hids hmem,
    h.disposals.of_grown hmoves.long.closeIds hids hmem,
    h.covers.of_grown hmoves.short.closeIds hids hmem⟩
  · intro other
    have hprior := h.quantity other
    by_cases hother : instrumentId = other
    · subst hother
      omega
    · rw [hlongFrame other hother, hshortFrame other hother, hframe other hother]
      exact hprior
  · intro other
    by_cases hother : instrumentId = other
    · subst hother
      rw [hlong, hshort]
      exact hone
    · rw [hlongFrame other hother, hshortFrame other hother]
      exact h.oneSided other

theorem split {instrumentId : String} {ratio : Decimal}
    (h : Follows shortStem held executionIds book)
    (hsplit : book.applySplit instrumentId ratio = .ok book')
    (hheld : held' instrumentId = (held instrumentId * ratio.scaled).tdiv Decimal.scale)
    (hframe : ∀ other, instrumentId ≠ other → held' other = held other) :
    Follows shortStem held' executionIds book' := by
  simp only [applySplit, bind_eq_ok, refuseIf_eq_ok, exists_const, pure_eq_ok, le_def, scaled_zero] at hsplit
  obtain ⟨_, -, hratio, long, hlong, short, hshort, hbook⟩ := hsplit
  obtain ⟨hlongSum, hlongFrame, hlongOpen, hlotIds, hdisposalIds⟩ :=
    LotSide.applySplit_ok hlong (by omega) h.long
  obtain ⟨hshortSum, hshortFrame, hshortOpen, hshortIds, hcoverIds⟩ :=
    LotSide.applySplit_ok hshort (by omega) h.short
  have hlongQuantity : ∀ other, longQuantity book' other
      = if instrumentId = other then
          (longQuantity book other * ratio.scaled).tdiv Decimal.scale
        else longQuantity book other := by
    intro other
    rw [← hbook]
    split
    · next hother => exact hother ▸ hlongSum
    · next hother => exact congrArg lotQuantity (hlongFrame other hother)
  have hshortQuantity : ∀ other, shortQuantity book' other
      = if instrumentId = other then
          (shortQuantity book other * ratio.scaled).tdiv Decimal.scale
        else shortQuantity book other := by
    intro other
    rw [← hbook]
    split
    · next hother => exact hother ▸ hshortSum
    · next hother => exact congrArg lotQuantity (hshortFrame other hother)
  constructor
  · intro other
    have hprior := h.quantity other
    rw [hlongQuantity, hshortQuantity]
    by_cases hother : instrumentId = other
    · subst hother
      rw [if_pos rfl, if_pos rfl, hheld, ← hprior]
      rcases h.oneSided instrumentId with hone | hone
      · simp [hone, Int.neg_tdiv]
      · simp [hone]
    · rw [if_neg hother, if_neg hother, hframe other hother]
      exact hprior
  · intro other
    rw [hlongQuantity, hshortQuantity]
    by_cases hother : instrumentId = other
    · rw [if_pos hother, if_pos hother]
      refine (h.oneSided other).imp ?_ ?_ <;> intro hone <;> simp [hone]
    · rw [if_neg hother, if_neg hother]
      exact h.oneSided other
  · rw [← hbook]
    exact hlongOpen
  · rw [← hbook]
    exact hshortOpen
  · rw [← hbook, hlotIds]
    exact h.lots
  · rw [← hbook, hshortIds]
    exact h.shortLots
  · rw [← hbook, hdisposalIds]
    exact h.disposals
  · rw [← hbook, hcoverIds]
    exact h.covers

theorem lots_eq_nil (h : Follows shortStem held executionIds book)
    (instrumentId : String) :
    book.lots instrumentId = [] ∨ book.shortLots instrumentId = [] :=
  (h.oneSided instrumentId).imp (h.long instrumentId).eq_nil
    (h.short instrumentId).eq_nil

end Follows

end TaxLotBook

end Follon.Accounting
