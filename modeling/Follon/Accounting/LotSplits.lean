import Follon.Accounting.LotRecovery

/-!
# Totals of split lots

A split scales every lot and rounds it down, and the newest lot takes what is
lost, so the lots of an instrument together are scaled as one quantity.
-/

namespace Follon.Accounting

open Foundation Domain

/-- One half after a split: its lots of the instrument hold what their whole
quantity is scaled to, and the others are as they were. -/
structure LotSide.SplitBy (instrumentId : String) (ratio : Decimal)
    (side side' : LotSide) : Prop where
  total : ∃ held target : Decimal,
    held.scaled = lotQuantity (side.lotsOf instrumentId) ∧
      held.checkedMul ratio = .ok target ∧
      lotQuantity (side'.lotsOf instrumentId) = target.scaled
  positive : Positive (side'.lotsOf instrumentId)
  sorted : (side'.lotsOf instrumentId).Pairwise lotLe
  frame : ∀ other : String, instrumentId ≠ other →
    side'.lotsOf other = side.lotsOf other

theorem LotSide.Sound.splitBy {positivePrice : Bool} {side side' : LotSide}
    {instrumentId : String} {ratio : Decimal}
    (h : side.Sound positivePrice) (hratio : 0 < ratio.scaled)
    (hsplit : side.applySplit instrumentId ratio = .ok side') :
    side.SplitBy instrumentId ratio side' := by
  obtain ⟨held, target, hheld, htarget⟩ :=
    applySplit_fits hsplit hratio h.isOpen
  obtain ⟨htotal, hframe, hopen, _⟩ := applySplit_ok hsplit hratio h.isOpen
  refine ⟨⟨held, target, hheld, htarget, ?_⟩, hopen instrumentId,
    (h.applySplit hsplit).lotsOf_sorted instrumentId, hframe⟩
  rw [htotal, scaled_of_checkedMul htarget, hheld]

/-- After every split of a book that calls have led to, the lots of the
instrument on each side total what their whole quantity is scaled to. -/
theorem split_totals_never_drift {book book' : TaxLotBook}
    (h : Reachable (· = TaxLotBook.empty) LotCall.Step book)
    {instrumentId : String} {ratio : Decimal}
    (hsplit : book.applySplit instrumentId ratio = .ok book') :
    book.long.SplitBy instrumentId ratio book'.long ∧
      book.short.SplitBy instrumentId ratio book'.short := by
  have hsound := LotCall.sound_of_run h
  obtain ⟨hratio, hlong, hshort⟩ := TaxLotBook.applySplit_eq_ok hsplit
  exact ⟨hsound.long.splitBy hratio hlong, hsound.short.splitBy hratio hshort⟩

namespace LotSplitRun

open LotCallRun

def third : Decimal := ⟨33333333, by decide, by decide⟩

def later : TaxLot :=
  { lot with
    lotId := "lot-2", openedAt := "2026-01-03T14:31:00Z"
    remainingQuantity := .two }

def twoLots : TaxLotBook :=
  ((LotCall.acquire later).perform ((LotCall.acquire lot).perform TaxLotBook.empty).2).2

theorem twoLots_run : Reachable (· = TaxLotBook.empty) LotCall.Step twoLots :=
  .step (.step (.init rfl) ⟨.acquire lot, rfl⟩) ⟨.acquire later, rfl⟩

def split : TaxLotBook := ((LotCall.applySplit "aapl" third).perform twoLots).2

theorem applySplit_twoLots : twoLots.applySplit "aapl" third = .ok split := by
  have hok : (twoLots.applySplit "aapl" third).toOption.isSome = true := by
    decide
  cases hsplit : twoLots.applySplit "aapl" third with
  | ok book =>
    have hbook : split = book := by
      simp only [split, LotCall.perform, hsplit]
    rw [hbook]
  | error e =>
    rw [hsplit] at hok
    contradiction

theorem twoLots_total : twoLots.long.SplitBy "aapl" third split.long ∧
      twoLots.short.SplitBy "aapl" third split.short :=
  split_totals_never_drift twoLots_run applySplit_twoLots

end LotSplitRun

end Follon.Accounting

/-!
## Which splits a book accepts

A short lot may be opened at net proceeds of any sign, and a split refuses
every lot whose unit price it does not leave positive.
-/

namespace Follon.Accounting

open Foundation Domain

/-! ## Values that fit -/

/-- The scaled quantity and unit price of a lot fit, and neither is rounded
to nothing. -/
structure TaxLot.SplitFits (ratio : Decimal) (lot : TaxLot) : Prop where
  quantity : ∃ scaled, lot.remainingQuantity.checkedMul ratio = .ok scaled ∧
    (lot.remainingQuantity.scaled ≠ 0 → scaled.scaled ≠ 0)
  price : ∃ scaled, lot.unitPrice.checkedDiv ratio = .ok scaled ∧
    (lot.unitPrice.scaled ≠ 0 → scaled.scaled ≠ 0)

structure LotsSplitFit (ratio : Decimal) (lots : List TaxLot) : Prop where
  each : ∀ lot ∈ lots, lot.SplitFits ratio
  whole : ∃ held target : Decimal, held.scaled = lotQuantity lots ∧
    held.checkedMul ratio = .ok target

/-! ## Prices a split keeps positive -/

variable {a b d ratio held target : Decimal} {lots : List TaxLot}
  {acc : LotSplit}

theorem scaled_pos_of_checkedDiv (h : a.checkedDiv b = .ok d)
    (hb : 0 < b.scaled) (hd : 0 < d.scaled) : 0 < a.scaled := by
  obtain ⟨-, hscaled⟩ := scaled_of_checkedDiv h
  by_contra hnonpos
  have hproduct : a.scaled * Decimal.scale ≤ 0 :=
    Int.mul_nonpos_of_nonpos_of_nonneg (Int.not_lt.mp hnonpos) (by decide)
  have hneg : 0 ≤ (-(a.scaled * Decimal.scale)).tdiv b.scaled :=
    Int.tdiv_nonneg (by omega) hb.le
  rw [Int.neg_tdiv] at hneg
  omega

theorem nonneg_of_checkedDiv (h : a.checkedDiv b = .ok d) (ha : 0 ≤ a.scaled)
    (hb : 0 < b.scaled) : 0 ≤ d.scaled := by
  rw [(scaled_of_checkedDiv h).2]
  exact Int.tdiv_nonneg (Int.mul_nonneg ha (by decide)) hb.le

theorem splitLot_prices (hratio : 0 < ratio.scaled) {acc' : LotSplit}
    (h : lots.foldlM (splitLot ratio) acc = .ok acc') :
    ∀ lot ∈ lots, 0 < lot.unitPrice.scaled := by
  induction lots generalizing acc with
  | nil => exact fun _ hlot => absurd hlot not_mem_nil
  | cons lot lots ih =>
    simp only [foldlM_cons, bind_eq_ok] at h
    obtain ⟨next, hnext, hrest⟩ := h
    refine forall_mem_cons.mpr ⟨?_, ih hrest⟩
    simp only [splitLot, bind_eq_ok, refuseIf_eq_ok, exists_const,
      le_def, scaled_zero, not_le] at hnext
    obtain ⟨_, -, _, -, unitPrice, hprice, hpositive, -⟩ := hnext
    exact scaled_pos_of_checkedDiv hprice hratio hpositive

/-! ## Lots that are split -/

theorem mul_scale_le_of_checkedMul (h : a.checkedMul b = .ok d)
    (ha : 0 ≤ a.scaled) (hb : 0 ≤ b.scaled) :
    d.scaled * Decimal.scale ≤ a.scaled * b.scaled := by
  rw [scaled_of_checkedMul h, Int.tdiv_eq_ediv_of_nonneg (Int.mul_nonneg ha hb)]
  exact Int.ediv_mul_le _ (by decide)

/-- What the loop has added up never exceeds what the whole is scaled to. -/
structure LotSplit.Below (ratio : Decimal) (acc : LotSplit) : Prop where
  held : 0 ≤ acc.held.scaled
  total : 0 ≤ acc.total.scaled
  below : acc.total.scaled * Decimal.scale ≤ acc.held.scaled * ratio.scaled
  split : lotQuantity acc.split = acc.total.scaled
  quantities : ∀ lot ∈ acc.split, 0 ≤ lot.remainingQuantity.scaled

theorem LotSplit.below_empty (ratio : Decimal) :
    LotSplit.Below ratio ⟨Decimal.zero, Decimal.zero, []⟩ where
  held := le_refl _
  total := le_refl _
  below := by simp
  split := rfl
  quantities := fun _ hlot => absurd hlot not_mem_nil

theorem splitLot_below (hratio : 0 < ratio.scaled) {lot : TaxLot}
    (hquantity : 0 < lot.remainingQuantity.scaled) {acc' : LotSplit}
    (h : splitLot ratio acc lot = .ok acc') (hacc : acc.Below ratio)
    : acc'.Below ratio := by
  obtain ⟨quantity, unitPrice, hproduct, hheld, htotal, -, hsplit⟩ :=
    splitLot_ok h
  have hnonneg := scaled_nonneg_of_checkedMul hproduct hquantity.le hratio.le
  have hbelow := mul_scale_le_of_checkedMul hproduct hquantity.le hratio.le
  refine ⟨?_, ?_, ?_, ?_, ?_⟩
  · have := hacc.held
    omega
  · have := hacc.total
    omega
  · rw [hheld, htotal, Int.add_mul, Int.add_mul]
    exact Int.add_le_add hacc.below hbelow
  · rw [hsplit, lotQuantity_append, hacc.split, htotal]
    simp
  · intro other hother
    rw [hsplit, mem_append, mem_singleton] at hother
    rcases hother with hother | rfl
    · exact hacc.quantities other hother
    · exact hnonneg

theorem total_le_target (hratio : 0 < ratio.scaled) (hacc : acc.Below ratio)
    (hheld : acc.held.scaled ≤ held.scaled)
    (htarget : held.checkedMul ratio = .ok target) :
    acc.total.scaled ≤ target.scaled := by
  rw [scaled_of_checkedMul htarget, Int.tdiv_eq_ediv_of_nonneg
    (Int.mul_nonneg (hacc.held.trans hheld) hratio.le)]
  apply (Int.le_ediv_iff_mul_le (by decide)).mpr
  exact hacc.below.trans (Int.mul_le_mul_of_nonneg_right hheld hratio.le)

theorem exists_splitLot (hratio : 0 < ratio.scaled) {lot : TaxLot}
    (hfits : lot.SplitFits ratio) (hquantity : 0 < lot.remainingQuantity.scaled)
    (hprice : 0 < lot.unitPrice.scaled) (hacc : acc.Below ratio)
    (hheld : acc.held.scaled + lot.remainingQuantity.scaled ≤ held.scaled)
    (htarget : held.checkedMul ratio = .ok target) :
    ∃ acc', splitLot ratio acc lot = .ok acc' := by
  obtain ⟨quantity, hproduct, -⟩ := hfits.quantity
  obtain ⟨unitPrice, hquotient, hkept⟩ := hfits.price
  have hpositive : 0 < unitPrice.scaled := by
    have hnonneg := nonneg_of_checkedDiv hquotient hprice.le hratio
    have hne := hkept hprice.ne'
    omega
  have hheldMax := held.le_max
  have htargetMax := target.le_max
  have hheldNonneg := hacc.held
  have htotalNonneg := hacc.total
  have hnonneg := scaled_nonneg_of_checkedMul hproduct hquantity.le hratio.le
  obtain ⟨nextHeld, hnextHeld⟩ : ∃ d,
      acc.held.checkedAdd lot.remainingQuantity = .ok d :=
    Decimal.checked_ok _ (by unfold i128Min; omega) (by omega)
  -- the next total is below what the next held quantity is scaled to
  have hnext : acc.total.scaled + quantity.scaled ≤ target.scaled := by
    have hbelow := mul_scale_le_of_checkedMul hproduct hquantity.le hratio.le
    rw [scaled_of_checkedMul htarget, Int.tdiv_eq_ediv_of_nonneg
      (Int.mul_nonneg (by omega) hratio.le)]
    apply (Int.le_ediv_iff_mul_le (by decide)).mpr
    calc (acc.total.scaled + quantity.scaled) * Decimal.scale
        = acc.total.scaled * Decimal.scale + quantity.scaled * Decimal.scale :=
          Int.add_mul _ _ _
      _ ≤ acc.held.scaled * ratio.scaled
          + lot.remainingQuantity.scaled * ratio.scaled :=
          Int.add_le_add hacc.below hbelow
      _ = (acc.held.scaled + lot.remainingQuantity.scaled) * ratio.scaled :=
          (Int.add_mul _ _ _).symm
      _ ≤ held.scaled * ratio.scaled :=
          Int.mul_le_mul_of_nonneg_right hheld hratio.le
  obtain ⟨nextTotal, hnextTotal⟩ : ∃ d, acc.total.checkedAdd quantity = .ok d :=
    Decimal.checked_ok _ (by unfold i128Min; omega) (by omega)
  refine ⟨⟨nextHeld, nextTotal,
    acc.split ++ [{ lot with remainingQuantity := quantity, unitPrice }]⟩, ?_⟩
  simp only [splitLot, bind_eq_ok, hnextHeld, hproduct, hquotient,
    hnextTotal, refuseIf_eq_ok, exists_const, Except.ok.injEq, pure,
    Except.pure, exists_eq_left', le_def, scaled_zero, not_le]
  exact ⟨hpositive, trivial⟩

theorem exists_splitLot_loop (hratio : 0 < ratio.scaled)
    (htarget : held.checkedMul ratio = .ok target)
    (hfits : ∀ lot ∈ lots, lot.SplitFits ratio) (hlots : Positive lots)
    (hprices : ∀ lot ∈ lots, 0 < lot.unitPrice.scaled) (hacc : acc.Below ratio)
    (hheld : acc.held.scaled + lotQuantity lots = held.scaled) :
    ∃ acc', lots.foldlM (splitLot ratio) acc = .ok acc' ∧
      acc'.Below ratio ∧ acc'.held.scaled = held.scaled := by
  induction lots generalizing acc with
  | nil =>
    refine ⟨acc, rfl, hacc, ?_⟩
    simpa using hheld
  | cons lot lots ih =>
    rw [forall_mem_cons] at hfits hprices
    have hlot := hlots lot mem_cons_self
    have hrest : Positive lots :=
      fun other hother => hlots other (mem_cons_of_mem _ hother)
    have hnonneg := hrest.lotQuantity_nonneg
    rw [lotQuantity_cons] at hheld
    obtain ⟨next, hnext⟩ := exists_splitLot hratio hfits.1 hlot hprices.1
      hacc (by omega) htarget
    obtain ⟨_, _, -, hnextHeld, -⟩ := splitLot_ok hnext
    obtain ⟨acc', hloop, hbelow, hdone⟩ := ih hfits.2 hrest hprices.2
      (splitLot_below hratio hlot hnext hacc) (by omega)
    refine ⟨acc', ?_, hbelow, hdone⟩
    rw [foldlM_cons, hnext]
    exact hloop

theorem exists_addToNewest {shortfall : Decimal} {lots : List TaxLot}
    (hlots : ∀ lot ∈ lots, 0 ≤ lot.remainingQuantity.scaled)
    (hshortfall : 0 ≤ shortfall.scaled)
    (hfits : lotQuantity lots + shortfall.scaled ≤ i128Max) :
    ∃ lots', addToNewest shortfall lots = .ok lots' := by
  induction lots with
  | nil => exact ⟨[], rfl⟩
  | cons lot rest ih =>
    rw [forall_mem_cons] at hlots
    cases rest with
    | nil =>
      simp only [lotQuantity_cons, lotQuantity_nil] at hfits
      obtain ⟨quantity, hquantity⟩ : ∃ d,
          lot.remainingQuantity.checkedAdd shortfall = .ok d :=
        Decimal.checked_ok _ (by have := hlots.1; unfold i128Min; omega)
          (by omega)
      exact ⟨_, by simp only [addToNewest, hquantity]; rfl⟩
    | cons second rest =>
      rw [lotQuantity_cons] at hfits
      obtain ⟨tail, htail⟩ := ih hlots.2 (by have := hlots.1; omega)
      exact ⟨_, by simp only [addToNewest, htail]; rfl⟩

/-- Lots whose scaled values fit are split exactly when all their prices are
positive. -/
theorem exists_splitLots_iff (hratio : 0 < ratio.scaled)
    (hlots : Positive lots) (hfits : LotsSplitFit ratio lots) :
    (∃ lots', splitLots lots ratio = .ok lots') ↔
      ∀ lot ∈ lots, 0 < lot.unitPrice.scaled := by
  constructor
  · rintro ⟨lots', h⟩
    simp only [splitLots, bind_eq_ok] at h
    obtain ⟨acc, hloop, -⟩ := h
    exact splitLot_prices hratio hloop
  · intro hprices
    obtain ⟨held, target, hheld, htarget⟩ := hfits.whole
    obtain ⟨acc, hloop, hbelow, hdone⟩ := exists_splitLot_loop hratio htarget
      hfits.each hlots hprices (LotSplit.below_empty ratio)
      (by rw [hheld, scaled_zero, Int.zero_add])
    have hsame : acc.held = held := Decimal.ext hdone
    have hle := total_le_target hratio hbelow hdone.le htarget
    have hmax := target.le_max
    have htotal := hbelow.total
    obtain ⟨shortfall, hshortfall⟩ : ∃ d, target.checkedSub acc.total = .ok d :=
      Decimal.checked_ok _ (by unfold i128Min; omega) (by omega)
    have hscaled := checkedSub_eq_ok.mp hshortfall
    obtain ⟨split, hsplit⟩ := @exists_addToNewest shortfall _
      hbelow.quantities (by omega) (by rw [hbelow.split]; omega)
    refine ⟨retainOpen split, ?_⟩
    simp only [splitLots, bind_eq_ok, refuseIf_eq_ok, exists_const]
    refine ⟨acc, hloop, target, hsame ▸ htarget, shortfall, hshortfall, ?_,
      split, hsplit, rfl⟩
    rw [lt_def, scaled_zero]
    omega

/-! ## Books that are split -/

theorem LotSide.Sound.lotsOf_price {positivePrice : Bool} {side : LotSide}
    (h : side.Sound positivePrice) (hpositive : positivePrice = true)
    (instrumentId : String) :
    ∀ lot ∈ side.lotsOf instrumentId, 0 < lot.unitPrice.scaled := by
  intro lot hlot
  unfold LotSide.lotsOf at hlot
  cases hfound : side.lots[instrumentId]? with
  | none =>
    rw [hfound] at hlot
    exact absurd hlot not_mem_nil
  | some lots =>
    rw [hfound] at hlot
    exact (h.keeps instrumentId lots hfound lot hlot).price hpositive

theorem LotSide.exists_applySplit_iff {side : LotSide} {instrumentId : String}
    (hratio : 0 < ratio.scaled) (hopen : side.Open)
    (hfits : LotsSplitFit ratio (side.lotsOf instrumentId)) :
    (∃ side', side.applySplit instrumentId ratio = .ok side') ↔
      ∀ lot ∈ side.lotsOf instrumentId, 0 < lot.unitPrice.scaled := by
  rw [← exists_splitLots_iff hratio (hopen instrumentId) hfits]
  unfold applySplit lotsOf
  cases side.lots[instrumentId]? with
  | none =>
    refine iff_of_true ⟨side, rfl⟩ ⟨[], ?_⟩
    simp only [Option.getD_none, splitLots, List.foldlM_nil, bind_eq_ok,
      refuseIf_eq_ok, exists_const]
    refine ⟨_, rfl, Decimal.zero, ?_, Decimal.zero, ?_, by decide, [], rfl,
      rfl⟩
    · simp only [Decimal.checkedMul, bind_eq_ok, checked_eq_ok,
        scaled_zero, Int.zero_mul]
      exact ⟨Decimal.zero, rfl, rfl⟩
    · rw [checkedSub_eq_ok]
      rfl
  | some lots =>
    simp only [getD_some, bind_eq_ok]
    constructor
    · rintro ⟨_, split, hsplit, -⟩
      exact ⟨split, hsplit⟩
    · rintro ⟨split, hsplit⟩
      exact ⟨_, split, hsplit, rfl⟩

/-- In every run, a split whose scaled values fit is accepted exactly when
every open short lot of the instrument has positive proceeds. -/
theorem split_accepted_iff {book : TaxLotBook}
    (h : Reachable (· = TaxLotBook.empty) LotCall.Step book)
    {instrumentId : String} {ratio : Decimal} (hratio : 0 < ratio.scaled)
    (hlong : LotsSplitFit ratio (book.lots instrumentId))
    (hshort : LotsSplitFit ratio (book.shortLots instrumentId)) :
    (∃ book', book.applySplit instrumentId ratio = .ok book') ↔
      isCanonicalId instrumentId = true ∧
        ∀ lot ∈ book.shortLots instrumentId, 0 < lot.unitPrice.scaled := by
  have hsound := LotCall.sound_of_run h
  have hlongs := LotSide.exists_applySplit_iff hratio hsound.long.isOpen hlong
  have hshorts := LotSide.exists_applySplit_iff hratio hsound.short.isOpen hshort
  have hprices : ∀ lot ∈ book.long.lotsOf instrumentId,
      0 < lot.unitPrice.scaled :=
    hsound.long.lotsOf_price rfl instrumentId
  constructor
  · rintro ⟨book', hsplit⟩
    refine ⟨?_, hshorts.mp ⟨_, (TaxLotBook.applySplit_eq_ok hsplit).2.2⟩⟩
    simp only [TaxLotBook.applySplit, bind_eq_ok,
      validateCanonicalId_eq_ok] at hsplit
    exact hsplit.choose_spec.1
  · rintro ⟨hid, hpositive⟩
    obtain ⟨long, hlongSplit⟩ := hlongs.mpr hprices
    obtain ⟨short, hshortSplit⟩ := hshorts.mpr hpositive
    refine ⟨{ book with long, short }, ?_⟩
    simp only [TaxLotBook.applySplit, bind_eq_ok, refuseIf_eq_ok,
      exists_const, validateCanonicalId_eq_ok, hlongSplit, hshortSplit]
    have hpositiveRatio : ¬ratio ≤ Decimal.zero := by
      rw [le_def, scaled_zero]
      omega
    exact ⟨hid, hpositiveRatio, long, rfl, short, rfl, rfl⟩

namespace SplitAcceptanceRun

open LotCallRun

def doubling : Decimal := .two

def freeShort : ShortTaxLot := { lot with unitPrice := Decimal.zero }

def shorted (lot : ShortTaxLot) : TaxLotBook :=
  ((LotCall.openShort lot).perform TaxLotBook.empty).2

theorem shorted_run (lot : ShortTaxLot) :
    Reachable (· = TaxLotBook.empty) LotCall.Step (shorted lot) :=
  .step (.init rfl) ⟨.openShort lot, rfl⟩

theorem fits_nil : LotsSplitFit doubling [] where
  each := fun _ hlot => absurd hlot not_mem_nil
  whole := ⟨Decimal.zero, Decimal.zero, rfl, rfl⟩

theorem fits_one {unitPrice : Decimal}
    (h : ∃ scaled, unitPrice.checkedDiv doubling = .ok scaled ∧
      (unitPrice.scaled ≠ 0 → scaled.scaled ≠ 0)) :
    LotsSplitFit doubling [{ lot with unitPrice }] where
  each := by
    intro held hheld
    rw [mem_singleton.mp hheld]
    exact ⟨⟨doubling, rfl, fun _ => by decide⟩, h⟩
  whole := ⟨lot.remainingQuantity, doubling, rfl, rfl⟩

theorem shorted_accepted :
    (∃ book', (shorted lot).applySplit "aapl" doubling = .ok book') ↔
      isCanonicalId "aapl" = true ∧
        ∀ held ∈ (shorted lot).shortLots "aapl", 0 < held.unitPrice.scaled :=
  split_accepted_iff (shorted_run lot) (by decide) fits_nil
    (fits_one ⟨⟨50000000, by decide, by decide⟩, rfl, by decide⟩)

/-- A two-for-one split of one free short is refused. -/
theorem freeShort_refused : ¬∀ book : TaxLotBook,
      Reachable (· = TaxLotBook.empty) LotCall.Step book →
      ∀ (instrumentId : String) (ratio : Decimal),
        isCanonicalId instrumentId = true → 0 < ratio.scaled →
        LotsSplitFit ratio (book.lots instrumentId) →
        LotsSplitFit ratio (book.shortLots instrumentId) →
        ∃ book', book.applySplit instrumentId ratio = .ok book' := by
  intro haccepts
  have haccepted := haccepts (shorted freeShort) (shorted_run freeShort)
    "aapl" doubling (by decide) (by decide) fits_nil
    (fits_one ⟨Decimal.zero, rfl, fun h => absurd rfl h⟩)
  have hrefused :
      ((shorted freeShort).applySplit "aapl" doubling).toOption = none := by
    decide
  obtain ⟨book', hbook⟩ := haccepted
  rw [hbook] at hrefused
  contradiction

end SplitAcceptanceRun

end Follon.Accounting
