import Follon.Accounting.TaxLots
import Mathlib.Algebra.BigOperators.Group.List.Basic

/-!
# Quantities of tax lots

Closing, opening and splitting lots move exactly the quantity they are asked
to, and leave every lot as it was but for its quantity.
-/

namespace Follon.Accounting

open Foundation Domain

def lotQuantity (lots : List TaxLot) : Int := (lots.map (·.remainingQuantity.scaled)).sum

@[simp] theorem lotQuantity_nil : lotQuantity [] = 0 := rfl

@[simp] theorem lotQuantity_cons (lot : TaxLot) (lots : List TaxLot) :
    lotQuantity (lot :: lots)
      = lot.remainingQuantity.scaled + lotQuantity lots := by
  simp [lotQuantity]

@[simp] theorem lotQuantity_append (left right : List TaxLot) :
    lotQuantity (left ++ right) = lotQuantity left + lotQuantity right := by
  simp [lotQuantity]

theorem lotQuantity_perm {left right : List TaxLot}
    (h : left.Perm right) : lotQuantity left = lotQuantity right :=
  (h.map _).sum_eq

variable {lots : List TaxLot} {lot : TaxLot} {stem instrumentId : String}
  {ids executionIds : OrderedSet String} {side side' : LotSide}
  {ratio : Decimal}

variable {index : Nat} {executionIds' : OrderedSet String}
  {executionId closeId : String} {acc acc' : LotSplit} {lots' : List TaxLot}

theorem lotQuantity_set (hindex : lots[index]? = some lot) (lot' : TaxLot)
    : lotQuantity (lots.set index lot')
      = lotQuantity lots - lot.remainingQuantity.scaled +
        lot'.remainingQuantity.scaled := by
  induction lots generalizing index with
  | nil => simp at hindex
  | cons first rest ih =>
    cases index with
    | zero =>
      simp only [List.getElem?_cons_zero, Option.some.injEq] at hindex
      rw [← hindex, List.set_cons_zero, lotQuantity_cons, lotQuantity_cons]
      omega
    | succ index =>
      rw [List.getElem?_cons_succ] at hindex
      simp only [List.set_cons_succ, lotQuantity_cons, ih hindex]
      omega

def Positive (lots : List TaxLot) : Prop := ∀ lot ∈ lots, 0 < lot.remainingQuantity.scaled

theorem Positive.lotQuantity_nonneg (h : Positive lots) : 0 ≤ lotQuantity lots := by
  induction lots with
  | nil => simp
  | cons lot lots ih =>
    have hlot := h lot mem_cons_self
    have hlots := ih fun other hother => h other (mem_cons_of_mem _ hother)
    simp only [lotQuantity_cons]
    omega

theorem Positive.eq_nil (h : Positive lots) (hzero : lotQuantity lots = 0)
    : lots = [] := by
  cases lots with
  | nil => rfl
  | cons lot lots =>
    have hlot := h lot mem_cons_self
    have hlots := Positive.lotQuantity_nonneg
      fun other hother => h other (mem_cons_of_mem _ hother)
    simp only [lotQuantity_cons] at hzero
    omega

theorem scaled_of_openQuantity {total : Decimal}
    (h : openQuantity lots = .ok total) : total.scaled = lotQuantity lots := by
  suffices hloop : ∀ acc : Decimal, lots.foldlM addQuantity acc = .ok total →
      total.scaled = acc.scaled + lotQuantity lots by
    simpa using hloop Decimal.zero h
  clear h
  induction lots with
  | nil =>
    intro acc h
    simp only [List.foldlM_nil, pure_eq_ok] at h
    rw [← h]
    simp
  | cons lot lots ih =>
    intro acc h
    simp only [foldlM_cons, bind_eq_ok, addQuantity,
      checkedAdd_eq_ok] at h
    obtain ⟨sum, hsum, hrest⟩ := h
    rw [ih sum hrest, hsum, lotQuantity_cons]
    omega

theorem lotQuantity_retainOpen (h : ∀ lot ∈ lots, 0 ≤ lot.remainingQuantity.scaled) :
    lotQuantity (retainOpen lots) = lotQuantity lots := by
  induction lots with
  | nil => rfl
  | cons lot lots ih =>
    have hlot := h lot mem_cons_self
    have hlots := ih fun other hother => h other (mem_cons_of_mem _ hother)
    simp only [retainOpen, List.filter_cons, decide_eq_true_eq] at hlots ⊢
    split
    · rw [lotQuantity_cons, hlots, lotQuantity_cons]
    · next hclosed =>
        rw [lt_def, scaled_zero] at hclosed
        rw [hlots, lotQuantity_cons]
        omega

theorem positive_retainOpen (lots : List TaxLot) : Positive (retainOpen lots) := by
  intro lot hlot
  simp only [retainOpen, mem_filter, decide_eq_true_eq, lt_def,
    scaled_zero] at hlot
  exact hlot.2

/-! ## Closing -/

def TaxLot.terms (lot : TaxLot) : TaxLot := { lot with remainingQuantity := Decimal.zero }

structure Taken (existing : List TaxLot) (quantity : Decimal)
    (taking : LotTaking) : Prop where
  terms : taking.projected.map TaxLot.terms = existing.map TaxLot.terms
  balance : lotQuantity taking.projected - taking.remaining.scaled
    = lotQuantity existing - quantity.scaled
  nonneg : ∀ lot ∈ taking.projected, 0 ≤ lot.remainingQuantity.scaled
  remaining : 0 ≤ taking.remaining.scaled

theorem takeLot_keeps {existing : List TaxLot} {quantity : Decimal}
    {taking taking' : LotTaking} (h : takeLot taking index = .ok taking')
    (htaken : Taken existing quantity taking) : Taken existing quantity taking' := by
  unfold takeLot at h
  split at h
  · simp only [pure_eq_ok] at h
    rw [← h]
    exact htaken
  · next lot hlot =>
      split at h
      · simp only [pure_eq_ok] at h
        rw [← h]
        exact htaken
      · dsimp only at h
        split at h
        · simp only [pure_eq_ok] at h
          rw [← h]
          exact htaken
        · simp only [bind_eq_ok, checkedSub_eq_ok, pure_eq_ok] at h
          obtain ⟨_, -, _, -, kept, hkept, remaining, hremaining, rfl⟩ := h
          have hselected :
              (lot.remainingQuantity.min taking.remaining).scaled
                  ≤ lot.remainingQuantity.scaled ∧
                (lot.remainingQuantity.min taking.remaining).scaled
                  ≤ taking.remaining.scaled := by
            unfold Decimal.min
            split <;> rename_i hlt <;> rw [lt_def] at hlt <;>
              constructor <;> omega
          refine ⟨?_, ?_, ?_, ?_⟩
          · rw [← htaken.terms, List.map_set]
            apply List.ext_getElem?
            intro i
            rw [List.getElem?_set]
            split
            · next hi =>
                rw [← hi, List.getElem?_map, hlot]
                split
                · rfl
                · next hlength =>
                    rw [List.length_map] at hlength
                    have := (List.getElem?_eq_some_iff.mp hlot).1
                    contradiction
            · rfl
          · have hbalance := htaken.balance
            simp only [lotQuantity_set hlot]
            omega
          · intro other hother
            rcases List.mem_or_eq_of_mem_set hother with hold | rfl
            · exact htaken.nonneg other hold
            · simp only [hkept]
              omega
          · simp only [hremaining]
            omega

namespace LotSide

variable {texts : CloseTexts} {side : LotSide}
  {closeId instrumentId occurredAt : String} {currency : Currency}
  {quantity unitPrice fee : Decimal} {selection : TaxLotSelection}

theorem close_eq_some {taking : LotTaking}
    (h : side.close texts closeId instrumentId currency quantity unitPrice fee
      occurredAt selection = .ok (some taking))
    (hpositive : Positive (side.lotsOf instrumentId)) :
    taking.projected.map TaxLot.terms = (side.lotsOf instrumentId).map TaxLot.terms ∧
      lotQuantity taking.projected
        = lotQuantity (side.lotsOf instrumentId) - quantity.scaled ∧
        ∀ lot ∈ taking.projected, 0 ≤ lot.remainingQuantity.scaled := by
  simp only [close, bind_eq_ok, refuseIf_eq_ok, exists_const] at h
  obtain ⟨_, -, _, -, _, -, heconomics, h⟩ := h
  rw [not_or, le_def, scaled_zero] at heconomics
  split at h
  · simp [pure, Except.pure] at h
  · split at h
    · contradiction
    · next existing hexisting =>
        have hlots : side.lotsOf instrumentId = existing := by
          rw [lotsOf, hexisting, getD_some]
        simp only [bind_eq_ok, refuseIf_eq_ok, exists_const, pure_eq_ok, Option.some.injEq, Decidable.not_not] at h
        obtain ⟨-, _, -, -, taken, hloop, hzero, rfl⟩ := h
        rw [hlots] at hpositive ⊢
        have htaken : Taken existing quantity taken := by
          refine foldlM_keeps ?_ hloop ⟨rfl, rfl, ?_, ?_⟩
          · exact fun b hb a _ b' hb' => takeLot_keeps hb' hb
          · exact fun lot hlot => (hpositive lot hlot).le
          · change 0 ≤ quantity.scaled
            omega
        have hbalance := htaken.balance
        rw [hzero, scaled_zero] at hbalance
        exact ⟨htaken.terms, by omega, htaken.nonneg⟩

theorem close_eq_none (h : side.close texts closeId instrumentId currency
      quantity unitPrice fee occurredAt selection = .ok none) :
    closeId ∈ side.appliedCloseIds := by
  simp only [close, bind_eq_ok, refuseIf_eq_ok, exists_const] at h
  obtain ⟨_, -, _, -, _, -, -, h⟩ := h
  split at h
  · assumption
  · split at h
    · contradiction
    · simp [bind_eq_ok, pure, Except.pure] at h

theorem lotsOf_store (closeId instrumentId other : String) (lots : List TaxLot) :
    (side.store closeId instrumentId lots).lotsOf other
      = if instrumentId = other then lots else side.lotsOf other := by
  simp only [lotsOf, store, getElem?_insert, Std.LawfulEqCmp.compare_eq_iff_eq]
  split <;> rfl

theorem lotsOf_push (lot : TaxLot) (other : String) : (side.push lot).lotsOf other
      = if lot.instrumentId = other then
          sortLots (side.lotsOf lot.instrumentId ++ [lot])
        else side.lotsOf other := by
  simp only [lotsOf, push, getElem?_insert, Std.LawfulEqCmp.compare_eq_iff_eq]
  split <;> rfl

end LotSide

def longQuantity (book : TaxLotBook) (instrumentId : String) : Int :=
  lotQuantity (book.lots instrumentId)

def shortQuantity (book : TaxLotBook) (instrumentId : String) : Int :=
  lotQuantity (book.shortLots instrumentId)

theorem perm_sortLots (lots : List TaxLot) : (sortLots lots).Perm lots :=
  perm_insertionSort lotLe lots

/-! ## Identities of lots -/

def Derived (stem : String) (ids executionIds : OrderedSet String) : Prop :=
  ∀ id ∈ ids, ∃ executionId ∈ executionIds, id = stem ++ executionId

theorem Derived.mono (h : Derived stem ids executionIds)
    (hsub : ∀ id ∈ executionIds, id ∈ executionIds') :
    Derived stem ids executionIds' := by
  intro id hid
  obtain ⟨executionId, hmem, hid⟩ := h id hid
  exact ⟨executionId, hsub executionId hmem, hid⟩

theorem Derived.not_mem (h : Derived stem ids executionIds)
    (hnew : executionId ∉ executionIds) : stem ++ executionId ∉ ids := by
  intro hmem
  obtain ⟨applied, happlied, hsame⟩ := h _ hmem
  have hlist := congrArg String.toList hsame
  simp only [toList_append] at hlist
  rw [toList_inj.mp (List.append_cancel_left hlist)] at hnew
  exact hnew happlied

theorem Derived.of_grown {ids' : OrderedSet String} (h : Derived stem ids executionIds)
    (hgrown : ∀ id ∈ ids', id = stem ++ executionId ∨ id ∈ ids)
    (hsub : ∀ id ∈ executionIds, id ∈ executionIds')
    (hmem : executionId ∈ executionIds') : Derived stem ids' executionIds' := by
  intro id hid
  rcases hgrown id hid with rfl | hid
  · exact ⟨executionId, hmem, rfl⟩
  · exact h.mono hsub id hid

/-! ## The book's operations -/

def LotSide.Open (side : LotSide) : Prop :=
  ∀ instrumentId, Positive (side.lotsOf instrumentId)

/-- One half after an operation on one instrument: its quantity there moved by
`moved`, its other lots are untouched and its applied identities grew by at
most the two given ones. -/
structure LotSide.Moves (instrumentId lotId closeId : String) (moved : Int)
    (side side' : LotSide) : Prop where
  quantity : lotQuantity (side'.lotsOf instrumentId)
    = lotQuantity (side.lotsOf instrumentId) + moved
  frame : ∀ other, instrumentId ≠ other → side'.lotsOf other = side.lotsOf other
  isOpen : side'.Open
  lotIds : ∀ id, id ∈ side'.appliedLotIds → id = lotId ∨ id ∈ side.appliedLotIds
  closeIds : ∀ id, id ∈ side'.appliedCloseIds → id = closeId ∨ id ∈ side.appliedCloseIds

theorem LotSide.moves_refl (hopen : side.Open) (instrumentId lotId closeId : String) :
    side.Moves instrumentId lotId closeId 0 side :=
  ⟨by omega, fun _ _ => rfl, hopen, fun _ => .inr, fun _ => .inr⟩

theorem LotSide.Moves.trans {lotId : String} {moved moved' : Int}
    {side'' : LotSide} (h : side.Moves instrumentId lotId closeId moved side')
    (h' : side'.Moves instrumentId lotId closeId moved' side'') :
    side.Moves instrumentId lotId closeId (moved + moved') side'' := by
  refine ⟨?_, ?_, h'.isOpen, ?_, ?_⟩
  · rw [h'.quantity, h.quantity]
    omega
  · intro other hother
    rw [h'.frame other hother, h.frame other hother]
  · intro id hid
    exact (h'.lotIds id hid).elim .inl (h.lotIds id)
  · intro id hid
    exact (h'.closeIds id hid).elim .inl (h.closeIds id)

theorem LotSide.moves_push (hopen : side.Open)
    (hlot : 0 < lot.remainingQuantity.scaled) (closeId : String) :
    side.Moves lot.instrumentId lot.lotId closeId
      lot.remainingQuantity.scaled (side.push lot) := by
  have hperm := perm_sortLots (side.lotsOf lot.instrumentId ++ [lot])
  refine ⟨?_, ?_, ?_, ?_, fun id => .inr⟩
  · rw [lotsOf_push, if_pos rfl, lotQuantity_perm hperm, lotQuantity_append]
    simp
  · intro other hother
    rw [lotsOf_push, if_neg hother]
  · intro other
    rw [lotsOf_push]
    split
    · intro held hheld
      rw [hperm.mem_iff, mem_append, mem_singleton] at hheld
      rcases hheld with hheld | rfl
      · exact hopen lot.instrumentId held hheld
      · exact hlot
    · exact hopen other
  · intro id hid
    rw [push, mem_insert,
      Std.LawfulEqCmp.compare_eq_iff_eq] at hid
    exact hid.imp_left Eq.symm

theorem LotSide.moves_store {taken : List TaxLot} {closed : Int}
    (hopen : side.Open) (hquantity : lotQuantity taken
      = lotQuantity (side.lotsOf instrumentId) - closed)
    (hnonneg : ∀ lot ∈ taken, 0 ≤ lot.remainingQuantity.scaled) (lotId : String) :
    side.Moves instrumentId lotId closeId (-closed)
      (side.store closeId instrumentId (retainOpen taken)) := by
  refine ⟨?_, ?_, ?_, fun id => .inr, ?_⟩
  · rw [lotsOf_store, if_pos rfl, lotQuantity_retainOpen hnonneg, hquantity]
    omega
  · intro other hother
    rw [lotsOf_store, if_neg hother]
  · intro other
    rw [lotsOf_store]
    split
    · exact positive_retainOpen taken
    · exact hopen other
  · intro id hid
    rw [store, mem_insert,
      Std.LawfulEqCmp.compare_eq_iff_eq] at hid
    exact hid.imp_left Eq.symm

namespace TaxLotBook

variable {book book' : TaxLotBook} {fresh : Bool}

theorem realize_ok {currency : Currency} {amount : Decimal} {u : Unit}
    (h : (realize currency amount).run book = (.ok u, book')) :
    ∃ total, book' = { book with
      realizedByCurrency :=
        book.realizedByCurrency.insert currency total } := by
  simp only [realize, run_read_bind, run_lift_bind_eq_ok,
    run_update, Prod.mk.injEq] at h
  obtain ⟨total, -, -, rfl⟩ := h
  exact ⟨total, rfl⟩

theorem acquire_ok {lot : TaxLot} (h : (acquire lot).run book = (.ok fresh, book'))
    (hnew : lot.lotId ∉ book.long.appliedLotIds) : 0 < lot.remainingQuantity.scaled ∧
      book' = { book with long := book.long.push lot } := by
  simp only [acquire, run_read_bind, run_lift_bind_eq_ok,
    refuseIf_eq_ok, exists_const, if_neg hnew, run_update_bind,
    run_pure, Prod.mk.injEq, not_or, le_def,
    scaled_zero] at h
  obtain ⟨_, -, _, -, _, -, ⟨hquantity, -⟩, -, rfl⟩ := h
  exact ⟨by omega, rfl⟩

theorem openShort_ok {lot : ShortTaxLot}
    (h : (openShort lot).run book = (.ok fresh, book'))
    (hnew : lot.lotId ∉ book.short.appliedLotIds) : 0 < lot.remainingQuantity.scaled ∧
      book' = { book with short := book.short.push lot } := by
  simp only [openShort, run_read_bind, run_lift_bind_eq_ok,
    refuseIf_eq_ok, exists_const, if_neg hnew, run_update_bind,
    run_pure, Prod.mk.injEq, le_def,
    scaled_zero] at h
  obtain ⟨_, -, _, -, _, -, hquantity, -, rfl⟩ := h
  exact ⟨by omega, rfl⟩

theorem acquire_price {lot : TaxLot} (h : (acquire lot).run book = (.ok fresh, book')) :
    Decimal.zero < lot.unitPrice := by
  simp only [acquire, run_read_bind, run_lift_bind_eq_ok,
    refuseIf_eq_ok, exists_const, not_or, le_def] at h
  obtain ⟨_, -, _, -, _, -, ⟨-, hprice⟩, -⟩ := h
  exact Int.not_le.mp hprice

theorem acquire_runs {lot : TaxLot} (hid : isCanonicalId lot.lotId = true)
    (hinstrument : isCanonicalId lot.instrumentId = true)
    (hopened : isUtcTimestamp lot.openedAt = true)
    (hquantity : 0 < lot.remainingQuantity.scaled)
    (hprice : 0 < lot.unitPrice.scaled) (book : TaxLotBook) :
    ∃ fresh book', (acquire lot).run book = (.ok fresh, book') := by
  simp only [acquire, run_read_bind, run_lift_bind_eq_ok, validateCanonicalId_eq_ok,
    validateUtcTimestamp_eq_ok, refuseIf_eq_ok, exists_const, not_or, le_def, scaled_zero]
  by_cases happlied : lot.lotId ∈ book.long.appliedLotIds
  · exact ⟨false, book, hid, hinstrument, hopened, by omega, by
      simp [happlied]⟩
  · refine ⟨true, { book with long := book.long.push lot }, hid, hinstrument,
      hopened, by omega, ?_⟩
    rw [if_neg happlied]
    rfl

theorem openShort_runs {lot : ShortTaxLot} (hid : isCanonicalId lot.lotId = true)
    (hinstrument : isCanonicalId lot.instrumentId = true)
    (hopened : isUtcTimestamp lot.openedAt = true)
    (hquantity : 0 < lot.remainingQuantity.scaled) (book : TaxLotBook) :
    ∃ fresh book', (openShort lot).run book = (.ok fresh, book') := by
  simp only [openShort, run_read_bind, run_lift_bind_eq_ok, validateCanonicalId_eq_ok,
    validateUtcTimestamp_eq_ok, refuseIf_eq_ok, exists_const, le_def, scaled_zero]
  by_cases happlied : lot.lotId ∈ book.short.appliedLotIds
  · exact ⟨false, book, hid, hinstrument, hopened, by omega, by
      simp [happlied]⟩
  · refine ⟨true, { book with short := book.short.push lot }, hid,
      hinstrument, hopened, by omega, ?_⟩
    rw [if_neg happlied]
    rfl

section

variable {book book' : TaxLotBook}
  {closeId instrumentId occurredAt : String} {currency : Currency}
  {quantity unitPrice fee : Decimal} {selection : TaxLotSelection}
  {closed : Option LotClose}

theorem dispose_ok (h : (dispose closeId instrumentId currency quantity unitPrice fee
      occurredAt selection).run book = (.ok closed, book'))
    (hnew : closeId ∉ book.long.appliedCloseIds) : ∃ taking realized,
      book.long.close disposalTexts closeId instrumentId currency quantity
        unitPrice fee occurredAt selection = .ok (some taking) ∧
      book' =
        { long := book.long.store closeId instrumentId
            (retainOpen taking.projected)
          short := book.short
          realizedByCurrency :=
            book.realizedByCurrency.insert currency realized } := by
  simp only [dispose, run_read_bind,
    run_lift_bind_eq_ok] at h
  obtain ⟨taken, htaken, h⟩ := h
  cases taken with
  | none => exact absurd (LotSide.close_eq_none htaken) hnew
  | some taking =>
    simp only [run_lift_bind_eq_ok, run_update_bind] at h
    obtain ⟨_, -, _, -, _, -, h⟩ := h
    obtain ⟨_, w, hrealize, h⟩ := run_bind_eq_ok.mp h
    rw [run_pure, Prod.mk.injEq] at h
    obtain ⟨total, rfl⟩ := realize_ok hrealize
    rw [← h.2]
    exact ⟨taking, total, htaken, rfl⟩

theorem cover_ok (h : (cover closeId instrumentId currency quantity unitPrice fee
      occurredAt selection).run book = (.ok closed, book'))
    (hnew : closeId ∉ book.short.appliedCloseIds) : ∃ taking realized,
      book.short.close coverTexts closeId instrumentId currency quantity
        unitPrice fee occurredAt selection = .ok (some taking) ∧
      book' =
        { long := book.long
          short := book.short.store closeId instrumentId
            (retainOpen taking.projected)
          realizedByCurrency :=
            book.realizedByCurrency.insert currency realized } := by
  simp only [cover, run_read_bind,
    run_lift_bind_eq_ok] at h
  obtain ⟨taken, htaken, h⟩ := h
  cases taken with
  | none => exact absurd (LotSide.close_eq_none htaken) hnew
  | some taking =>
    simp only [run_lift_bind_eq_ok, run_update_bind] at h
    obtain ⟨_, -, _, -, _, -, h⟩ := h
    obtain ⟨_, w, hrealize, h⟩ := run_bind_eq_ok.mp h
    rw [run_pure, Prod.mk.injEq] at h
    obtain ⟨total, rfl⟩ := realize_ok hrealize
    rw [← h.2]
    exact ⟨taking, total, htaken, rfl⟩

end

end TaxLotBook

/-! ## Splits -/

theorem splitLot_ok (h : splitLot ratio acc lot = .ok acc') :
    ∃ quantity unitPrice, lot.remainingQuantity.checkedMul ratio = .ok quantity ∧
      acc'.held.scaled = acc.held.scaled + lot.remainingQuantity.scaled ∧
      acc'.total.scaled = acc.total.scaled + quantity.scaled ∧
      0 < unitPrice.scaled ∧
      acc'.split
        = acc.split ++ [{ lot with
            remainingQuantity := quantity, unitPrice }] := by
  simp only [splitLot, bind_eq_ok, checkedAdd_eq_ok, refuseIf_eq_ok,
    exists_const, pure_eq_ok, le_def,
    scaled_zero] at h
  obtain ⟨held, hheld, quantity, hquantity, unitPrice, -, hprice, total, htotal, rfl⟩ := h
  exact ⟨quantity, unitPrice, hquantity, hheld, htotal, by omega, rfl⟩

theorem scaled_nonneg_of_checkedMul {a b d : Decimal}
    (h : a.checkedMul b = .ok d) (ha : 0 ≤ a.scaled) (hb : 0 ≤ b.scaled) :
    0 ≤ d.scaled := by
  rw [scaled_of_checkedMul h]
  exact Int.tdiv_nonneg (Int.mul_nonneg ha hb) (by decide)

theorem splitLot_loop (hratio : 0 < ratio.scaled) (hlots : Positive lots)
    (h : lots.foldlM (splitLot ratio) acc = .ok acc')
    (hacc : ∀ lot ∈ acc.split, 0 ≤ lot.remainingQuantity.scaled) :
    acc'.held.scaled = acc.held.scaled + lotQuantity lots ∧
      acc'.total.scaled - lotQuantity acc'.split
        = acc.total.scaled - lotQuantity acc.split ∧
      acc'.split.length = acc.split.length + lots.length ∧
      ∀ lot ∈ acc'.split, 0 ≤ lot.remainingQuantity.scaled := by
  induction lots generalizing acc with
  | nil =>
    simp only [List.foldlM_nil, pure_eq_ok] at h
    rw [← h]
    exact ⟨by simp, rfl, by simp, hacc⟩
  | cons lot lots ih =>
    simp only [foldlM_cons, bind_eq_ok] at h
    obtain ⟨next, hnext, hrest⟩ := h
    obtain ⟨quantity, unitPrice, hquantity, hheld, htotal, -, hsplit⟩ :=
      splitLot_ok hnext
    have hlot := hlots lot mem_cons_self
    have hnonneg := scaled_nonneg_of_checkedMul hquantity hlot.le hratio.le
    have hnextacc : ∀ other ∈ next.split,
        0 ≤ other.remainingQuantity.scaled := by
      intro other hother
      rw [hsplit, mem_append, mem_singleton] at hother
      rcases hother with hother | rfl
      · exact hacc other hother
      · exact hnonneg
    obtain ⟨hheld', htotal', hlength, hsplit'⟩ := ih
      (fun other hother => hlots other (mem_cons_of_mem _ hother))
      hrest hnextacc
    have hsum : lotQuantity next.split
        = lotQuantity acc.split + quantity.scaled := by
      rw [hsplit, lotQuantity_append]
      simp
    have hnextLength : next.split.length = acc.split.length + 1 := by
      rw [hsplit]
      simp
    refine ⟨?_, ?_, ?_, hsplit'⟩
    · rw [lotQuantity_cons]
      omega
    · omega
    · rw [length_cons]
      omega

theorem addToNewest_ok {shortfall : Decimal}
    (h : addToNewest shortfall lots = .ok lots') (hne : lots ≠ [])
    (hshortfall : 0 ≤ shortfall.scaled)
    (hlots : ∀ lot ∈ lots, 0 ≤ lot.remainingQuantity.scaled) :
    lotQuantity lots' = lotQuantity lots + shortfall.scaled ∧
      ∀ lot ∈ lots', 0 ≤ lot.remainingQuantity.scaled := by
  induction lots generalizing lots' with
  | nil => contradiction
  | cons lot rest ih =>
    have hlot := hlots lot mem_cons_self
    cases rest with
    | nil =>
      simp only [addToNewest, bind_eq_ok, checkedAdd_eq_ok, pure_eq_ok] at h
      obtain ⟨quantity, hquantity, rfl⟩ := h
      refine ⟨?_, ?_⟩
      · simp only [lotQuantity_cons, lotQuantity_nil]
        omega
      · intro other hother
        rw [mem_singleton.mp hother]
        change 0 ≤ quantity.scaled
        omega
    | cons second rest =>
      simp only [addToNewest, bind_eq_ok, pure_eq_ok] at h
      obtain ⟨tail, htail, rfl⟩ := h
      obtain ⟨hsum, hnonneg⟩ := ih htail (by simp)
        fun other hother => hlots other (mem_cons_of_mem _ hother)
      refine ⟨?_, ?_⟩
      · rw [lotQuantity_cons, hsum, lotQuantity_cons lot]
        omega
      · intro other hother
        rcases mem_cons.mp hother with rfl | hother
        · exact hlot
        · exact hnonneg other hother

theorem splitLots_ok (h : splitLots lots ratio = .ok lots')
    (hratio : 0 < ratio.scaled) (hlots : Positive lots) : lotQuantity lots'
        = (lotQuantity lots * ratio.scaled).tdiv Decimal.scale ∧
      Positive lots' := by
  simp only [splitLots, bind_eq_ok, refuseIf_eq_ok, exists_const, pure_eq_ok, checkedSub_eq_ok, lt_def,
    scaled_zero] at h
  obtain ⟨acc, hloop, target, htarget, shortfall, hshortfall, hnonneg, split,
    hsplit, rfl⟩ := h
  obtain ⟨hheld, htotal, hlength, hopen⟩ :=
    splitLot_loop hratio hlots hloop (by simp)
  have hscaled := scaled_of_checkedMul htarget
  simp only [scaled_zero, zero_add, lotQuantity_nil, sub_zero,
    List.length_nil] at hheld htotal hlength
  rw [hheld] at hscaled
  refine ⟨?_, positive_retainOpen split⟩
  by_cases hempty : acc.split = []
  · simp only [hempty, addToNewest, pure_eq_ok] at hsplit
    rw [hempty, List.length_nil] at hlength
    rw [← hsplit, List.eq_nil_of_length_eq_zero hlength.symm]
    simp [retainOpen]
  · obtain ⟨hsum, hsplitOpen⟩ :=
      addToNewest_ok hsplit hempty (by omega) hopen
    rw [lotQuantity_retainOpen hsplitOpen, hsum, ← hscaled]
    omega

theorem LotSide.applySplit_fits (h : side.applySplit instrumentId ratio = .ok side')
    (hratio : 0 < ratio.scaled) (hopen : side.Open) : ∃ held target : Decimal,
      held.scaled = lotQuantity (side.lotsOf instrumentId) ∧
        held.checkedMul ratio = .ok target := by
  unfold applySplit at h
  cases hlots : side.lots[instrumentId]? with
  | none =>
    refine ⟨Decimal.zero, Decimal.zero, ?_, ?_⟩
    · simp [lotsOf, hlots]
    · simp only [Decimal.checkedMul, bind_eq_ok, checked_eq_ok, scaled_zero, Int.zero_mul]
      exact ⟨Decimal.zero, rfl, rfl⟩
  | some lots =>
    have hlotsOf : side.lotsOf instrumentId = lots := by
      rw [lotsOf, hlots, getD_some]
    simp only [hlots, splitLots, bind_eq_ok] at h
    obtain ⟨_, ⟨acc, hloop, target, htarget, -⟩, -⟩ := h
    obtain ⟨hheld, -⟩ := splitLot_loop hratio
      (hlotsOf ▸ hopen instrumentId) hloop (by simp)
    refine ⟨acc.held, target, ?_, htarget⟩
    rw [hlotsOf, hheld, scaled_zero, Int.zero_add]

theorem LotSide.applySplit_ok (h : side.applySplit instrumentId ratio = .ok side')
    (hratio : 0 < ratio.scaled) (hopen : side.Open) :
    lotQuantity (side'.lotsOf instrumentId)
        = (lotQuantity (side.lotsOf instrumentId) * ratio.scaled).tdiv
          Decimal.scale ∧
      (∀ other, instrumentId ≠ other → side'.lotsOf other = side.lotsOf other) ∧
      side'.Open ∧ side'.appliedLotIds = side.appliedLotIds ∧
        side'.appliedCloseIds = side.appliedCloseIds := by
  unfold applySplit at h
  split at h
  · next hnone =>
      simp only [pure_eq_ok] at h
      rw [← h]
      have hlots : side.lotsOf instrumentId = [] := by
        rw [lotsOf, hnone, Option.getD_none]
      refine ⟨?_, fun _ _ => rfl, hopen, rfl, rfl⟩
      rw [hlots]
      simp
  · next lots hsome =>
      have hlots : side.lotsOf instrumentId = lots := by
        rw [lotsOf, hsome, getD_some]
      simp only [bind_eq_ok, pure_eq_ok] at h
      obtain ⟨split, hsplit, rfl⟩ := h
      obtain ⟨hsum, hpositive⟩ :=
        splitLots_ok hsplit hratio (hlots ▸ hopen instrumentId)
      have hlotsOf : ∀ other,
          LotSide.lotsOf { side with
            lots := if split.isEmpty then side.lots.erase instrumentId
              else side.lots.insert instrumentId split } other
            = if instrumentId = other then split else side.lotsOf other := by
        intro other
        simp only [lotsOf]
        split
        · next hempty =>
            rw [getElem?_erase]
            simp only [Std.LawfulEqCmp.compare_eq_iff_eq]
            split
            · rw [List.isEmpty_iff.mp hempty]
              rfl
            · rfl
        · rw [getElem?_insert]
          simp only [Std.LawfulEqCmp.compare_eq_iff_eq]
          split <;> rfl
      refine ⟨?_, ?_, ?_, rfl, rfl⟩
      · rw [hlotsOf, if_pos rfl, hlots, hsum]
      · intro other hother
        rw [hlotsOf, if_neg hother]
      · intro other
        rw [hlotsOf]
        split
        · exact hpositive
        · exact hopen other

end Follon.Accounting
