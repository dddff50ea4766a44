import Follon.Accounting.LotCalls

/-!
# Recovery of a tax lot book

A book that calls have led to is recovered from its snapshot as long as every
instrument it names has a lot.  A closing that takes the last lot of an
instrument leaves the instrument behind without one.
-/

namespace Follon.Accounting

open Foundation Domain

/-! ## The order of lots -/

theorem lotLe_trans {a b c : TaxLot} (hab : lotLe a b) (hbc : lotLe b c) : lotLe a c := by
  cases hab with
  | inl hlt =>
    cases hbc with
    | inl hlt' => exact .inl (lt_trans hlt hlt')
    | inr heq => exact .inl (heq.1 ▸ hlt)
  | inr heq =>
    cases hbc with
    | inl hlt' => exact .inl (heq.1 ▸ hlt')
    | inr heq' => exact .inr ⟨heq.1.trans heq'.1, le_trans heq.2 heq'.2⟩

theorem lotLe_total (a b : TaxLot) : lotLe a b ∨ lotLe b a := by
  cases lt_trichotomy a.openedAt b.openedAt with
  | inl hlt => exact .inl (.inl hlt)
  | inr hrest =>
    cases hrest with
    | inl heq =>
      cases le_total a.lotId b.lotId with
      | inl hle => exact .inl (.inr ⟨heq, hle⟩)
      | inr hle => exact .inr (.inr ⟨heq.symm, hle⟩)
    | inr hlt => exact .inr (.inl hlt)

instance : IsTrans TaxLot lotLe := ⟨fun _ _ _ => lotLe_trans⟩

instance : Std.Total lotLe := ⟨lotLe_total⟩

theorem sortLots_pairwise (lots : List TaxLot) : (sortLots lots).Pairwise lotLe :=
  pairwise_insertionSort lotLe lots

variable {lots : List TaxLot}

theorem sortLots_of_pairwise (h : lots.Pairwise lotLe) : sortLots lots = lots :=
  List.Pairwise.insertionSort_eq h

/-! ## Origins -/

def TaxLot.origin (lot : TaxLot) : TaxLot :=
  { lot with remainingQuantity := Decimal.zero, unitPrice := Decimal.zero }

theorem pairwise_origin : (lots.map TaxLot.origin).Pairwise lotLe ↔ lots.Pairwise lotLe :=
  pairwise_map

theorem map_origin_of_terms {left right : List TaxLot}
    (h : left.map TaxLot.terms = right.map TaxLot.terms) :
    left.map TaxLot.origin = right.map TaxLot.origin := by
  have hmap := congrArg (List.map TaxLot.origin) h
  rw [map_map, map_map] at hmap
  exact hmap

variable {ratio : Decimal} {lots' : List TaxLot}

theorem splitLot_origins {acc acc' : LotSplit}
    (h : lots.foldlM (splitLot ratio) acc = .ok acc') : acc'.split.map TaxLot.origin
        = acc.split.map TaxLot.origin ++ lots.map TaxLot.origin ∧
      ((∀ lot ∈ acc.split, 0 < lot.unitPrice.scaled) →
        ∀ lot ∈ acc'.split, 0 < lot.unitPrice.scaled) := by
  induction lots generalizing acc with
  | nil =>
    simp only [List.foldlM_nil, pure_eq_ok] at h
    rw [← h]
    exact ⟨by simp, id⟩
  | cons lot lots ih =>
    simp only [foldlM_cons, bind_eq_ok] at h
    obtain ⟨next, hnext, hrest⟩ := h
    obtain ⟨quantity, unitPrice, -, -, -, hprice, hsplit⟩ :=
      splitLot_ok hnext
    obtain ⟨horigins, hprices⟩ := ih hrest
    constructor
    · rw [horigins, hsplit, map_append, map_cons, append_assoc]
      rfl
    · intro hacc
      apply hprices
      intro other hother
      rw [hsplit, mem_append, mem_singleton] at hother
      cases hother with
      | inl hold => exact hacc other hold
      | inr heq => exact heq ▸ hprice

theorem addToNewest_origins {shortfall : Decimal}
    (h : addToNewest shortfall lots = .ok lots') :
    lots'.map TaxLot.origin = lots.map TaxLot.origin ∧
      ((∀ lot ∈ lots, 0 < lot.unitPrice.scaled) →
        ∀ lot ∈ lots', 0 < lot.unitPrice.scaled) := by
  induction lots generalizing lots' with
  | nil =>
    obtain rfl := Except.ok.inj h
    exact ⟨rfl, id⟩
  | cons lot rest ih =>
    cases rest with
    | nil =>
      simp only [addToNewest, bind_eq_ok, pure_eq_ok] at h
      obtain ⟨quantity, -, rfl⟩ := h
      constructor
      · rfl
      · intro hlots other hother
        rw [mem_singleton] at hother
        rw [hother]
        exact hlots lot mem_cons_self
    | cons second rest =>
      simp only [addToNewest, bind_eq_ok, pure_eq_ok] at h
      obtain ⟨tail, htail, rfl⟩ := h
      obtain ⟨horigins, hprices⟩ := ih htail
      constructor
      · rw [map_cons, horigins]
        rfl
      · intro hlots
        rw [forall_mem_cons] at hlots ⊢
        exact ⟨hlots.1, hprices hlots.2⟩

theorem retainOpen_origins (lots : List TaxLot) :
    ((retainOpen lots).map TaxLot.origin).Sublist (lots.map TaxLot.origin) :=
  List.filter_sublist.map _

theorem splitLots_origins (h : splitLots lots ratio = .ok lots') :
    (lots'.map TaxLot.origin).Sublist (lots.map TaxLot.origin) ∧
      Positive lots' ∧ ∀ lot ∈ lots', 0 < lot.unitPrice.scaled := by
  simp only [splitLots, bind_eq_ok, refuseIf_eq_ok, exists_const, pure_eq_ok] at h
  obtain ⟨acc, hloop, target, -, shortfall, -, -, split, hsplit, rfl⟩ := h
  obtain ⟨hlooped, hloopPrices⟩ := splitLot_origins hloop
  obtain ⟨hadded, haddedPrices⟩ := addToNewest_origins hsplit
  refine ⟨?_, positive_retainOpen split, ?_⟩
  · have hsub := retainOpen_origins split
    rw [hadded, hlooped] at hsub
    exact hsub
  · intro lot hlot
    exact haddedPrices (hloopPrices (by simp)) lot (mem_filter.mp hlot).1

/-! ## Sound books -/

structure LotSide.Keeps (positivePrice : Bool) (side : LotSide)
    (instrumentId : String) (lot : TaxLot) : Prop where
  lotId : isCanonicalId lot.lotId = true
  bucket : lot.instrumentId = instrumentId
  openedAt : isUtcTimestamp lot.openedAt = true
  quantity : 0 < lot.remainingQuantity.scaled
  price : positivePrice = true → 0 < lot.unitPrice.scaled
  identity : lot.lotId ∈ side.appliedLotIds

structure LotSide.Sound (positivePrice : Bool) (side : LotSide) : Prop where
  sorted : ∀ (instrumentId : String) (lots : List TaxLot),
    side.lots[instrumentId]? = some lots → lots.Pairwise lotLe
  keeps : ∀ (instrumentId : String) (lots : List TaxLot),
    side.lots[instrumentId]? = some lots →
      ∀ lot ∈ lots, side.Keeps positivePrice instrumentId lot

def LotSide.Filled (side : LotSide) : Prop :=
  ∀ instrumentId : String, side.lots[instrumentId]? ≠ some []

namespace LotSide

variable {positivePrice : Bool} {side : LotSide} {instrumentId : String}

theorem sound_empty : LotSide.empty.Sound positivePrice where
  sorted := fun _ _ hfound => by
    contradiction
  keeps := fun _ _ hfound => by
    contradiction

theorem filled_empty : LotSide.empty.Filled := by
  intro instrumentId hfound
  contradiction

theorem Sound.isOpen (h : side.Sound positivePrice) : side.Open := by
  intro instrumentId lot hlot
  unfold lotsOf at hlot
  cases hfound : side.lots[instrumentId]? with
  | none =>
    rw [hfound] at hlot
    exact absurd hlot not_mem_nil
  | some lots =>
    rw [hfound] at hlot
    exact (h.keeps instrumentId lots hfound lot hlot).quantity

theorem Sound.lotsOf_sorted (h : side.Sound positivePrice) (instrumentId : String) :
    (side.lotsOf instrumentId).Pairwise lotLe := by
  unfold lotsOf
  cases hfound : side.lots[instrumentId]? with
  | none => exact .nil
  | some lots => exact h.sorted instrumentId lots hfound

variable {side' : LotSide} {lot : TaxLot} {lots : List TaxLot}
  {ratio : Decimal}

theorem Keeps.of_origin {lot' : TaxLot} (h : side.Keeps positivePrice instrumentId lot)
    (horigin : lot'.origin = lot.origin) (hquantity : 0 < lot'.remainingQuantity.scaled)
    (hprice : positivePrice = true → 0 < lot'.unitPrice.scaled)
    (hids : side'.appliedLotIds = side.appliedLotIds) :
    side'.Keeps positivePrice instrumentId lot' := by
  have hlotId : lot'.lotId = lot.lotId := by
    have hsame := congrArg TaxLot.lotId horigin
    exact hsame
  have hbucket : lot'.instrumentId = lot.instrumentId := by
    have hsame := congrArg TaxLot.instrumentId horigin
    exact hsame
  have hopenedAt : lot'.openedAt = lot.openedAt := by
    have hsame := congrArg TaxLot.openedAt horigin
    exact hsame
  constructor
  · rw [hlotId]
    exact h.lotId
  · rw [hbucket]
    exact h.bucket
  · rw [hopenedAt]
    exact h.openedAt
  · exact hquantity
  · exact hprice
  · rw [hids, hlotId]
    exact h.identity

theorem Sound.replace (h : side.Sound positivePrice) {lots' : List TaxLot}
    (hold : side.lots[instrumentId]? = some lots)
    (horigins : (lots'.map TaxLot.origin).Sublist (lots.map TaxLot.origin))
    (hopen : Positive lots')
    (hprice : positivePrice = true → ∀ lot ∈ lots', 0 < lot.unitPrice.scaled)
    (hids : side'.appliedLotIds = side.appliedLotIds)
    (hlots : ∀ (other : String) (found : List TaxLot),
      side'.lots[other]? = some found → other = instrumentId ∧ found = lots' ∨
          side.lots[other]? = some found) : side'.Sound positivePrice where
  sorted := by
    intro other found hfound
    cases hlots other found hfound with
    | inl hnew =>
      obtain ⟨rfl, rfl⟩ := hnew
      have hsorted := pairwise_origin.mpr (h.sorted other lots hold)
      exact pairwise_origin.mp (hsorted.sublist horigins)
    | inr hkept => exact h.sorted other found hkept
  keeps := by
    intro other found hfound lot hlot
    cases hlots other found hfound with
    | inl hnew =>
      obtain ⟨rfl, rfl⟩ := hnew
      have hmem := horigins.subset (mem_map_of_mem hlot)
      obtain ⟨source, hsource, horigin⟩ := mem_map.mp hmem
      exact (h.keeps other lots hold source hsource).of_origin horigin.symm
        (hopen lot hlot) (fun hpositive => hprice hpositive lot hlot) hids
    | inr hkept =>
      have hkeeps := h.keeps other found hkept lot hlot
      exact hkeeps.of_origin rfl hkeeps.quantity hkeeps.price hids

variable {key other : String} {value found taken : List TaxLot}

theorem getElem?_insert_eq_some {lots : OrderedMap String (List TaxLot)}
    (h : (lots.insert key value)[other]? = some found) :
    other = key ∧ found = value ∨ lots[other]? = some found := by
  by_cases hsame : key = other
  · subst hsame
    rw [getElem?_insert_self] at h
    exact .inl ⟨rfl, (Option.some.inj h).symm⟩
  · rw [getElem?_insert_of_ne _ _ hsame] at h
    exact .inr h

/-! ## Pushes -/

theorem mem_sortLots : lot ∈ sortLots lots ↔ lot ∈ lots := (perm_sortLots lots).mem_iff

theorem Sound.push (h : side.Sound positivePrice) (hid : isCanonicalId lot.lotId = true)
    (hopenedAt : isUtcTimestamp lot.openedAt = true)
    (hquantity : 0 < lot.remainingQuantity.scaled)
    (hprice : positivePrice = true → 0 < lot.unitPrice.scaled) :
    (side.push lot).Sound positivePrice := by
  have hgrown : ∀ {id : String}, id ∈ side.appliedLotIds →
      id ∈ (side.push lot).appliedLotIds := fun hmem =>
    mem_insert.mpr (.inr hmem)
  have hkept : ∀ {other : String} {found : List TaxLot},
      side.lots[other]? = some found → ∀ held ∈ found,
        (side.push lot).Keeps positivePrice other held := by
    intro other found hfound held hheld
    have hkeeps := h.keeps other found hfound held hheld
    exact { hkeeps with identity := hgrown hkeeps.identity }
  constructor
  · intro other found hfound
    cases getElem?_insert_eq_some hfound with
    | inl hnew =>
      rw [hnew.2]
      exact sortLots_pairwise _
    | inr hold => exact h.sorted other found hold
  · intro other found hfound held hheld
    cases getElem?_insert_eq_some hfound with
    | inr hold => exact hkept hold held hheld
    | inl hnew =>
      obtain ⟨rfl, rfl⟩ := hnew
      rw [mem_sortLots, mem_append, mem_singleton] at hheld
      cases hheld with
      | inr heq =>
        subst heq
        exact ⟨hid, rfl, hopenedAt, hquantity, hprice, mem_insert_self⟩
      | inl hold =>
        unfold lotsOf at hold
        cases hfound : side.lots[lot.instrumentId]? with
        | none =>
          rw [hfound] at hold
          exact absurd hold not_mem_nil
        | some lots =>
          rw [hfound] at hold
          exact hkept hfound held hold

theorem Filled.push (h : side.Filled) (lot : TaxLot) : (side.push lot).Filled := by
  intro other hfound
  cases getElem?_insert_eq_some hfound with
  | inr hold => exact h other hold
  | inl hnew =>
    have hlength := congrArg List.length hnew.2
    rw [(perm_sortLots _).length_eq, length_append] at hlength
    simp at hlength

/-! ## Closings -/

theorem Sound.store (h : side.Sound positivePrice)
    (hold : side.lots[instrumentId]? = some lots)
    (hterms : taken.map TaxLot.terms = lots.map TaxLot.terms) (closeId : String) :
    (side.store closeId instrumentId (retainOpen taken)).Sound
      positivePrice := by
  have horigins := retainOpen_origins taken
  rw [map_origin_of_terms hterms] at horigins
  refine h.replace hold horigins (positive_retainOpen taken) ?_ rfl
    fun other found hfound => getElem?_insert_eq_some hfound
  · intro hpositive lot hlot
    have hmem : lot.terms ∈ lots.map TaxLot.terms := by
      rw [← hterms]
      exact mem_map_of_mem (mem_filter.mp hlot).1
    obtain ⟨source, hsource, hsame⟩ := mem_map.mp hmem
    have hprice : source.unitPrice = lot.unitPrice := by
      have hterm := congrArg TaxLot.unitPrice hsame
      exact hterm
    rw [← hprice]
    exact (h.keeps instrumentId lots hold source hsource).price hpositive

theorem Filled.store (h : side.Filled)
    (hnonneg : ∀ lot ∈ taken, 0 ≤ lot.remainingQuantity.scaled)
    (hleft : lotQuantity taken ≠ 0) (closeId : String) :
    (side.store closeId instrumentId (retainOpen taken)).Filled := by
  intro other hfound
  cases getElem?_insert_eq_some hfound with
  | inr hold => exact h other hold
  | inl hnew =>
    have hquantity := lotQuantity_retainOpen hnonneg
    rw [← hnew.2, lotQuantity_nil] at hquantity
    exact hleft hquantity.symm

/-! ## Splits -/

theorem applySplit_lots (h : side.applySplit instrumentId ratio = .ok side') :
    side' = side ∨ ∃ lots split, side.lots[instrumentId]? = some lots ∧
      splitLots lots ratio = .ok split ∧
      side' = { side with
        lots := if split.isEmpty then side.lots.erase instrumentId
          else side.lots.insert instrumentId split } := by
  unfold applySplit at h
  split at h
  · exact .inl (Except.ok.inj h).symm
  · next lots hlots =>
      rw [bind_eq_ok] at h
      obtain ⟨split, hsplit, hside⟩ := h
      exact .inr ⟨lots, split, hlots, hsplit, (Except.ok.inj hside).symm⟩

theorem getElem?_split_eq_some {lots : OrderedMap String (List TaxLot)}
    (h : (if value.isEmpty then lots.erase key
      else lots.insert key value)[other]? = some found) :
    other = key ∧ found = value ∧ value ≠ [] ∨ lots[other]? = some found := by
  split at h
  · rw [getElem?_erase] at h
    split at h
    · contradiction
    · exact .inr h
  · next hempty =>
      rw [List.isEmpty_iff] at hempty
      cases getElem?_insert_eq_some h with
      | inl hnew => exact .inl ⟨hnew.1, hnew.2, hempty⟩
      | inr hold => exact .inr hold

theorem Sound.applySplit (h : side.Sound positivePrice)
    (hsplit : side.applySplit instrumentId ratio = .ok side') :
    side'.Sound positivePrice := by
  cases applySplit_lots hsplit with
  | inl hsame => exact hsame ▸ h
  | inr hnew =>
    obtain ⟨lots, split, hold, hlots, rfl⟩ := hnew
    obtain ⟨horigins, hopen, hprices⟩ := splitLots_origins hlots
    refine h.replace hold horigins hopen (fun _ => hprices) rfl ?_
    intro other found hfound
    cases getElem?_split_eq_some hfound with
    | inl hnew => exact .inl ⟨hnew.1, hnew.2.1⟩
    | inr hkept => exact .inr hkept

theorem Filled.applySplit (h : side.Filled)
    (hsplit : side.applySplit instrumentId ratio = .ok side') : side'.Filled := by
  cases applySplit_lots hsplit with
  | inl hsame => exact hsame ▸ h
  | inr hnew =>
    obtain ⟨lots, split, hold, hlots, rfl⟩ := hnew
    intro other hfound
    cases getElem?_split_eq_some hfound with
    | inl hnew => exact hnew.2.2 hnew.2.1.symm
    | inr hkept => exact h other hkept

/-! ## Recovery -/

theorem recoverSide_eq_ok {texts : TaxLotBook.RecoverTexts}
    (h : side.Sound positivePrice) :
    TaxLotBook.recoverSide texts positivePrice side = .ok () ↔
      side.Filled := by
  unfold TaxLotBook.recoverSide
  rw [checkAll_eq_ok]
  constructor
  · intro hall instrumentId hfound
    have hbucket := hall (instrumentId, [])
      (mem_toList_iff_getElem?_eq_some.mpr hfound)
    simp only [TaxLotBook.recoverBucket, bind_eq_ok, refuseIf_eq_ok] at hbucket
    obtain ⟨_, hne, _⟩ := hbucket
    exact hne trivial
  · intro hfilled bucket hmem
    have hfound := mem_toList_iff_getElem?_eq_some.mp hmem
    have hne : bucket.2 ≠ [] := by
      intro hnil
      rw [hnil] at hfound
      exact hfilled bucket.1 hfound
    have hsorted := sortLots_of_pairwise (h.sorted bucket.1 bucket.2 hfound)
    simp only [TaxLotBook.recoverBucket, bind_eq_ok, refuseIf_eq_ok, checkAll_eq_ok]
    refine ⟨(), hne, (), not_not.mpr hsorted, ?_⟩
    intro lot hlot
    have hkeeps := h.keeps bucket.1 bucket.2 hfound lot hlot
    simp only [TaxLotBook.recoverLot, bind_eq_ok, refuseIf_eq_ok,
      validateCanonicalId_eq_ok, validateUtcTimestamp_eq_ok, le_def, scaled_zero]
    have heconomics : ¬(lot.remainingQuantity.scaled ≤ 0 ∨
        positivePrice = true ∧ lot.unitPrice.scaled ≤ 0) := by
      rintro (hquantity | ⟨hpositive, hprice⟩)
      · have := hkeeps.quantity
        omega
      · have := hkeeps.price hpositive
        omega
    exact ⟨(), hkeeps.lotId, (), not_not.mpr hkeeps.bucket, (),
      hkeeps.openedAt, (), heconomics, not_not.mpr hkeeps.identity⟩

end LotSide

/-! ## Runs -/

theorem LotSide.close_found {texts : CloseTexts} {side : LotSide}
    {closeId instrumentId occurredAt : String} {currency : Currency}
    {quantity unitPrice fee : Decimal} {selection : TaxLotSelection} {taking : LotTaking}
    (h : side.close texts closeId instrumentId currency quantity unitPrice fee
      occurredAt selection = .ok (some taking)) :
    ∃ lots available, side.lots[instrumentId]? = some lots ∧
      openQuantity lots = .ok available := by
  simp only [close, bind_eq_ok, refuseIf_eq_ok, exists_const] at h
  obtain ⟨_, -, _, -, _, -, -, h⟩ := h
  split at h
  · simp [pure, Except.pure] at h
  · split at h
    · contradiction
    · next existing hexisting =>
        simp only [bind_eq_ok] at h
        obtain ⟨_, -, available, havailable, -⟩ := h
        exact ⟨existing, available, hexisting, havailable⟩

namespace TaxLotBook

structure Sound (book : TaxLotBook) : Prop where
  long : book.long.Sound true
  short : book.short.Sound false

structure Filled (book : TaxLotBook) : Prop where
  long : book.long.Filled
  short : book.short.Filled

variable {book : TaxLotBook} {closing : Closing} {P : TaxLotBook → Prop}

theorem sound_empty : TaxLotBook.empty.Sound := ⟨LotSide.sound_empty, LotSide.sound_empty⟩

theorem filled_empty : TaxLotBook.empty.Filled :=
  ⟨LotSide.filled_empty, LotSide.filled_empty⟩

theorem recover_snapshot_eq_ok (h : book.Sound) :
    recover book.snapshot = .ok book ↔ book.Filled := by
  unfold recover
  simp only [bind_eq_ok]
  constructor
  · rintro ⟨_, hlong, _, hshort, _⟩
    exact ⟨(LotSide.recoverSide_eq_ok h.long).mp hlong,
      (LotSide.recoverSide_eq_ok h.short).mp hshort⟩
  · intro hfilled
    exact ⟨(), (LotSide.recoverSide_eq_ok h.long).mpr hfilled.long, (),
      (LotSide.recoverSide_eq_ok h.short).mpr hfilled.short, rfl⟩

theorem final_dispose (hsame : P book) (hstored : ∀ taking realizedByCurrency profit,
      closing.close disposalTexts book.long = .ok (some taking) →
      closing.disposalProfit book = .ok profit →
      P { long := book.long.store closing.closeId closing.instrumentId
            (retainOpen taking.projected)
          short := book.short
          realizedByCurrency }) :
    P (closing.dispose.final book) := by
  unfold Closing.dispose dispose
  rw [final_read_bind]
  apply final_lift_bind _ hsame
  intro taken htaken
  cases taken with
  | none => exact hsame
  | some taking =>
    apply final_lift_bind _ hsame
    intro gross hgross
    apply final_lift_bind _ hsame
    intro gain hgain
    apply final_lift_bind _ hsame
    intro profit hprofit
    have hdisposal : closing.disposalProfit book = .ok profit := by
      unfold Closing.disposalProfit disposalProfit
      exact bind_eq_ok.mpr ⟨some taking, htaken, bind_eq_ok.mpr ⟨gross, hgross,
          bind_eq_ok.mpr ⟨gain, hgain, hprofit⟩⟩⟩
    rw [final_update_bind]
    apply final_bind
    · intro _ stored hrealize
      obtain ⟨total, rfl⟩ := realize_ok hrealize
      exact hstored taking _ profit htaken hdisposal
    · intro e stored hrealize
      unfold realize at hrealize
      simp only [run_read_bind,
        run_lift_bind_eq_error] at hrealize
      obtain ⟨_, rfl⟩ | ⟨_, _, hdone⟩ := hrealize
      · exact hstored taking _ profit htaken hdisposal
      · simp at hdone

theorem final_cover (hsame : P book) (hstored : ∀ taking realizedByCurrency profit,
      closing.close coverTexts book.short = .ok (some taking) →
      closing.coverProfit book = .ok profit →
      P { long := book.long
          short := book.short.store closing.closeId closing.instrumentId
            (retainOpen taking.projected)
          realizedByCurrency }) :
    P (closing.cover.final book) := by
  unfold Closing.cover cover
  rw [final_read_bind]
  apply final_lift_bind _ hsame
  intro taken htaken
  cases taken with
  | none => exact hsame
  | some taking =>
    apply final_lift_bind _ hsame
    intro cost hcost
    apply final_lift_bind _ hsame
    intro gain hgain
    apply final_lift_bind _ hsame
    intro profit hprofit
    have hcover : closing.coverProfit book = .ok profit := by
      unfold Closing.coverProfit coverProfit
      exact bind_eq_ok.mpr ⟨some taking, htaken, bind_eq_ok.mpr ⟨cost, hcost,
          bind_eq_ok.mpr ⟨gain, hgain, hprofit⟩⟩⟩
    rw [final_update_bind]
    apply final_bind
    · intro _ stored hrealize
      obtain ⟨total, rfl⟩ := realize_ok hrealize
      exact hstored taking _ profit htaken hcover
    · intro e stored hrealize
      unfold realize at hrealize
      simp only [run_read_bind,
        run_lift_bind_eq_error] at hrealize
      obtain ⟨_, rfl⟩ | ⟨_, _, hdone⟩ := hrealize
      · exact hstored taking _ profit htaken hcover
      · simp at hdone

theorem final_acquire {lot : TaxLot} (hsame : P book)
    (hpushed : isCanonicalId lot.lotId = true →
      isUtcTimestamp lot.openedAt = true → 0 < lot.remainingQuantity.scaled →
      0 < lot.unitPrice.scaled → P { book with long := book.long.push lot }) :
    P ((acquire lot).final book) := by
  unfold acquire
  rw [final_read_bind]
  apply final_lift_bind _ hsame
  intro _ hid
  apply final_lift_bind _ hsame
  intro _ _
  apply final_lift_bind _ hsame
  intro _ hopenedAt
  apply final_lift_bind _ hsame
  intro _ heconomics
  simp only [refuseIf_eq_ok, not_or, le_def, scaled_zero,
    not_le] at heconomics
  split
  · exact hsame
  · exact hpushed (validateCanonicalId_eq_ok.mp hid)
      (validateUtcTimestamp_eq_ok.mp hopenedAt) heconomics.1 heconomics.2

theorem final_openShort {lot : ShortTaxLot} (hsame : P book)
    (hpushed : isCanonicalId lot.lotId = true →
      isUtcTimestamp lot.openedAt = true → 0 < lot.remainingQuantity.scaled →
      P { book with short := book.short.push lot }) :
    P ((openShort lot).final book) := by
  unfold openShort
  rw [final_read_bind]
  apply final_lift_bind _ hsame
  intro _ hid
  apply final_lift_bind _ hsame
  intro _ _
  apply final_lift_bind _ hsame
  intro _ hopenedAt
  apply final_lift_bind _ hsame
  intro _ heconomics
  simp only [refuseIf_eq_ok, le_def, scaled_zero,
    not_le] at heconomics
  split
  · exact hsame
  · exact hpushed (validateCanonicalId_eq_ok.mp hid)
      (validateUtcTimestamp_eq_ok.mp hopenedAt) heconomics

theorem applySplit_eq_ok {book' : TaxLotBook} {instrumentId : String}
    {ratio : Decimal} (h : book.applySplit instrumentId ratio = .ok book') :
    0 < ratio.scaled ∧ book.long.applySplit instrumentId ratio = .ok book'.long ∧
      book.short.applySplit instrumentId ratio = .ok book'.short := by
  simp only [applySplit, bind_eq_ok, refuseIf_eq_ok, le_def,
    scaled_zero, not_le] at h
  obtain ⟨_, _, _, hratio, long, hlong, short, hshort, hbook⟩ := h
  obtain rfl := Except.ok.inj hbook
  exact ⟨hratio, hlong, hshort⟩

end TaxLotBook

namespace LotCall

open TaxLotBook

variable {book book' : TaxLotBook}

def Exhausts (book : TaxLotBook) : LotCall → Prop
  | .dispose closing =>
    closing.closeId ∉ book.long.appliedCloseIds ∧
      (∃ profit, closing.disposalProfit book = .ok profit) ∧
      openQuantity (book.lots closing.instrumentId) = .ok closing.quantity
  | .cover closing =>
    closing.closeId ∉ book.short.appliedCloseIds ∧
      (∃ profit, closing.coverProfit book = .ok profit) ∧
      openQuantity (book.shortLots closing.instrumentId) = .ok closing.quantity
  | _ => False

def Step (book book' : TaxLotBook) : Prop :=
  ∃ call : LotCall, book' = (call.perform book).2

def KeepingStep (book book' : TaxLotBook) : Prop :=
  ∃ call : LotCall, ¬call.Exhausts book ∧ book' = (call.perform book).2

theorem perform_applySplit {P : TaxLotBook → Prop} {instrumentId : String}
    {ratio : Decimal} (hsame : P book)
    (hsplit : ∀ split, book.applySplit instrumentId ratio = .ok split →
      P split) : P ((LotCall.applySplit instrumentId ratio).perform book).2 := by
  simp only [perform]
  split
  · next split hok => exact hsplit split hok
  · exact hsame

theorem Step.sound (h : Step book book') (hsound : book.Sound) : book'.Sound := by
  obtain ⟨call, rfl⟩ := h
  cases call with
  | acquire lot =>
    apply final_acquire hsound
    intro hid hopenedAt hquantity hprice
    exact ⟨hsound.long.push hid hopenedAt hquantity fun _ => hprice,
      hsound.short⟩
  | openShort lot =>
    apply final_openShort hsound
    intro hid hopenedAt hquantity
    exact ⟨hsound.long, hsound.short.push hid hopenedAt hquantity nofun⟩
  | dispose closing =>
    apply final_dispose hsound
    intro taking realized profit hclose _
    obtain ⟨lots, _, hlots, _⟩ := LotSide.close_found hclose
    obtain ⟨hterms, _, _⟩ :=
      LotSide.close_eq_some hclose (hsound.long.isOpen _)
    have hlotsOf : book.long.lotsOf closing.instrumentId = lots := by
      rw [LotSide.lotsOf, hlots, getD_some]
    rw [hlotsOf] at hterms
    exact ⟨hsound.long.store hlots hterms _, hsound.short⟩
  | cover closing =>
    apply final_cover hsound
    intro taking realized profit hclose _
    obtain ⟨lots, _, hlots, _⟩ := LotSide.close_found hclose
    obtain ⟨hterms, _, _⟩ :=
      LotSide.close_eq_some hclose (hsound.short.isOpen _)
    have hlotsOf : book.short.lotsOf closing.instrumentId = lots := by
      rw [LotSide.lotsOf, hlots, getD_some]
    rw [hlotsOf] at hterms
    exact ⟨hsound.long, hsound.short.store hlots hterms _⟩
  | applySplit instrumentId ratio =>
    apply perform_applySplit hsound
    intro split hsplit
    obtain ⟨_, hlong, hshort⟩ := applySplit_eq_ok hsplit
    exact ⟨hsound.long.applySplit hlong, hsound.short.applySplit hshort⟩

theorem lotQuantity_left {side : LotSide} {texts : LotSide.CloseTexts}
    {closing : Closing} {taking : LotTaking}
    (hopen : side.Open) (h : closing.close texts side = .ok (some taking))
    (hsome : openQuantity (side.lotsOf closing.instrumentId)
      ≠ .ok closing.quantity) : lotQuantity taking.projected ≠ 0 := by
  intro hzero
  obtain ⟨lots, available, hlots, havailable⟩ := LotSide.close_found h
  obtain ⟨_, hbalance, _⟩ := LotSide.close_eq_some h (hopen _)
  have hlotsOf : side.lotsOf closing.instrumentId = lots := by
    rw [LotSide.lotsOf, hlots, getD_some]
  have hscaled := scaled_of_openQuantity havailable
  rw [hlotsOf] at hbalance hsome
  have hall : available = closing.quantity := by
    apply scaled_inj.mp
    omega
  rw [hall] at havailable
  exact hsome havailable

theorem KeepingStep.filled (h : KeepingStep book book') (hsound : book.Sound)
    (hfilled : book.Filled) : book'.Filled := by
  obtain ⟨call, hkeeps, rfl⟩ := h
  cases call with
  | acquire lot =>
    apply final_acquire hfilled
    intro _ _ _ _
    exact ⟨hfilled.long.push lot, hfilled.short⟩
  | openShort lot =>
    apply final_openShort hfilled
    intro _ _ _
    exact ⟨hfilled.long, hfilled.short.push lot⟩
  | dispose closing =>
    apply final_dispose hfilled
    intro taking realized profit hclose hprofit
    obtain ⟨_, _, hnonneg⟩ :=
      LotSide.close_eq_some hclose (hsound.long.isOpen _)
    have hleft := lotQuantity_left hsound.long.isOpen hclose
      fun hall => hkeeps ⟨LotSide.close_new hclose, ⟨profit, hprofit⟩, hall⟩
    exact ⟨hfilled.long.store hnonneg hleft _, hfilled.short⟩
  | cover closing =>
    apply final_cover hfilled
    intro taking realized profit hclose hprofit
    obtain ⟨_, _, hnonneg⟩ :=
      LotSide.close_eq_some hclose (hsound.short.isOpen _)
    have hleft := lotQuantity_left hsound.short.isOpen hclose
      fun hall => hkeeps ⟨LotSide.close_new hclose, ⟨profit, hprofit⟩, hall⟩
    exact ⟨hfilled.long, hfilled.short.store hnonneg hleft _⟩
  | applySplit instrumentId ratio =>
    apply perform_applySplit hfilled
    intro split hsplit
    obtain ⟨_, hlong, hshort⟩ := applySplit_eq_ok hsplit
    exact ⟨hfilled.long.applySplit hlong, hfilled.short.applySplit hshort⟩

theorem sound_of_run (h : Reachable (· = TaxLotBook.empty) Step book) : book.Sound := by
  apply h.invariant
  · rintro _ rfl
    exact sound_empty
  · exact fun _ _ _ hsound hstep => hstep.sound hsound

theorem KeepingStep.step (h : KeepingStep book book') : Step book book' := by
  obtain ⟨call, _, hbook⟩ := h
  exact ⟨call, hbook⟩

end LotCall

/-- In every run whose calls leave a lot of every instrument they close, the
book is recovered from its snapshot. -/
theorem snapshot_recovers_of_keeping_run {book : TaxLotBook}
    (h : Reachable (· = TaxLotBook.empty) LotCall.KeepingStep book) :
    TaxLotBook.recover book.snapshot = .ok book := by
  have hkept : book.Sound ∧ book.Filled := by
    apply h.invariant
    · rintro _ rfl
      exact ⟨TaxLotBook.sound_empty, TaxLotBook.filled_empty⟩
    · intro book book' _ hkept hstep
      exact ⟨hstep.step.sound hkept.1, hstep.filled hkept.1 hkept.2⟩
  exact (TaxLotBook.recover_snapshot_eq_ok hkept.1).mpr hkept.2

namespace LotRecoveryRun

open LotCallRun

def acquired : TaxLotBook := ((LotCall.acquire lot).perform TaxLotBook.empty).2

theorem acquired_recovers : TaxLotBook.recover acquired.snapshot = .ok acquired :=
  snapshot_recovers_of_keeping_run
    (.step (.init rfl) ⟨.acquire lot, not_false, rfl⟩)

def sold : TaxLotBook := ((LotCall.dispose sale).perform acquired).2

theorem sold_refused : Reachable (· = TaxLotBook.empty) LotCall.Step sold ∧
      TaxLotBook.recover sold.snapshot ≠ .ok sold := by
  constructor
  · exact .step (.step (.init rfl) ⟨.acquire lot, rfl⟩) ⟨.dispose sale, rfl⟩
  · intro hrecover
    have hrefused : (TaxLotBook.recover sold.snapshot).toOption.isSome
        = false := by
      decide
    rw [hrecover] at hrefused
    contradiction

end LotRecoveryRun

end Follon.Accounting
