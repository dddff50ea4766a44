import Follon.Execution.Routing
import Follon.Foundation.TiedFills
import Mathlib.Data.Prod.Lex

/-!
# Routed rows

When every price with its fee can be represented the comparison is the order of
a key, and the router fills the parent from the quotes in that order.
-/

namespace Follon.Execution

open Foundation Domain

/-! ## The key of a quote -/

def unitValue (side : Side) (quote : VenueQuote) : Int :=
  match side with
  | .buy => -(quote.price.scaled + quote.feePerUnit.scaled)
  | .sell => quote.price.scaled - quote.feePerUnit.scaled

abbrev QuoteKey : Type :=
  Int ×ₗ Nat ×ₗ String ×ₗ Int

def quoteKey (side : Side) (quote : VenueQuote) : QuoteKey :=
  toLex (-unitValue side quote, toLex (quote.latencyRank,
    toLex (quote.venue, -quote.availableQuantity.scaled)))

def AllInFits (side : Side) (quotes : List VenueQuote) : Prop :=
  ∀ quote ∈ quotes, ∃ price, allInPrice side quote = .ok price

theorem compare_neg (a b : Int) : compare (-a) (-b) = compare b a := by
  rcases lt_trichotomy a b with h | rfl | h
  · rw [compare_gt_iff_gt.mpr h, compare_gt_iff_gt.mpr (by omega)]
  · rw [compare_eq_iff_eq.mpr rfl, compare_eq_iff_eq.mpr rfl]
  · rw [compare_lt_iff_lt.mpr h, compare_lt_iff_lt.mpr (by omega)]

variable {side : Side} {left right : VenueQuote} {quotes : List VenueQuote}
  {parent : ParentOrder}

theorem comparePrices_eq (hleft : ∃ price, allInPrice side left = .ok price)
    (hright : ∃ price, allInPrice side right = .ok price) : comparePrices side left right
      = compare (-unitValue side left) (-unitValue side right) := by
  obtain ⟨leftPrice, hleft⟩ := hleft
  obtain ⟨rightPrice, hright⟩ := hright
  unfold comparePrices
  cases side with
  | buy =>
    simp only [hleft, hright]
    simp only [allInPrice, checkedAdd_eq_ok] at hleft hright
    simp [unitValue, hleft, hright]
  | sell =>
    simp only [hleft, hright]
    simp only [allInPrice, checkedSub_eq_ok] at hleft hright
    rw [compare_neg, hleft, hright, unitValue, unitValue]

theorem notAfter_iff (hleft : ∃ price, allInPrice side left = .ok price)
    (hright : ∃ price, allInPrice side right = .ok price) :
    NotAfter side left right ↔ ByKey (quoteKey side) left right := by
  simp only [NotAfter, compareQuotes, comparePrices_eq hleft hright,
    Ordering.isLE_then_iff_or, ByKey, quoteKey, Prod.Lex.toLex_le_toLex,
    compare_lt_iff_lt, compare_eq_iff_eq, Std.LawfulBCmp.isLE_iff_le, neg_le_neg_iff]

theorem ordered_eq (h : AllInFits side quotes) :
    ordered side quotes = quotes.insertionSort (ByKey (quoteKey side)) := by
  have hsame := List.map_insertionSort (NotAfter side) (ByKey (quoteKey side))
    id quotes fun a ha b hb => notAfter_iff (h a ha) (h b hb)
  rwa [List.map_id, List.map_id] at hsame

/-! ## What a quote gives -/

def offeredSize (parent : ParentOrder) (quote : VenueQuote) : Int :=
  if isWithinLimit parent quote then max quote.availableQuantity.scaled 0 else 0

theorem offeredSize_nonneg (parent : ParentOrder) (quote : VenueQuote) :
    0 ≤ offeredSize parent quote := by
  unfold offeredSize
  split <;> omega

theorem quoteKey_inj (h : quoteKey side left = quoteKey side right) :
    unitValue side left = unitValue side right
      ∧ left.latencyRank = right.latencyRank ∧ left.venue = right.venue
      ∧ left.availableQuantity.scaled = right.availableQuantity.scaled := by
  simp only [quoteKey, EmbeddingLike.apply_eq_iff_eq, Prod.mk.injEq,
    neg_inj] at h
  exact h

theorem gives_offeredSize (parent : ParentOrder) :
    Gives (quoteKey parent.side) (isWithinLimit parent)
      (capped (offeredSize parent)) where
  nonneg quote left hleft := le_min (offeredSize_nonneg parent quote) hleft
  le _ _ _ := min_le_right _ _
  closed quote left hleft hclosed := by
    rw [capped, offeredSize, hclosed]
    exact min_eq_left hleft
  tied quote other left hquote hother hkey := by
    rw [capped, capped, offeredSize, offeredSize, hquote, hother,
      (quoteKey_inj hkey).2.2.2]
  mono quote left more hleft hmore hgives := by
    simp only [capped] at hgives ⊢
    omega

/-! ## Children of rows -/

def decimalOf (value : Int) : Decimal := (Decimal.ofScaled? value).getD Decimal.zero

theorem decimalOf_eq {value : Int} {d : Decimal} (h : d.scaled = value) :
    decimalOf value = d := by
  rw [decimalOf, Decimal.ofScaled?_eq_some.mpr h]
  rfl

def rowChildren (parent : ParentOrder) (index : Nat)
    (rows : List (VenueQuote × Int)) : List ChildInstruction :=
  rows.mapIdx fun later row =>
    routeChild parent (later + index) row.1 (decimalOf row.2)

theorem rowChildren_cons (parent : ParentOrder) (index : Nat)
    (row : VenueQuote × Int) (rows : List (VenueQuote × Int)) :
    rowChildren parent index (row :: rows)
      = routeChild parent index row.1 (decimalOf row.2)
        :: rowChildren parent (index + 1) rows := by
  simp [rowChildren, List.mapIdx_cons, Nat.add_comm, Nat.add_left_comm]

variable {index : Nat} {quote : VenueQuote} {rows : List (VenueQuote × Int)}

theorem routeQuotes_eq {remaining : Decimal}
    (hquotes : ∀ quote ∈ quotes, 0 < quote.availableQuantity.scaled)
    (hremaining : 0 ≤ remaining.scaled) : routeQuotes parent quotes index remaining
      = .ok (rowChildren parent index (taken (capped (offeredSize parent))
            remaining.scaled quotes),
          decimalOf (leftover (capped (offeredSize parent)) remaining.scaled
            quotes)) := by
  induction quotes generalizing index remaining with
  | nil =>
    rw [routeQuotes, taken_nil, leftover_nil, decimalOf_eq rfl]
    rfl
  | cons quote rest ih =>
    obtain ⟨hquote, hrest⟩ := forall_mem_cons.mp hquotes
    rw [routeQuotes]
    split
    · next hzero =>
      obtain ⟨hnone, hleft⟩ :=
        (gives_offeredSize parent).taken_zero (quote :: rest)
      rw [hzero, scaled_zero, hnone, hleft]
      rfl
    · next hsome =>
      have hpositive : 0 < remaining.scaled := by
        apply lt_of_le_of_ne hremaining
        exact fun hsame => hsome (Decimal.ext hsame.symm)
      split
      · next hwithin =>
        have hscaled : (quote.availableQuantity.min remaining).scaled
            = capped (offeredSize parent) quote remaining.scaled := by
          rw [scaled_min, capped, offeredSize, if_pos hwithin, max_eq_left hquote.le]
        have hgives : 0 < capped (offeredSize parent) quote
            remaining.scaled := by
          rw [← hscaled, scaled_min]
          exact lt_min hquote hpositive
        have hle := (gives_offeredSize parent).le quote
          remaining.scaled hremaining
        have hmax := remaining.le_max
        have hmin : i128Min ≤ 0 := by decide
        let left : Decimal :=
          ⟨remaining.scaled - capped (offeredSize parent) quote
            remaining.scaled, by omega, by omega⟩
        have hleft : left.scaled = remaining.scaled
            - capped (offeredSize parent) quote remaining.scaled := rfl
        rw [taken_cons, if_pos hgives, leftover_cons, ← hleft]
        simp only [bind_eq_ok, checkedSub_eq_ok, Prod.exists]
        refine ⟨left, by rw [hscaled], _, _, ih hrest (by omega), ?_⟩
        rw [rowChildren_cons, decimalOf_eq hscaled]
        rfl
      · next hclosed =>
        have hamount := (gives_offeredSize parent).closed quote
          remaining.scaled hremaining (by simpa using hclosed)
        rw [taken_cons, leftover_cons, hamount, Int.sub_zero, ih hrest hremaining]
        simp

/-! ## The plan of some rows -/

structure VenueQuote.Valid (quote : VenueQuote) : Prop where
  venue : isCanonicalId quote.venue = true
  availableQuantity : 0 < quote.availableQuantity.scaled
  price : 0 < quote.price.scaled
  feePerUnit : 0 ≤ quote.feePerUnit.scaled

theorem validateQuote_eq_ok {u : Unit} : validateQuote quote = .ok u ↔ quote.Valid := by
  simp only [validateQuote, bind_eq_ok, validateCanonicalId_eq_ok, refuseIf_eq_ok,
    not_or, le_def, lt_def, scaled_zero, Int.not_le, Int.not_lt]
  constructor
  · rintro ⟨-, hvenue, havailable, hprice, hfee⟩
    exact ⟨hvenue, havailable, hprice, hfee⟩
  · rintro ⟨hvenue, havailable, hprice, hfee⟩
    exact ⟨(), hvenue, havailable, hprice, hfee⟩

def routePlan (parent : ParentOrder) (rows : List (VenueQuote × Int))
    (left : Int) : ExecutionPlan where
  parentOrderId := parent.parentOrderId
  algorithm := "smart-router-v1"
  children := rowChildren parent 0 rows
  unallocatedQuantity := decimalOf left

theorem scaled_decimalOf {value : Int} {bound : Decimal} (hnonneg : 0 ≤ value)
    (hbound : value ≤ bound.scaled) : (decimalOf value).scaled = value := by
  have hmax := bound.le_max
  have hmin : i128Min ≤ 0 := by decide
  rw [@decimalOf_eq value ⟨value, by omega, by omega⟩ rfl]

def Routable (parent : ParentOrder) (rows : List (VenueQuote × Int)) : Prop :=
  ∀ row ∈ rows, row.1.Valid ∧ 0 < row.2 ∧ row.2 ≤ parent.quantity.scaled

theorem scheduled_rowChildren (h : Routable parent rows) :
    scheduled (rowChildren parent index rows) = filled rows := by
  induction rows generalizing index with
  | nil => rfl
  | cons row rest ih =>
    obtain ⟨⟨-, hpositive, hbound⟩, hrest⟩ := forall_mem_cons.mp h
    rw [rowChildren_cons, scheduled_cons, filled_cons, ih hrest]
    simp [routeChild, scaled_decimalOf hpositive.le hbound]

theorem routePlan_accepted {left : Int} (hparent : parent.Valid)
    (hrows : Routable parent rows) (hleft : 0 ≤ left)
    (hsum : filled rows + left = parent.quantity.scaled) :
    (routePlan parent rows left).Accepted parent := by
  have hnonneg : 0 ≤ filled rows := filled_nonneg fun row hrow => (hrows row hrow).2.1.le
  have hscaled : (decimalOf left).scaled = left :=
    scaled_decimalOf hleft (show left ≤ parent.quantity.scaled by omega)
  refine ⟨rfl, by simp [routePlan], ?_, ?_, ?_, ?_⟩
  · rw [routePlan, hscaled]
    exact hleft
  · intro child hchild
    simp only [routePlan, rowChildren, List.mem_mapIdx] at hchild
    obtain ⟨position, hposition, rfl⟩ := hchild
    obtain ⟨hvalid, hpositive, hbound⟩ := hrows _ (List.getElem_mem hposition)
    refine ⟨isCanonicalId_numbered 4 _ hparent.parentOrderId (by decide),
      ?_, ?_, rfl⟩
    · simpa [routeChild, scaled_decimalOf hpositive.le hbound] using hpositive
    · have := hvalid.price
      simp [routeChild, isNonpositive, le_def]
      omega
  · have hzero : offsets (rowChildren parent 0 rows)
        = List.replicate rows.length 0 := by
      apply List.ext_getElem <;> simp [offsets, rowChildren, routeChild]
    rw [routePlan, hzero]
    exact List.pairwise_replicate.mpr (.inr (Nat.le_refl 0))
  · rw [routePlan, scheduled_rowChildren hrows, hscaled]
    exact hsum

/-! ## The router -/

structure RouteInputs (parent : ParentOrder) (quotes : List VenueQuote) :
    Prop where
  parent : parent.Valid
  count : ¬(quotes.isEmpty = true ∨ 1000 < quotes.length)
  quotes : ∀ quote ∈ quotes, quote.Valid

theorem RouteInputs.perm {others : List VenueQuote}
    (h : RouteInputs parent quotes) (hperm : quotes.Perm others) :
    RouteInputs parent others where
  parent := h.parent
  count := by
    have hcount := h.count
    rwa [hperm.length_eq, hperm.isEmpty_eq] at hcount
  quotes quote hquote := h.quotes quote (hperm.mem_iff.mpr hquote)

theorem mem_ordered : quote ∈ ordered side quotes ↔ quote ∈ quotes :=
  List.mem_insertionSort _

def routedRows (amount : VenueQuote → Int → Int) (parent : ParentOrder)
    (quotes : List VenueQuote) : List (VenueQuote × Int) :=
  taken amount parent.quantity.scaled (ordered parent.side quotes)

def routedLeft (amount : VenueQuote → Int → Int) (parent : ParentOrder)
    (quotes : List VenueQuote) : Int :=
  leftover amount parent.quantity.scaled (ordered parent.side quotes)

theorem routed_accepted {amount : VenueQuote → Int → Int}
    (hgives : Gives (quoteKey parent.side) (isWithinLimit parent) amount)
    (h : RouteInputs parent quotes) : (routePlan parent (routedRows amount parent quotes)
      (routedLeft amount parent quotes)).Accepted parent := by
  have hquantity := h.parent.quantity.le
  apply routePlan_accepted h.parent
  · intro row hrow
    obtain ⟨hmem, hpositive, hbound⟩ :=
      hgives.taken_bounds hquantity _ row hrow
    exact ⟨h.quotes row.1 (mem_ordered.mp hmem), hpositive, hbound⟩
  · exact (hgives.leftover_bounds hquantity _).1
  · exact hgives.filled_taken hquantity _

theorem smartRoute_eq_ok {plan : ExecutionPlan} :
    smartRoute parent quotes = .ok plan ↔ RouteInputs parent quotes
        ∧ plan = routePlan parent
          (routedRows (capped (offeredSize parent)) parent quotes)
          (routedLeft (capped (offeredSize parent)) parent quotes) := by
  have hloop : RouteInputs parent quotes →
      routeQuotes parent (ordered parent.side quotes) 0 parent.quantity
        = .ok (rowChildren parent 0
            (routedRows (capped (offeredSize parent)) parent quotes),
          decimalOf
            (routedLeft (capped (offeredSize parent)) parent quotes)) := by
    intro h
    apply routeQuotes_eq _ h.parent.quantity.le
    exact fun quote hquote =>
      (h.quotes quote (mem_ordered.mp hquote)).availableQuantity
  simp only [smartRoute, bind_eq_ok, ParentOrder.validate_eq_ok, refuseIf_eq_ok,
    checkAll_eq_ok, validateQuote_eq_ok, Prod.exists, ExecutionPlan.validateAgainst_eq_ok]
  constructor
  · rintro ⟨-, hparent, -, hcount, -, hquotes, children, left, hrun, -, -, h⟩
    have hinputs : RouteInputs parent quotes := ⟨hparent, hcount, hquotes⟩
    obtain ⟨rfl, rfl⟩ :=
      Prod.mk.inj (Except.ok.inj ((hloop hinputs).symm.trans hrun))
    exact ⟨hinputs, (Except.ok.inj h).symm⟩
  · rintro ⟨hinputs, rfl⟩
    exact ⟨(), hinputs.parent, (), hinputs.count, (), hinputs.quotes, _, _,
      hloop hinputs, (), routed_accepted (gives_offeredSize parent) hinputs, rfl⟩

end Follon.Execution
