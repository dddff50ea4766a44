import Follon.Execution.RouteRows

/-!
# Gated rows

With capabilities a quote gives what its venue trades of it: no more than the
venue's maximum, and nothing below its minimum.
-/

namespace Follon.Execution

open Foundation Domain

/-! ## What a venue trades of a quote -/

def minimumSize (cap : VenueCapability) : Int :=
  match cap.minQuantity with
  | some low => low.scaled
  | none => 0

def tradedSize (cap : VenueCapability) (quote : VenueQuote) (left : Int) : Int :=
  if min (availableAt cap quote).scaled left < minimumSize cap then 0
  else max (min (availableAt cap quote).scaled left) 0

def gatedSize (parent : ParentOrder)
    (capMap : OrderedMap String VenueCapability) (quote : VenueQuote)
    (left : Int) : Int :=
  if isWithinLimit parent quote then
    match capMap[quote.venue]? with
    | some cap => tradedSize cap quote left
    | none => 0
  else
    0

theorem gives_gatedSize (parent : ParentOrder)
    (capMap : OrderedMap String VenueCapability) :
    Gives (quoteKey parent.side) (isWithinLimit parent)
      (gatedSize parent capMap) where
  nonneg quote left hleft := by
    unfold gatedSize tradedSize
    split
    · split
      · split <;> omega
      · exact le_refl 0
    · exact le_refl 0
  le quote left hleft := by
    unfold gatedSize tradedSize
    split
    · split
      · split <;> omega
      · exact hleft
    · exact hleft
  closed quote left _ hclosed := by
    rw [gatedSize, hclosed]
    rfl
  tied quote other left hquote hother hkey := by
    obtain ⟨-, -, hvenue, hsize⟩ := quoteKey_inj hkey
    have hsame : ∀ cap, availableAt cap quote = availableAt cap other := by
      intro cap
      rw [availableAt, availableAt, Decimal.ext hsize]
    rw [gatedSize, gatedSize, hquote, hother, hvenue]
    simp only [tradedSize, hsame]
  mono quote left more hleft hmore hgives := by
    unfold gatedSize tradedSize at hgives ⊢
    split at hgives
    · next hwithin =>
      rw [if_pos hwithin]
      split at hgives
      · split at hgives
        · omega
        · split <;> omega
      · omega
    · omega

/-! ## The loop -/

structure VenueCapability.Bounded (cap : VenueCapability) : Prop where
  low : ∀ low ∈ cap.minQuantity, 0 < low.scaled
  high : ∀ high ∈ cap.maxQuantity, 0 < high.scaled

variable {cap : VenueCapability} {quote : VenueQuote} {remaining : Decimal}
  {parent : ParentOrder} {capMap : OrderedMap String VenueCapability}
  {quotes : List VenueQuote} {capabilities : List VenueCapability}

theorem availableAt_pos (hcap : cap.Bounded)
    (hquote : 0 < quote.availableQuantity.scaled) :
    0 < (availableAt cap quote).scaled := by
  unfold availableAt
  split
  · next high hhigh =>
    rw [scaled_min]
    exact lt_min hquote (hcap.high high hhigh)
  · exact hquote

theorem tradeable_eq (hcap : cap.Bounded) (hquote : 0 < quote.availableQuantity.scaled)
    (hremaining : 0 < remaining.scaled) :
    (∃ quantity, tradeable cap quote remaining = some quantity ∧ 0 < quantity.scaled
        ∧ quantity.scaled = tradedSize cap quote remaining.scaled)
      ∨ tradeable cap quote remaining = none
        ∧ tradedSize cap quote remaining.scaled = 0 := by
  have havailable := availableAt_pos hcap hquote
  have hquantity := scaled_min (availableAt cap quote) remaining
  unfold tradeable tradedSize minimumSize
  cases cap.minQuantity with
  | none =>
    refine .inl ⟨_, rfl, by omega, ?_⟩
    simp only
    rw [if_neg (by omega), hquantity]
    omega
  | some low =>
    simp only [lt_def]
    split
    · exact .inr ⟨rfl, if_pos (by omega)⟩
    · split
      · exact .inr ⟨rfl, if_pos (by omega)⟩
      · refine .inl ⟨_, rfl, by omega, ?_⟩
        rw [if_neg (by omega), hquantity]
        omega

def rowDecision (parent : ParentOrder)
    (capMap : OrderedMap String VenueCapability) (index : Nat)
    (row : VenueQuote × Int) : RouteDecision where
  decisionId := routeId parent "decision" (index + 1)
  parentOrderId := parent.parentOrderId
  venue := row.1.venue
  capabilityVersion :=
    (capMap[row.1.venue]?.map (·.capabilityVersion)).getD ""
  allocatedQuantity := decimalOf row.2
  allInPrice := (allInPrice parent.side row.1).toOption.getD Decimal.zero
  feePerUnit := row.1.feePerUnit
  latencyRank := row.1.latencyRank

/-- The children and decisions of some rows, after `index` others. -/
def rowRoutes (parent : ParentOrder)
    (capMap : OrderedMap String VenueCapability) (index : Nat)
    (rows : List (VenueQuote × Int)) : List (ChildInstruction × RouteDecision) :=
  rows.mapIdx fun later row =>
    (routeChild parent (later + index) row.1 (decimalOf row.2),
      rowDecision parent capMap (later + index) row)

theorem rowRoutes_cons (parent : ParentOrder)
    (capMap : OrderedMap String VenueCapability) (index : Nat)
    (row : VenueQuote × Int) (rows : List (VenueQuote × Int)) :
    rowRoutes parent capMap index (row :: rows)
      = (routeChild parent index row.1 (decimalOf row.2),
          rowDecision parent capMap index row)
        :: rowRoutes parent capMap (index + 1) rows := by
  simp [rowRoutes, List.mapIdx_cons, Nat.add_comm, Nat.add_left_comm]

/-- What the loop relies on of a quote before it allocates. -/
structure Offered (capMap : OrderedMap String VenueCapability)
    (quote : VenueQuote) : Prop where
  available : 0 < quote.availableQuantity.scaled
  capability : ∃ cap, capMap[quote.venue]? = some cap ∧ cap.Bounded

def AllInRows (side : Side) (rows : List (VenueQuote × Int)) : Prop :=
  ∀ row ∈ rows, ∃ price, allInPrice side row.1 = .ok price

variable {index : Nat}
  {result : List (ChildInstruction × RouteDecision) × Decimal} {u : Unit}

theorem routeGated_cons {rest : List VenueQuote}
    (hquote : Offered capMap quote) (hremaining : 0 < remaining.scaled) :
    routeGated parent capMap (quote :: rest) index remaining = .ok result ↔
      if 0 < gatedSize parent capMap quote remaining.scaled then
        (∃ price, allInPrice parent.side quote = .ok price) ∧ ∃ routed final,
            routeGated parent capMap rest (index + 1)
                (decimalOf (remaining.scaled
                  - gatedSize parent capMap quote remaining.scaled))
              = .ok (routed, final)
            ∧ result = (rowRoutes parent capMap index [(quote,
                gatedSize parent capMap quote remaining.scaled)] ++ routed, final)
      else
        routeGated parent capMap rest index remaining = .ok result := by
  have hgives := gives_gatedSize parent capMap
  have hsome : remaining ≠ Decimal.zero := by
    rintro rfl
    exact Int.lt_irrefl 0 hremaining
  obtain ⟨cap, hcap, hbounded⟩ := hquote.capability
  rw [routeGated, if_neg hsome, hcap]
  simp only
  rcases tradeable_eq hbounded hquote.available hremaining with
    ⟨quantity, htradeable, hquantity, hscaled⟩ | ⟨htradeable, hnothing⟩
  · rw [htradeable]
    simp only
    split
    · next hwithin =>
      have hamount : gatedSize parent capMap quote remaining.scaled
          = quantity.scaled := by
        rw [gatedSize, if_pos hwithin, hcap, hscaled]
      have hle := hgives.le quote remaining.scaled hremaining.le
      have hmax := remaining.le_max
      have hmin : i128Min ≤ 0 := by decide
      let left : Decimal := ⟨remaining.scaled - quantity.scaled, by omega, by omega⟩
      have hleft : decimalOf (remaining.scaled - quantity.scaled) = left :=
        decimalOf_eq rfl
      rw [hamount, if_pos hquantity, hleft]
      simp only [bind_eq_ok, checkedSub_eq_ok, Prod.exists]
      constructor
      · rintro ⟨price, hprice, next, hnext, routed, final, hrun, h⟩
        obtain rfl : next = left := Decimal.ext hnext
        refine ⟨⟨price, hprice⟩, routed, final, hrun, (Except.ok.inj h).symm.trans ?_⟩
        rw [rowRoutes_cons, rowDecision, decimalOf_eq rfl]
        simp only [hcap, hprice]
        rfl
      · rintro ⟨⟨price, hprice⟩, routed, final, hrun, rfl⟩
        refine ⟨price, hprice, left, rfl, routed, final, hrun, ?_⟩
        rw [rowRoutes_cons, rowDecision, decimalOf_eq rfl]
        simp only [hcap, hprice]
        rfl
    · next hclosed =>
      rw [hgives.closed quote remaining.scaled hremaining.le
        (by simpa using hclosed), if_neg (Int.lt_irrefl 0)]
  · have hamount : gatedSize parent capMap quote remaining.scaled = 0 := by
      rw [gatedSize, hcap]
      simp only [hnothing, ite_self]
    rw [htradeable, hamount, if_neg (Int.lt_irrefl 0)]

/-- The loop goes through when the price with its fee of every quote it takes
can be represented, and then takes the gated rows. -/
theorem routeGated_eq_ok (hquotes : ∀ quote ∈ quotes, Offered capMap quote)
    (hremaining : 0 ≤ remaining.scaled) :
    routeGated parent capMap quotes index remaining = .ok result ↔ AllInRows parent.side
          (taken (gatedSize parent capMap) remaining.scaled quotes)
        ∧ result = (rowRoutes parent capMap index
            (taken (gatedSize parent capMap) remaining.scaled quotes),
          decimalOf (leftover (gatedSize parent capMap) remaining.scaled
            quotes)) := by
  have hgives := gives_gatedSize parent capMap
  induction quotes generalizing index remaining result with
  | nil =>
    rw [routeGated, taken_nil, leftover_nil, decimalOf_eq rfl]
    simp only [AllInRows, not_mem_nil, false_implies, implies_true,
      true_and, Except.ok.injEq]
    exact eq_comm
  | cons quote rest ih =>
    obtain ⟨hquote, hrest⟩ := forall_mem_cons.mp hquotes
    by_cases hzero : remaining = Decimal.zero
    · obtain ⟨hnone, hleft⟩ := hgives.taken_zero (quote :: rest)
      rw [routeGated, if_pos hzero, hzero, scaled_zero, hnone, hleft]
      simp only [AllInRows, not_mem_nil, false_implies, implies_true,
        true_and, Except.ok.injEq]
      exact eq_comm
    · have hpositive : 0 < remaining.scaled := by
        apply lt_of_le_of_ne hremaining
        exact fun hsame => hzero (Decimal.ext hsame.symm)
      rw [routeGated_cons hquote hpositive, taken_cons, leftover_cons]
      have hnonneg := hgives.nonneg quote remaining.scaled hremaining
      have hle := hgives.le quote remaining.scaled hremaining
      split
      · next hgiven =>
        have hscaled : (decimalOf (remaining.scaled
            - gatedSize parent capMap quote remaining.scaled)).scaled = remaining.scaled
                - gatedSize parent capMap quote remaining.scaled :=
          scaled_decimalOf (Int.sub_nonneg.mpr hle)
            (Int.sub_le_self _ hnonneg)
        generalize decimalOf (remaining.scaled
          - gatedSize parent capMap quote remaining.scaled) = left
            at hscaled ⊢
        rw [AllInRows, forall_mem_cons, ← hscaled]
        constructor
        · rintro ⟨hprice, routed, final, hrun, rfl⟩
          obtain ⟨hallIn, hsame⟩ := (ih hrest (by omega)).mp hrun
          obtain ⟨rfl, rfl⟩ := Prod.mk.inj hsame
          refine ⟨⟨hprice, hallIn⟩, ?_⟩
          rw [rowRoutes_cons, rowRoutes_cons]
          rfl
        · rintro ⟨⟨hprice, hallIn⟩, rfl⟩
          refine ⟨hprice, _, _, (ih hrest (by omega)).mpr ⟨hallIn, rfl⟩, ?_⟩
          rw [rowRoutes_cons, rowRoutes_cons]
          rfl
      · next hnone =>
        have hamount : gatedSize parent capMap quote remaining.scaled
            = 0 := by
          omega
        rw [hamount, Int.sub_zero]
        exact ih hrest hremaining

/-! ## The gated router -/

theorem bounded_of_validate (h : cap.validate = .ok u) : cap.Bounded := by
  simp only [VenueCapability.validate, bind_eq_ok, refuseIf_eq_ok] at h
  obtain ⟨-, -, -, -, -, -, -, hlow, -, hhigh, -⟩ := h
  simp only [isNonpositive, not_eq_true] at hlow hhigh
  constructor
  · intro low hmem
    rw [Option.mem_def.mp hmem] at hlow
    simpa [le_def] using hlow
  · intro high hmem
    rw [Option.mem_def.mp hmem] at hhigh
    simpa [le_def] using hhigh

theorem validated_of_added (h : capabilities.foldlM addCapability ∅ = .ok capMap) :
    ∀ (venue : String) cap, capMap[venue]? = some cap →
      cap.validate = .ok () := by
  refine foldlM_keeps (P := fun capMap : OrderedMap String VenueCapability =>
    ∀ (venue : String) cap, capMap[venue]? = some cap → cap.validate = .ok ()) ?_ h ?_
  · intro capMap hcapMap cap _ capMap' hstep venue found hfound
    simp only [addCapability, bind_eq_ok] at hstep
    obtain ⟨_, hvalid, -, -, hstep⟩ := hstep
    obtain rfl := Except.ok.inj hstep
    rw [getElem?_insert] at hfound
    split at hfound
    · obtain rfl := Option.some.inj hfound
      exact hvalid
    · exact hcapMap venue found hfound
  · intro venue cap hcap
    simp at hcap

structure GatedInputs (parent : ParentOrder) (quotes : List VenueQuote)
    (capMap : OrderedMap String VenueCapability) : Prop where
  route : RouteInputs parent quotes
  capability : ∀ quote ∈ quotes, ∃ cap,
    capMap[quote.venue]? = some cap ∧ .limit ∈ cap.supportedOrderKinds

theorem GatedInputs.perm {others : List VenueQuote}
    (h : GatedInputs parent quotes capMap) (hperm : quotes.Perm others) :
    GatedInputs parent others capMap where
  route := h.route.perm hperm
  capability quote hquote := h.capability quote (hperm.mem_iff.mpr hquote)

theorem validateQuotedVenue_eq_ok : validateQuotedVenue capMap quote = .ok u ↔
      quote.Valid ∧ ∃ cap, capMap[quote.venue]? = some cap
        ∧ .limit ∈ cap.supportedOrderKinds := by
  simp only [validateQuotedVenue, bind_eq_ok, validateQuote_eq_ok]
  cases capMap[quote.venue]? with
  | none => simp
  | some cap => simp

theorem map_fst_rowRoutes (parent : ParentOrder)
    (capMap : OrderedMap String VenueCapability) (index : Nat)
    (rows : List (VenueQuote × Int)) : (rowRoutes parent capMap index rows).map Prod.fst
      = rowChildren parent index rows := by
  apply List.ext_getElem <;> simp [rowRoutes, rowChildren]

theorem smartRouteWithCapabilities_ok_iff {result : ExecutionPlan × List RouteDecision} :
    smartRouteWithCapabilities parent quotes capabilities = .ok result ↔
      ∃ capMap, capabilities.foldlM addCapability ∅ = .ok capMap
        ∧ GatedInputs parent quotes capMap
        ∧ AllInRows parent.side
          (routedRows (gatedSize parent capMap) parent quotes)
        ∧ result = (routePlan parent (routedRows (gatedSize parent capMap) parent quotes)
              (routedLeft (gatedSize parent capMap) parent quotes),
            (rowRoutes parent capMap 0
              (routedRows (gatedSize parent capMap) parent quotes)).map
                Prod.snd) := by
  have hloop : ∀ capMap result,
      capabilities.foldlM addCapability ∅ = .ok capMap →
      GatedInputs parent quotes capMap →
      (routeGated parent capMap (ordered parent.side quotes) 0 parent.quantity
        = .ok result ↔
        AllInRows parent.side
            (routedRows (gatedSize parent capMap) parent quotes)
          ∧ result = (rowRoutes parent capMap 0
            (routedRows (gatedSize parent capMap) parent quotes),
          decimalOf (routedLeft (gatedSize parent capMap) parent quotes))) := by
    intro capMap result hadded h
    apply routeGated_eq_ok _ h.route.parent.quantity.le
    intro quote hquote
    have hmem := mem_ordered.mp hquote
    obtain ⟨cap, hcap, -⟩ := h.capability quote hmem
    exact ⟨(h.route.quotes quote hmem).availableQuantity,
      ⟨cap, hcap, bounded_of_validate (validated_of_added hadded _ _ hcap)⟩⟩
  simp only [smartRouteWithCapabilities, bind_eq_ok, ParentOrder.validate_eq_ok,
    refuseIf_eq_ok, checkAll_eq_ok, validateQuotedVenue_eq_ok, Prod.exists,
    ExecutionPlan.validateAgainst_eq_ok]
  constructor
  · rintro ⟨-, hparent, -, hcount, capMap, hadded, -, hquotes, routed, left,
      hrun, -, -, h⟩
    have hinputs : GatedInputs parent quotes capMap :=
      ⟨⟨hparent, hcount, fun quote hquote => (hquotes quote hquote).1⟩,
        fun quote hquote => (hquotes quote hquote).2⟩
    obtain ⟨hallIn, hsame⟩ := (hloop capMap _ hadded hinputs).mp hrun
    obtain ⟨rfl, rfl⟩ := Prod.mk.inj hsame
    refine ⟨capMap, hadded, hinputs, hallIn, (Except.ok.inj h).symm.trans ?_⟩
    rw [map_fst_rowRoutes]
    rfl
  · rintro ⟨capMap, hadded, hinputs, hallIn, rfl⟩
    refine ⟨(), hinputs.route.parent, (), hinputs.route.count, capMap, hadded,
      (), fun quote hquote => ⟨hinputs.route.quotes quote hquote,
        hinputs.capability quote hquote⟩, _, _,
      (hloop capMap _ hadded hinputs).mpr ⟨hallIn, rfl⟩, (), ?_, ?_⟩
    · rw [map_fst_rowRoutes]
      exact routed_accepted (gives_gatedSize parent capMap) hinputs.route
    · rw [map_fst_rowRoutes]
      rfl

theorem AllInFits.rows (hfits : AllInFits parent.side quotes)
    (hquantity : 0 ≤ parent.quantity.scaled) : AllInRows parent.side
      (routedRows (gatedSize parent capMap) parent quotes) :=
  fun row hrow => hfits row.1 (mem_ordered.mp
    ((gives_gatedSize parent capMap).taken_bounds hquantity _ row hrow).1)

theorem smartRouteWithCapabilities_eq_ok {result : ExecutionPlan × List RouteDecision}
    (hfits : AllInFits parent.side quotes) :
    smartRouteWithCapabilities parent quotes capabilities = .ok result ↔
      ∃ capMap, capabilities.foldlM addCapability ∅ = .ok capMap
        ∧ GatedInputs parent quotes capMap
        ∧ result = (routePlan parent (routedRows (gatedSize parent capMap) parent quotes)
              (routedLeft (gatedSize parent capMap) parent quotes),
            (rowRoutes parent capMap 0
              (routedRows (gatedSize parent capMap) parent quotes)).map
                Prod.snd) := by
  rw [smartRouteWithCapabilities_ok_iff]
  constructor
  · rintro ⟨capMap, hadded, hinputs, -, hresult⟩
    exact ⟨capMap, hadded, hinputs, hresult⟩
  · rintro ⟨capMap, hadded, hinputs, hresult⟩
    exact ⟨capMap, hadded, hinputs, hfits.rows hinputs.route.parent.quantity.le, hresult⟩

end Follon.Execution
