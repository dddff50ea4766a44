import Follon.Execution.GatedRows

/-!
# The listing of quotes

Quotes that tie on price with fee, rank, venue and size may still differ in the
price itself.  The router then takes them in the order they were listed in, and
its children carry that order.
-/

namespace Follon.Execution

open Foundation Domain

section Listing

variable {parent : ParentOrder} {quotes others : List VenueQuote}
  {amount : VenueQuote → Int → Int}

/-! ## Rows and their children -/

theorem AllInFits.perm {side : Side} (h : AllInFits side quotes)
    (hperm : quotes.Perm others) : AllInFits side others :=
  fun quote hquote => h quote (hperm.mem_iff.mpr hquote)

theorem routedRows_eq (hfits : AllInFits parent.side quotes) :
    routedRows amount parent quotes
      = takenByKey (quoteKey parent.side) amount parent.quantity.scaled
        quotes := by
  rw [routedRows, ordered_eq hfits, takenByKey]

theorem quote_ext {side : Side} {left right : VenueQuote}
    (hkey : quoteKey side left = quoteKey side right)
    (hprice : left.price = right.price) : left = right := by
  obtain ⟨hvalue, hrank, hvenue, hsize⟩ := quoteKey_inj hkey
  have hfee : left.feePerUnit = right.feePerUnit := by
    apply Decimal.ext
    cases side <;> simp only [unitValue, hprice] at hvalue <;> omega
  cases left
  cases right
  simp_all [scaled_inj]

theorem rows_eq_of_children {index : Nat} {rows rows' : List (VenueQuote × Int)}
    (hkeys : rows.map (fun row => (quoteKey parent.side row.1, row.2))
      = rows'.map fun row => (quoteKey parent.side row.1, row.2))
    (hchildren : rowChildren parent index rows
      = rowChildren parent index rows') : rows = rows' := by
  induction rows generalizing rows' index with
  | nil =>
    rw [map_nil, eq_comm, List.map_eq_nil_iff] at hkeys
    exact hkeys.symm
  | cons row rest ih =>
    cases rows' with
    | nil => simp at hkeys
    | cons row' rest' =>
      obtain ⟨hrow, hrest⟩ := List.cons.inj hkeys
      obtain ⟨hkey, hamount⟩ := Prod.mk.inj hrow
      rw [rowChildren_cons, rowChildren_cons] at hchildren
      obtain ⟨hchild, hlater⟩ := List.cons.inj hchildren
      have hprice : row.1.price = row'.1.price := by
        simpa [routeChild] using congrArg (·.limitPrice) hchild
      rw [Prod.ext (quote_ext hkey hprice) hamount, ih hrest hlater]

/-- The children do not depend on the listing exactly when different quotes tie
only where nothing more is taken. -/
theorem rowChildren_perm_iff
    (hgives : Gives (quoteKey parent.side) (isWithinLimit parent) amount)
    (hparent : parent.Valid) (hfits : AllInFits parent.side quotes) :
    (∀ others, quotes.Perm others → rowChildren parent 0 (routedRows amount parent quotes)
          = rowChildren parent 0 (routedRows amount parent others))
      ↔ TiesIdle (quoteKey parent.side) (isWithinLimit parent) amount
        parent.quantity.scaled quotes := by
  have hquantity := hparent.quantity.le
  rw [← hgives.takenByKey_perm_iff hquantity]
  refine forall₂_congr fun others hperm => ?_
  rw [routedRows_eq hfits, routedRows_eq (hfits.perm hperm)]
  constructor
  · exact rows_eq_of_children (hgives.takenByKey_keys hquantity hperm)
  · intro h
    rw [h]

theorem routedLeft_eq
    (hgives : Gives (quoteKey parent.side) (isWithinLimit parent) amount)
    (hparent : parent.Valid) : routedLeft amount parent quotes = parent.quantity.scaled
      - filled (routedRows amount parent quotes) := by
  have := hgives.filled_taken hparent.quantity.le (ordered parent.side quotes)
  rw [routedLeft, routedRows]
  omega

theorem routed_eq_of_idle
    (hgives : Gives (quoteKey parent.side) (isWithinLimit parent) amount)
    (hparent : parent.Valid) (hfits : AllInFits parent.side quotes)
    (hidle : TiesIdle (quoteKey parent.side) (isWithinLimit parent) amount
      parent.quantity.scaled quotes) (hperm : quotes.Perm others) :
    routedRows amount parent quotes = routedRows amount parent others
      ∧ routedLeft amount parent quotes
        = routedLeft amount parent others := by
  have hrows : routedRows amount parent quotes
      = routedRows amount parent others := by
    rw [routedRows_eq hfits, routedRows_eq (hfits.perm hperm)]
    exact hgives.takenByKey_eq_of_perm hparent.quantity.le hidle hperm
  exact ⟨hrows, by rw [routedLeft_eq hgives hparent,
    routedLeft_eq hgives hparent, hrows]⟩

/-! ## The two routers -/

theorem smartRoute_perm_iff (hfits : AllInFits parent.side quotes) :
    (∀ others, quotes.Perm others → (smartRoute parent quotes).toOption
          = (smartRoute parent others).toOption)
      ↔ (RouteInputs parent quotes →
        TiesIdle (quoteKey parent.side) (isWithinLimit parent)
          (capped (offeredSize parent)) parent.quantity.scaled quotes) := by
  have hgives := gives_offeredSize parent
  constructor
  · intro h hinputs
    rw [← rowChildren_perm_iff hgives hinputs.parent hfits]
    intro others hperm
    have hplan := smartRoute_eq_ok.mpr ⟨hinputs, rfl⟩
    have hplan' := smartRoute_eq_ok.mpr ⟨hinputs.perm hperm, rfl⟩
    have hsame := h others hperm
    rw [hplan, hplan'] at hsame
    exact congrArg (·.children) (Option.some.inj hsame)
  · intro h others hperm
    apply toOption_congr
    intro plan
    rw [smartRoute_eq_ok, smartRoute_eq_ok]
    constructor
    · rintro ⟨hinputs, rfl⟩
      obtain ⟨hrows, hleft⟩ := routed_eq_of_idle hgives hinputs.parent hfits
        (h hinputs) hperm
      exact ⟨hinputs.perm hperm, by rw [hrows, hleft]⟩
    · rintro ⟨hinputs, rfl⟩
      have hquotes := hinputs.perm hperm.symm
      obtain ⟨hrows, hleft⟩ := routed_eq_of_idle hgives hinputs.parent hfits
        (h hquotes) hperm
      exact ⟨hquotes, by rw [hrows, hleft]⟩

theorem smartRouteWithCapabilities_perm_iff {capabilities : List VenueCapability}
    (hfits : AllInFits parent.side quotes) : (∀ others, quotes.Perm others →
        (smartRouteWithCapabilities parent quotes capabilities).toOption
          = (smartRouteWithCapabilities parent others capabilities).toOption)
      ↔ ∀ capMap, capabilities.foldlM addCapability ∅ = .ok capMap →
        GatedInputs parent quotes capMap →
          TiesIdle (quoteKey parent.side) (isWithinLimit parent)
            (gatedSize parent capMap) parent.quantity.scaled quotes := by
  constructor
  · intro h capMap hadded hinputs
    rw [← rowChildren_perm_iff (gives_gatedSize parent capMap) hinputs.route.parent hfits]
    intro others hperm
    have hplan := (smartRouteWithCapabilities_eq_ok hfits).mpr
      ⟨capMap, hadded, hinputs, rfl⟩
    have hplan' := (smartRouteWithCapabilities_eq_ok (hfits.perm hperm)).mpr
      ⟨capMap, hadded, hinputs.perm hperm, rfl⟩
    have hsame := h others hperm
    rw [hplan, hplan'] at hsame
    exact congrArg (·.1.children) (Option.some.inj hsame)
  · intro h others hperm
    apply toOption_congr
    intro result
    rw [smartRouteWithCapabilities_eq_ok hfits,
      smartRouteWithCapabilities_eq_ok (hfits.perm hperm)]
    refine exists_congr fun capMap => and_congr_right fun hadded => ?_
    have hgives := gives_gatedSize parent capMap
    constructor
    · rintro ⟨hinputs, rfl⟩
      obtain ⟨hrows, hleft⟩ := routed_eq_of_idle hgives
        hinputs.route.parent hfits (h capMap hadded hinputs) hperm
      exact ⟨hinputs.perm hperm, by rw [hrows, hleft]⟩
    · rintro ⟨hinputs, rfl⟩
      have hquotes := hinputs.perm hperm.symm
      obtain ⟨hrows, hleft⟩ := routed_eq_of_idle hgives
        hinputs.route.parent hfits (h capMap hadded hquotes) hperm
      exact ⟨hquotes, by rw [hrows, hleft]⟩

end Listing

/-- Neither router depends on the listing of the quotes exactly when, on inputs
it accepts, different quotes within the limit tie only where it takes nothing of
them. -/
theorem listing_independent_iff (parent : ParentOrder)
    (quotes : List VenueQuote) (capabilities : List VenueCapability)
    (hfits : AllInFits parent.side quotes) : ((∀ others, quotes.Perm others →
        (smartRoute parent quotes).toOption = (smartRoute parent others).toOption)
        ↔ (RouteInputs parent quotes →
          TiesIdle (quoteKey parent.side) (isWithinLimit parent)
            (capped (offeredSize parent)) parent.quantity.scaled quotes))
      ∧ ((∀ others, quotes.Perm others →
          (smartRouteWithCapabilities parent quotes capabilities).toOption
            = (smartRouteWithCapabilities parent others capabilities).toOption)
        ↔ ∀ capMap, capabilities.foldlM addCapability ∅ = .ok capMap →
          GatedInputs parent quotes capMap →
            TiesIdle (quoteKey parent.side) (isWithinLimit parent)
              (gatedSize parent capMap) parent.quantity.scaled quotes) :=
  ⟨smartRoute_perm_iff hfits, smartRouteWithCapabilities_perm_iff hfits⟩

namespace ListingRun

def decimal (units : Int) : Decimal :=
  (Decimal.fromInteger units).toOption.getD Decimal.zero

def parent : ParentOrder where
  parentOrderId := "p"
  accountId := "a"
  instrumentId := "i"
  side := .buy
  quantity := decimal 1
  limitPrice := none

def cheap : VenueQuote := ⟨"x", decimal 1, decimal 10, decimal 1, 0⟩

def free : VenueQuote := ⟨"x", decimal 1, decimal 11, decimal 0, 0⟩

def venue : VenueCapability where
  venue := "x"
  capabilityVersion := "v1"
  supportedOrderKinds := [.limit]
  supportsIceberg := false
  minQuantity := none
  maxQuantity := none

theorem fits : AllInFits parent.side [cheap, free] := by
  unfold AllInFits
  decide

theorem listing_independent_iff_tied : ((∀ others, [cheap, free].Perm others →
        (smartRoute parent [cheap, free]).toOption = (smartRoute parent others).toOption)
        ↔ (RouteInputs parent [cheap, free] →
          TiesIdle (quoteKey parent.side) (isWithinLimit parent)
            (capped (offeredSize parent)) parent.quantity.scaled
            [cheap, free])) :=
  (listing_independent_iff parent [cheap, free] [venue] fits).1

/-- The child is at ten or at eleven. -/
theorem listing_sets_price : [cheap, free].Perm [free, cheap]
      ∧ (smartRoute parent [cheap, free]).toOption
        ≠ (smartRoute parent [free, cheap]).toOption
      ∧ (smartRouteWithCapabilities parent [cheap, free] [venue]).toOption
        ≠ (smartRouteWithCapabilities parent [free, cheap]
          [venue]).toOption := by
  refine ⟨.swap _ _ _, ?_, ?_⟩
  · decide
  · decide

end ListingRun

end Follon.Execution
