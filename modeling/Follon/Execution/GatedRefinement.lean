import Follon.Execution.GatedRows

/-!
# Gated routing refines plain routing

Where every venue admits what the plain router sends it, the gated router makes
the same plan.  Whatever the capabilities, its children keep within them, and
each has one decision and one quote of its own.
-/

namespace Follon.Execution

open Foundation Domain

/-! ## What a venue admits -/

def AdmitsChild (capMap : OrderedMap String VenueCapability)
    (child : ChildInstruction) : Prop :=
  ∃ venue cap, child.venue = some venue ∧ capMap[venue]? = some cap
    ∧ child.kind ∈ cap.supportedOrderKinds
    ∧ (∀ low ∈ cap.minQuantity, low ≤ child.quantity)
    ∧ ∀ high ∈ cap.maxQuantity, child.quantity ≤ high

def AdmitsRow (capMap : OrderedMap String VenueCapability)
    (row : VenueQuote × Int) : Prop :=
  ∃ cap, capMap[row.1.venue]? = some cap ∧ .limit ∈ cap.supportedOrderKinds
    ∧ (∀ low ∈ cap.minQuantity, low.scaled ≤ row.2)
    ∧ ∀ high ∈ cap.maxQuantity, row.2 ≤ high.scaled

theorem admitsChild_routeChild {capMap : OrderedMap String VenueCapability}
    {parent : ParentOrder} {index : Nat} {row : VenueQuote × Int}
    (hscaled : (decimalOf row.2).scaled = row.2) :
    AdmitsChild capMap (routeChild parent index row.1 (decimalOf row.2)) ↔
      AdmitsRow capMap row := by
  simp only [AdmitsChild, AdmitsRow, routeChild, Option.some.injEq, le_def, hscaled]
  constructor
  · rintro ⟨_, cap, rfl, hcap⟩
    exact ⟨cap, hcap⟩
  · rintro ⟨cap, hcap⟩
    exact ⟨_, cap, rfl, hcap⟩

theorem admits_rowChildren_iff {capMap : OrderedMap String VenueCapability}
    {parent : ParentOrder} {rows : List (VenueQuote × Int)}
    (hrows : Routable parent rows) :
    (∀ child ∈ rowChildren parent 0 rows, AdmitsChild capMap child) ↔
      ∀ row ∈ rows, AdmitsRow capMap row := by
  have hscaled : ∀ row ∈ rows, (decimalOf row.2).scaled = row.2 :=
    fun row hrow => scaled_decimalOf (hrows row hrow).2.1.le
      (hrows row hrow).2.2
  constructor
  · intro hchildren row hrow
    obtain ⟨position, hposition, hget⟩ := List.getElem_of_mem hrow
    rw [← hget]
    apply (admitsChild_routeChild (hscaled _ (List.getElem_mem hposition))).mp
    apply hchildren
    exact List.mem_mapIdx.mpr ⟨position, hposition, rfl⟩
  · intro hadmits child hchild
    simp only [rowChildren, List.mem_mapIdx] at hchild
    obtain ⟨position, hposition, rfl⟩ := hchild
    have hmem := List.getElem_mem hposition
    exact (admitsChild_routeChild (hscaled _ hmem)).mpr (hadmits _ hmem)

variable {left : Int} {quotes : List VenueQuote}

theorem gatedSize_eq_of_admits {parent : ParentOrder}
    {capMap : OrderedMap String VenueCapability} {quote : VenueQuote}
    (hquote : 0 < quote.availableQuantity.scaled) (hleft : 0 ≤ left)
    (hrow : 0 < capped (offeredSize parent) quote left →
      AdmitsRow capMap (quote, capped (offeredSize parent) quote left)) :
    gatedSize parent capMap quote left
      = capped (offeredSize parent) quote left := by
  have hgives := gives_gatedSize parent capMap
  by_cases hwithin : isWithinLimit parent quote = true
  · have hsize : capped (offeredSize parent) quote left
        = min quote.availableQuantity.scaled left := by
      rw [capped, offeredSize, if_pos hwithin, max_eq_left hquote.le]
    by_cases hnone : left = 0
    · have hle := hgives.le quote left hleft
      have hnonneg := hgives.nonneg quote left hleft
      rw [hsize]
      omega
    · obtain ⟨cap, hcap, -, hlow, hhigh⟩ := hrow (by rw [hsize]; omega)
      have havailable : min (availableAt cap quote).scaled left
          = min quote.availableQuantity.scaled left := by
        unfold availableAt
        split
        · next high hmax =>
            have := hhigh high hmax
            rw [hsize] at this
            rw [scaled_min]
            omega
        · rfl
      have hminimum : minimumSize cap
          ≤ min quote.availableQuantity.scaled left := by
        unfold minimumSize
        split
        · next low hmin =>
            rw [← hsize]
            exact hlow low hmin
        · omega
      rw [gatedSize, if_pos hwithin, hcap, hsize]
      simp only [tradedSize, havailable]
      rw [if_neg (by omega)]
      omega
  · have hclosed : isWithinLimit parent quote = false :=
      not_eq_true _ ▸ hwithin
    rw [hgives.closed quote left hleft hclosed]
    exact ((gives_offeredSize parent).closed quote left hleft hclosed).symm

theorem admitsRow_gatedSize {parent : ParentOrder}
    {capMap : OrderedMap String VenueCapability} {quote : VenueQuote}
    (hgives : 0 < gatedSize parent capMap quote left) {cap : VenueCapability}
    (hcap : capMap[quote.venue]? = some cap) (hlimit : .limit ∈ cap.supportedOrderKinds) :
    AdmitsRow capMap (quote, gatedSize parent capMap quote left)
      ∧ gatedSize parent capMap quote left
        ≤ quote.availableQuantity.scaled := by
  have hsize : gatedSize parent capMap quote left = tradedSize cap quote left := by
    unfold gatedSize at hgives ⊢
    split
    · rw [hcap]
    · next hclosed =>
        rw [if_neg hclosed] at hgives
        omega
  have htraded : ¬min (availableAt cap quote).scaled left < minimumSize cap := by
    intro hbelow
    rw [hsize, tradedSize, if_pos hbelow] at hgives
    omega
  have hquantity : gatedSize parent capMap quote left
      = min (availableAt cap quote).scaled left := by
    rw [hsize, tradedSize, if_neg htraded] at hgives ⊢
    omega
  have havailable : (availableAt cap quote).scaled
      ≤ quote.availableQuantity.scaled := by
    unfold availableAt
    split
    · rw [scaled_min]
      exact min_le_left _ _
    · exact le_refl _
  refine ⟨⟨cap, hcap, hlimit, ?_, ?_⟩, by omega⟩
  · intro low hlow
    have hminimum : minimumSize cap = low.scaled := by
      rw [minimumSize, Option.mem_def.mp hlow]
    simp only
    omega
  · intro high hhigh
    have hmaximum : (availableAt cap quote).scaled ≤ high.scaled := by
      rw [availableAt, Option.mem_def.mp hhigh, scaled_min]
      exact min_le_right _ _
    simp only
    omega

/-! ## The refinement -/

def plainRows (parent : ParentOrder) (quotes : List VenueQuote) :
    List (VenueQuote × Int) :=
  routedRows (capped (offeredSize parent)) parent quotes

theorem routable_routedRows {amount : VenueQuote → Int → Int} {parent : ParentOrder}
    (hgives : Gives (quoteKey parent.side) (isWithinLimit parent) amount)
    (h : RouteInputs parent quotes) :
    Routable parent (routedRows amount parent quotes) := by
  intro row hrow
  obtain ⟨hmem, hpositive, hbound⟩ :=
    hgives.taken_bounds h.parent.quantity.le _ row hrow
  exact ⟨h.quotes row.1 (mem_ordered.mp hmem), hpositive, hbound⟩

/-- A plan and its decisions, from rows of different quotes: each within its
venue's bounds and kinds and the size its quote displays, all together within
the parent. -/
structure GatedAllocation (parent : ParentOrder) (quotes : List VenueQuote)
    (capMap : OrderedMap String VenueCapability)
    (rows : List (VenueQuote × Int)) (plan : ExecutionPlan)
    (decisions : List RouteDecision) : Prop where
  children : plan.children = rowChildren parent 0 rows
  decided : decisions = (rowRoutes parent capMap 0 rows).map Prod.snd
  paired : decisions.length = plan.children.length
  quotes : (rows.map Prod.fst).Subperm quotes
  admitted : ∀ child ∈ plan.children, AdmitsChild capMap child
  displayed : ∀ row ∈ rows, 0 < row.2 ∧ row.2 ≤ row.1.availableQuantity.scaled
  parentQuantity : scheduled plan.children ≤ parent.quantity.scaled

theorem gatedAllocation_routed {parent : ParentOrder}
    {capMap : OrderedMap String VenueCapability} (h : GatedInputs parent quotes capMap)
    : GatedAllocation parent quotes capMap
      (routedRows (gatedSize parent capMap) parent quotes)
      (routePlan parent (routedRows (gatedSize parent capMap) parent quotes)
        (routedLeft (gatedSize parent capMap) parent quotes))
      ((rowRoutes parent capMap 0
        (routedRows (gatedSize parent capMap) parent quotes)).map
          Prod.snd) := by
  have hgives := gives_gatedSize parent capMap
  have hroutable := routable_routedRows hgives h.route
  have hrows : ∀ row ∈ routedRows (gatedSize parent capMap) parent quotes,
      AdmitsRow capMap row ∧ 0 < row.2
        ∧ row.2 ≤ row.1.availableQuantity.scaled := by
    intro row hrow
    obtain ⟨before, hamount, hpositive⟩ := taken_amount hrow
    have hmem := (hgives.taken_bounds h.route.parent.quantity.le _ row hrow).1
    obtain ⟨cap, hcap, hlimit⟩ := h.capability row.1 (mem_ordered.mp hmem)
    have hgiven : 0 < gatedSize parent capMap row.1 before := hamount ▸ hpositive
    obtain ⟨hadmits, hdisplayed⟩ := admitsRow_gatedSize hgiven hcap hlimit
    rw [← hamount] at hadmits hdisplayed
    exact ⟨hadmits, hpositive, hdisplayed⟩
  refine ⟨rfl, rfl, ?_, ?_, ?_, fun row hrow => (hrows row hrow).2, ?_⟩
  · simp [rowRoutes, routePlan, rowChildren]
  · exact (taken_sublist _ _ _).subperm.trans
      (perm_insertionSort _ _).subperm
  · exact (admits_rowChildren_iff hroutable).mpr
      fun row hrow => (hrows row hrow).1
  · have hsum := hgives.filled_taken h.route.parent.quantity.le
      (ordered parent.side quotes)
    have hleft := (hgives.leftover_bounds h.route.parent.quantity.le
      (ordered parent.side quotes)).1
    change scheduled (rowChildren parent 0 _) ≤ _
    rw [scheduled_rowChildren hroutable, routedRows]
    omega

/-- Where the venues admit every order of the plain router, and the price with
its fee of each can be represented, the gated router makes the plain plan. -/
theorem smartRouteWithCapabilities_of_admitted {parent : ParentOrder}
    {capabilities : List VenueCapability} {plan : ExecutionPlan}
    {capMap : OrderedMap String VenueCapability}
    (hplan : smartRoute parent quotes = .ok plan)
    (hadded : capabilities.foldlM addCapability ∅ = .ok capMap)
    (hcapability : ∀ quote ∈ quotes, ∃ cap,
      capMap[quote.venue]? = some cap ∧ .limit ∈ cap.supportedOrderKinds)
    (hadmits : ∀ child ∈ plan.children, AdmitsChild capMap child)
    (hallIn : AllInRows parent.side (plainRows parent quotes)) :
    ∃ decisions, smartRouteWithCapabilities parent quotes capabilities
      = .ok (plan, decisions) := by
  obtain ⟨hinputs, rfl⟩ := smartRoute_eq_ok.mp hplan
  have hroutable := routable_routedRows (gives_offeredSize parent) hinputs
  obtain ⟨hrows, hleft⟩ := taken_congr hinputs.parent.quantity.le
    (gives_offeredSize parent).le
    (fun quote hquote left hleft hrow => gatedSize_eq_of_admits
      (hinputs.quotes quote (mem_ordered.mp hquote)).availableQuantity hleft
      hrow)
    ((admits_rowChildren_iff hroutable).mp hadmits)
  have hsameRows : routedRows (gatedSize parent capMap) parent quotes
      = plainRows parent quotes := hrows
  have hsameLeft : routedLeft (gatedSize parent capMap) parent quotes
      = routedLeft (capped (offeredSize parent)) parent quotes := hleft
  have hgatedRows : AllInRows parent.side
      (routedRows (gatedSize parent capMap) parent quotes) := by
    rw [hsameRows]
    exact hallIn
  have hgated := smartRouteWithCapabilities_ok_iff.mpr
    ⟨capMap, hadded, ⟨hinputs, hcapability⟩, hgatedRows, rfl⟩
  rw [hsameRows, hsameLeft] at hgated
  exact ⟨_, hgated⟩

/-- Gated routing refines plain routing, and keeps within the venues whatever
they admit. -/
theorem gated_refines_plain (parent : ParentOrder) (quotes : List VenueQuote)
    (capabilities : List VenueCapability) :
    (∀ plan capMap, smartRoute parent quotes = .ok plan →
      capabilities.foldlM addCapability ∅ = .ok capMap →
      (∀ quote ∈ quotes, ∃ cap, capMap[quote.venue]? = some cap
        ∧ .limit ∈ cap.supportedOrderKinds) →
      (∀ child ∈ plan.children, AdmitsChild capMap child) →
      AllInRows parent.side (plainRows parent quotes) →
      ∃ decisions, smartRouteWithCapabilities parent quotes capabilities
        = .ok (plan, decisions)) ∧ ∀ plan decisions,
      smartRouteWithCapabilities parent quotes capabilities = .ok (plan, decisions) →
        ∃ capMap rows, capabilities.foldlM addCapability ∅ = .ok capMap
          ∧ GatedAllocation parent quotes capMap rows plan decisions := by
  constructor
  · intro plan capMap hplan hadded hcapability hadmits hallIn
    exact smartRouteWithCapabilities_of_admitted hplan hadded hcapability
      hadmits hallIn
  · intro plan decisions h
    obtain ⟨capMap, hadded, hinputs, -, hresult⟩ :=
      smartRouteWithCapabilities_ok_iff.mp h
    obtain ⟨rfl, rfl⟩ := Prod.mk.inj hresult
    exact ⟨capMap, _, hadded, gatedAllocation_routed hinputs⟩

/-! ## A venue that admits its order -/

namespace AdmittedOrders

def one : Decimal := .one

def parent : ParentOrder := ⟨"parent-1", "acct-1", "aapl", .buy, one, none⟩

def cheapQuote : VenueQuote := ⟨"xnas", one, one, one, 1⟩

def exactCapability : VenueCapability :=
  ⟨"xnas", "v1", [.limit], false, some one, some one⟩

def exactMap : OrderedMap String VenueCapability :=
  (∅ : OrderedMap String VenueCapability).insert "xnas" exactCapability

def cheapPlan : ExecutionPlan := routePlan parent [(cheapQuote, 100000000)] 0

theorem gated_refines_plain_exact :
    ∃ decisions, smartRouteWithCapabilities parent [cheapQuote]
      [exactCapability] = .ok (cheapPlan, decisions) := by
  have hplan : smartRoute parent [cheapQuote] = .ok cheapPlan := by
    decide
  have hcap : exactMap["xnas"]? = some exactCapability := by
    decide
  have hrows : plainRows parent [cheapQuote] = [(cheapQuote, 100000000)] := by
    decide
  apply (gated_refines_plain parent [cheapQuote] [exactCapability]).1 cheapPlan
    exactMap hplan rfl
  · intro quote hquote
    rw [mem_singleton.mp hquote]
    exact ⟨exactCapability, hcap, by decide⟩
  · intro child hchild
    rw [mem_singleton.mp hchild]
    exact ⟨"xnas", exactCapability, rfl, hcap, by decide, by decide, by decide⟩
  · rw [hrows]
    intro row hrow
    rw [mem_singleton.mp hrow]
    exact ⟨⟨200000000, by decide, by decide⟩, by decide⟩

/-! ## A price whose fee does not fit -/

def quote : VenueQuote := ⟨"xnas", one, .greatest, one, 1⟩

def capability : VenueCapability := ⟨"xnas", "v1", [.limit], false, none, none⟩

def capMap : OrderedMap String VenueCapability :=
  (∅ : OrderedMap String VenueCapability).insert "xnas" capability

def plan : ExecutionPlan := routePlan parent [(quote, 100000000)] 0

theorem admitted_but_refused : ¬∀ (parent : ParentOrder) (quotes : List VenueQuote)
        (capabilities : List VenueCapability) (plan : ExecutionPlan)
        (capMap : OrderedMap String VenueCapability),
      smartRoute parent quotes = .ok plan →
      capabilities.foldlM addCapability ∅ = .ok capMap →
      (∀ quote ∈ quotes, ∃ cap, capMap[quote.venue]? = some cap
        ∧ .limit ∈ cap.supportedOrderKinds) →
      (∀ child ∈ plan.children, AdmitsChild capMap child) →
      ∃ decisions, smartRouteWithCapabilities parent quotes capabilities
        = .ok (plan, decisions) := by
  intro h
  have hplan : smartRoute parent [quote] = .ok plan := by
    decide
  have hadded : [capability].foldlM addCapability ∅ = .ok capMap := by
    rfl
  have hcap : capMap["xnas"]? = some capability := by
    decide
  obtain ⟨decisions, hgated⟩ := h parent [quote] [capability] plan capMap hplan
    hadded
    (by
      intro quote hquote
      rw [mem_singleton.mp hquote]
      exact ⟨capability, hcap, by decide⟩)
    (by
      intro child hchild
      rw [mem_singleton.mp hchild]
      exact ⟨"xnas", capability, rfl, hcap, by decide, by decide, by decide⟩)
  have hrefused : (smartRouteWithCapabilities parent [quote]
      [capability]).toOption = none := by
    decide
  have hsome := congrArg Except.toOption hgated
  exact Option.some_ne_none _ (hsome.symm.trans hrefused)

end AdmittedOrders

end Follon.Execution
