import Follon.Execution.PlanEvidence
import Follon.Execution.RouteOptimality
import Follon.Execution.GatedRefinement

/-!
# Evidence of routed plans

The record refuses a decision without a positive price with its fee, and the
router does not.  What the router makes is recorded unless a sell reaches a
quote whose fee takes its whole price.
-/

namespace Follon.Execution

open Foundation Domain

/-! ## What a sell leaves for its worst quotes -/

def isSolvent (quote : VenueQuote) : Bool := quote.feePerUnit.scaled < quote.price.scaled

def solventLeft (parent : ParentOrder)
    (capMap : OrderedMap String VenueCapability) (quotes : List VenueQuote) : Int :=
  leftover (gatedSize parent capMap) parent.quantity.scaled
    ((ordered parent.side quotes).filter isSolvent)

variable {quotes : List VenueQuote} {row : VenueQuote × Int} {price : Decimal}

theorem allInFits_sell {parent : ParentOrder} (h : RouteInputs parent quotes)
    : AllInFits .sell quotes := by
  intro quote hquote
  have hvalid := h.quotes quote hquote
  have hprice := hvalid.price
  have hfee := hvalid.feePerUnit
  have hpriceMax := quote.price.le_max
  have hfeeMax := quote.feePerUnit.le_max
  have hrange : i128Min ≤ -i128Max := by decide
  simp only [allInPrice, checkedSub_eq_ok]
  exact ⟨⟨quote.price.scaled - quote.feePerUnit.scaled, by omega, by omega⟩, rfl⟩

theorem solvent_rows_iff {parent : ParentOrder}
    {capMap : OrderedMap String VenueCapability} (hside : parent.side = .sell)
    (h : RouteInputs parent quotes) :
    (∀ row ∈ routedRows (gatedSize parent capMap) parent quotes, isSolvent row.1 = true) ↔
      ∀ quote ∈ quotes, isSolvent quote = false →
        gatedSize parent capMap quote (solventLeft parent capMap quotes) = 0 := by
  have hgives := gives_gatedSize parent capMap
  have hquantity := h.parent.quantity.le
  have hsplit : ordered parent.side quotes
      = (ordered parent.side quotes).filter isSolvent
        ++ (ordered parent.side quotes).filter fun quote =>
          !isSolvent quote := by
    apply eq_filter_append
    rw [hside]
    refine (unitValue_sorted (allInFits_sell h)).imp ?_
    intro a b hle
    simp only [unitValue, isSolvent, decide_eq_true_eq] at hle ⊢
    omega
  have hleft : 0 ≤ solventLeft parent capMap quotes :=
    (hgives.leftover_bounds hquantity _).1
  have hrows : routedRows (gatedSize parent capMap) parent quotes
      = taken (gatedSize parent capMap) parent.quantity.scaled
          ((ordered parent.side quotes).filter isSolvent)
        ++ taken (gatedSize parent capMap) (solventLeft parent capMap quotes)
          ((ordered parent.side quotes).filter fun quote =>
            !isSolvent quote) := by
    rw [routedRows, solventLeft, ← taken_append, ← hsplit]
  have hnothing : (∀ quote ∈ quotes, isSolvent quote = false →
      gatedSize parent capMap quote (solventLeft parent capMap quotes) = 0) ↔
      taken (gatedSize parent capMap) (solventLeft parent capMap quotes)
        ((ordered parent.side quotes).filter fun quote =>
          !isSolvent quote) = [] := by
    rw [Gives.taken_eq_nil_iff hgives hleft]
    simp [mem_filter, mem_ordered]
  rw [hnothing, hrows]
  constructor
  · intro hall
    rw [List.eq_nil_iff_forall_not_mem]
    intro row hrow
    have hmem := (hgives.taken_bounds hleft _ row hrow).1
    have hsolvent := hall row (mem_append_right _ hrow)
    simp [mem_filter, hsolvent] at hmem
  · intro hnil row hrow
    rw [hnil, append_nil] at hrow
    have hmem := (hgives.taken_bounds hquantity _ row hrow).1
    exact (mem_filter.mp hmem).2

/-! ## Decisions -/

theorem canonicalVersion_of_validate {cap : VenueCapability} {u : Unit}
    (h : cap.validate = .ok u) : isCanonicalId cap.capabilityVersion = true := by
  simp only [VenueCapability.validate, bind_eq_ok,
    validateCanonicalId_eq_ok] at h
  obtain ⟨-, -, -, hversion, -⟩ := h
  exact hversion

theorem decisionValid_rowDecision {parent : ParentOrder}
    {capMap : OrderedMap String VenueCapability} {index : Nat}
    (hparent : parent.Valid) (hquote : row.1.Valid) (hpositive : 0 < row.2)
    (hbound : row.2 ≤ parent.quantity.scaled)
    (hversion : ∃ cap, capMap[row.1.venue]? = some cap
      ∧ isCanonicalId cap.capabilityVersion = true)
    (hprice : allInPrice parent.side row.1 = .ok price) :
    DecisionValid parent (rowDecision parent capMap index row) ↔
      0 < price.scaled := by
  obtain ⟨cap, hcap, hcanonical⟩ := hversion
  have hallIn : (rowDecision parent capMap index row).allInPrice = price := by
    simp only [rowDecision, hprice]
    rfl
  constructor
  · intro h
    rw [← hallIn]
    exact h.allInPrice
  · intro h
    refine ⟨isCanonicalId_numbered 4 _ hparent.parentOrderId (by decide), rfl,
      hquote.venue, ?_, ?_, by rwa [hallIn], hquote.feePerUnit⟩
    · simpa [rowDecision, hcap] using hcanonical
    · simpa [rowDecision, scaled_decimalOf hpositive.le hbound] using hpositive

theorem allInPrice_pos_iff {side : Side} {quote : VenueQuote}
    (hquote : quote.Valid) (h : allInPrice side quote = .ok price) :
    0 < price.scaled ↔ (side = .sell → isSolvent quote = true) := by
  have hprice := hquote.price
  have hfee := hquote.feePerUnit
  cases side with
  | buy =>
    simp only [allInPrice, checkedAdd_eq_ok] at h
    simp only [reduceCtorEq, false_implies, iff_true]
    omega
  | sell =>
    simp only [allInPrice, checkedSub_eq_ok] at h
    simp only [isSolvent, true_implies, decide_eq_true_eq]
    omega

theorem map_snd_rowRoutes (parent : ParentOrder)
    (capMap : OrderedMap String VenueCapability) (index : Nat)
    (rows : List (VenueQuote × Int)) : (rowRoutes parent capMap index rows).map Prod.snd
      = rows.mapIdx fun later row =>
        rowDecision parent capMap (later + index) row := by
  apply List.ext_getElem <;> simp [rowRoutes]

/-! ## The record -/

theorem decisionValid_routed {parent : ParentOrder}
    {capabilities : List VenueCapability} {capMap : OrderedMap String VenueCapability}
    (hadded : capabilities.foldlM addCapability ∅ = .ok capMap)
    (hinputs : GatedInputs parent quotes capMap) (hallIn : AllInRows parent.side
      (routedRows (gatedSize parent capMap) parent quotes)) (index : Nat)
    (hrow : row ∈ routedRows (gatedSize parent capMap) parent quotes) :
    DecisionValid parent (rowDecision parent capMap index row) ↔
      (parent.side = .sell → isSolvent row.1 = true) := by
  have hgives := gives_gatedSize parent capMap
  obtain ⟨hquote, hpositive, hbound⟩ :=
    routable_routedRows hgives hinputs.route row hrow
  obtain ⟨price, hprice⟩ := hallIn row hrow
  have hmem := (hgives.taken_bounds hinputs.route.parent.quantity.le _ row hrow).1
  obtain ⟨cap, hcap, -⟩ := hinputs.capability row.1 (mem_ordered.mp hmem)
  have hversion := canonicalVersion_of_validate
    (validated_of_added hadded _ _ hcap)
  rw [decisionValid_rowDecision hinputs.route.parent hquote hpositive hbound
    ⟨cap, hcap, hversion⟩ hprice]
  exact allInPrice_pos_iff hquote hprice

theorem forall_decisions_iff {parent : ParentOrder}
    {capMap : OrderedMap String VenueCapability}
    {rows : List (VenueQuote × Int)} {P : RouteDecision → Prop}
    {Q : VenueQuote × Int → Prop}
    (h : ∀ index, ∀ row ∈ rows, P (rowDecision parent capMap index row) ↔ Q row) :
    (∀ decision ∈ (rowRoutes parent capMap 0 rows).map Prod.snd, P decision) ↔
      ∀ row ∈ rows, Q row := by
  rw [map_snd_rowRoutes]
  constructor
  · intro hall row hrow
    obtain ⟨position, hposition, hget⟩ := List.getElem_of_mem hrow
    rw [← hget]
    apply (h (position + 0) _ (List.getElem_mem hposition)).mp
    apply hall
    exact List.mem_mapIdx.mpr ⟨position, hposition, rfl⟩
  · intro hall decision hdecision
    rw [List.mem_mapIdx] at hdecision
    obtain ⟨position, hposition, rfl⟩ := hdecision
    have hmem := List.getElem_mem hposition
    exact (h _ _ hmem).mpr (hall _ hmem)

/-- What the gated router makes is recorded exactly when, on a sell, the quotes
whose fee takes their whole price get nothing of what the others leave. -/
theorem routed_recorded_iff [ContentHash] {parent : ParentOrder}
    {quotes : List VenueQuote} {capabilities : List VenueCapability}
    {capMap : OrderedMap String VenueCapability} {plan : ExecutionPlan}
    {decisions : List RouteDecision} {evidenceId : String}
    {sourceCapabilityVersion : Option String}
    {benchmarks : Option ExecutionBenchmarkEvidence} {createdAt : String}
    (hrouted : smartRouteWithCapabilities parent quotes capabilities
      = .ok (plan, decisions)) (hadded : capabilities.foldlM addCapability ∅ = .ok capMap)
    (hannotated : Annotated parent evidenceId sourceCapabilityVersion
      benchmarks createdAt) :
    (∃ evidence, ExecutionPlanEvidence.new evidenceId parent plan
        sourceCapabilityVersion decisions benchmarks createdAt = .ok evidence) ↔
      (parent.side = .sell → ∀ quote ∈ quotes, isSolvent quote = false →
        gatedSize parent capMap quote (solventLeft parent capMap quotes)
          = 0) := by
  obtain ⟨added, hsame, hinputs, hallIn, hresult⟩ :=
    smartRouteWithCapabilities_ok_iff.mp hrouted
  obtain rfl := Except.ok.inj (hadded.symm.trans hsame)
  obtain ⟨rfl, rfl⟩ := Prod.mk.inj hresult
  have hdecisions := forall_decisions_iff
    fun index row hrow => decisionValid_routed hadded hinputs hallIn index hrow
  have haccepted := routed_accepted (gives_gatedSize parent capMap)
    hinputs.route
  rw [new_ok_iff hannotated, hdecisions]
  constructor
  · rintro ⟨-, -, hsolvent⟩ hside
    exact (solvent_rows_iff hside hinputs.route).mp
      fun row hrow => hsolvent row hrow hside
  · intro hidle
    refine ⟨hinputs.route.parent, haccepted, ?_⟩
    intro row hrow hside
    exact (solvent_rows_iff hside hinputs.route).mpr (hidle hside) row hrow

/-! ## Fees above and below the price -/

namespace SellFees

def one : Decimal := .one

def two : Decimal := .two

def parent : ParentOrder := ⟨"parent-1", "acct-1", "aapl", .sell, one, none⟩

def capability : VenueCapability := ⟨"xnas", "v1", [.limit], false, none, none⟩

def capMap : OrderedMap String VenueCapability :=
  (∅ : OrderedMap String VenueCapability).insert "xnas" capability

def quote (price fee : Decimal) : VenueQuote := ⟨"xnas", one, price, fee, 1⟩

def plan (price fee : Decimal) : ExecutionPlan :=
  routePlan parent [(quote price fee, 100000000)] 0

def decisions (price fee : Decimal) : List RouteDecision :=
  [rowDecision parent capMap 0 (quote price fee, 100000000)]

theorem annotated : Annotated parent "evidence-1" none none "2026-01-02T00:00:00Z" where
  evidenceId := by decide
  version := rfl
  benchmark := rfl
  createdAt := by decide

@[reducible] def contentHash : ContentHash :=
  ⟨fun _ =>
    "a205d39ce28aee401fd46a7e57572521736ac71f851e69821654ae2eda1f078f"⟩

attribute [local instance] contentHash

theorem routed_recorded_iff_below :
    ∃ evidence, ExecutionPlanEvidence.new "evidence-1" parent (plan two one)
      none (decisions two one) none "2026-01-02T00:00:00Z" = .ok evidence := by
  have hrouted : smartRouteWithCapabilities parent [quote two one] [capability]
      = .ok (plan two one, decisions two one) := by
    decide
  apply (routed_recorded_iff hrouted rfl annotated).mpr
  intro _ quote hquote hsolvent
  rw [mem_singleton.mp hquote] at hsolvent
  exact absurd hsolvent (by decide)

theorem routed_but_refused :
    ¬∀ [ContentHash] (parent : ParentOrder) (quotes : List VenueQuote)
        (capabilities : List VenueCapability) (plan : ExecutionPlan)
        (decisions : List RouteDecision) (evidenceId : String)
        (sourceCapabilityVersion : Option String)
        (benchmarks : Option ExecutionBenchmarkEvidence) (createdAt : String),
      smartRouteWithCapabilities parent quotes capabilities = .ok (plan, decisions) →
      Annotated parent evidenceId sourceCapabilityVersion benchmarks
        createdAt →
      ∃ evidence, ExecutionPlanEvidence.new evidenceId parent plan
        sourceCapabilityVersion decisions benchmarks createdAt
          = .ok evidence := by
  intro h
  have hrouted : smartRouteWithCapabilities parent [quote one two] [capability]
      = .ok (plan one two, decisions one two) := by
    decide
  have hrecorded := h parent [quote one two] [capability] (plan one two)
    (decisions one two) "evidence-1" none none "2026-01-02T00:00:00Z" hrouted
    annotated
  have hdecisions := ((new_ok_iff annotated).mp hrecorded).2.2
  have hpositive := (hdecisions _ (mem_singleton.mpr rfl)).allInPrice
  exact absurd hpositive (by decide)

end SellFees

end Follon.Execution
