import Follon.Execution.RouteRows

/-!
# The best route

Against every other way to allocate the parent to the quotes, within their sizes
and the parent's limit, the router fills as much, and the same for as good a
price with fees.
-/

namespace Follon.Execution

open Foundation Domain

structure Allocation (parent : ParentOrder) (quotes : List VenueQuote)
    (rows : List (VenueQuote × Int)) : Prop where
  quotes : (rows.map Prod.fst).Perm quotes
  sizes : ∀ row ∈ rows, 0 ≤ row.2 ∧ row.2 ≤ row.1.availableQuantity.scaled
  limit : ∀ row ∈ rows, isWithinLimit parent row.1 = false → row.2 = 0
  quantity : filled rows ≤ parent.quantity.scaled

theorem Allocation.within {parent : ParentOrder} {quotes : List VenueQuote}
    {rows : List (VenueQuote × Int)} (h : Allocation parent quotes rows) :
    Within (offeredSize parent) rows := by
  intro row hrow
  obtain ⟨hnonneg, hle⟩ := h.sizes row hrow
  refine ⟨hnonneg, ?_⟩
  unfold offeredSize
  split
  · omega
  · next hclosed =>
    rw [h.limit row hrow (by simpa using hclosed)]

theorem unitValue_sorted {side : Side} {quotes : List VenueQuote}
    (hfits : AllInFits side quotes) : (ordered side quotes).Pairwise fun a b =>
      unitValue side b ≤ unitValue side a := by
  rw [ordered_eq hfits]
  refine (pairwise_insertionSort (ByKey (quoteKey side)) quotes).imp ?_
  intro a b h
  rw [ByKey, quoteKey, quoteKey, Prod.Lex.toLex_le_toLex] at h
  simp only at h
  omega

theorem routed_allocation {parent : ParentOrder} {quotes : List VenueQuote}
    (h : RouteInputs parent quotes) : Allocation parent quotes
      (fill (capped (offeredSize parent)) parent.quantity.scaled
        (ordered parent.side quotes)) := by
  have hoffered : ∀ quote ∈ ordered parent.side quotes,
      0 ≤ offeredSize parent quote :=
    fun quote _ => offeredSize_nonneg parent quote
  have hquantity := h.parent.quantity.le
  have hwithin := fill_within hoffered hquantity
  have hquotes := fill_map_fst (capped (offeredSize parent))
    parent.quantity.scaled (ordered parent.side quotes)
  constructor
  · rw [hquotes]
    exact perm_insertionSort _ _
  · intro row hrow
    obtain ⟨hnonneg, hle⟩ := hwithin row hrow
    have hmem : row.1 ∈ ordered parent.side quotes := by
      rw [← hquotes]
      exact mem_map_of_mem hrow
    have hpositive := (h.quotes row.1 (mem_ordered.mp hmem)).availableQuantity
    refine ⟨hnonneg, hle.trans ?_⟩
    unfold offeredSize
    split <;> omega
  · intro row hrow hclosed
    obtain ⟨hnonneg, hle⟩ := hwithin row hrow
    rw [offeredSize, hclosed] at hle
    simp at hle
    omega
  · rw [filled_fill hoffered hquantity]
    exact min_le_left _ _

/-- A unit of a bought quote is worth less the more it costs with its fee, a
unit of a sold one what is left of its price. -/
theorem smart_route_optimal (parent : ParentOrder) (quotes : List VenueQuote)
    (plan : ExecutionPlan) (hfits : AllInFits parent.side quotes)
    (h : smartRoute parent quotes = .ok plan) :
    ∃ rows, Allocation parent quotes rows ∧ plan.children
        = rowChildren parent 0 (rows.filter fun row => 0 < row.2)
      ∧ ∀ other, Allocation parent quotes other → filled other ≤ filled rows
          ∧ (filled other = filled rows → worth (unitValue parent.side) other
              ≤ worth (unitValue parent.side) rows) := by
  obtain ⟨hinputs, rfl⟩ := smartRoute_eq_ok.mp h
  refine ⟨_, routed_allocation hinputs, rfl, fun other hother => ?_⟩
  apply fill_optimal _ (unitValue_sorted hfits) hinputs.parent.quantity.le
  · exact hother.quotes.trans (perm_insertionSort _ _).symm
  · exact hother.within
  · exact hother.quantity
  · exact fun quote _ => offeredSize_nonneg parent quote

namespace OptimalRun

def decimal (units : Int) : Decimal :=
  (Decimal.fromInteger units).toOption.getD Decimal.zero

def parent : ParentOrder where
  parentOrderId := "p"
  accountId := "a"
  instrumentId := "i"
  side := .buy
  quantity := decimal 5
  limitPrice := none

def quotes : List VenueQuote :=
  [⟨"x", decimal 4, decimal 10, decimal 2, 0⟩, ⟨"y", decimal 4, decimal 11, decimal 0, 0⟩]

theorem smart_route_optimal_five : ∃ plan, smartRoute parent quotes = .ok plan
      ∧ ∃ rows, Allocation parent quotes rows ∧ plan.children
          = rowChildren parent 0 (rows.filter fun row => 0 < row.2)
        ∧ ∀ other, Allocation parent quotes other → filled other ≤ filled rows
            ∧ (filled other = filled rows → worth (unitValue parent.side) other
                ≤ worth (unitValue parent.side) rows) := by
  obtain ⟨plan, h⟩ : ∃ plan, smartRoute parent quotes = .ok plan := by
    decide
  have hfits : AllInFits parent.side quotes := by
    unfold AllInFits
    decide
  exact ⟨plan, h, smart_route_optimal parent quotes plan hfits h⟩

end OptimalRun

end Follon.Execution
