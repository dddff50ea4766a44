import Follon.Execution.Plan
import Follon.Foundation.OrderedMap

/-!
# Smart routing

Venue quotes are sorted by their price with the fee, and the parent is allocated
to them in turn.  The gated router also asks every venue for a capability and
stays within its quantity bounds.
-/

namespace Follon.Execution

open Foundation Domain

structure VenueQuote where
  venue : String
  (availableQuantity price feePerUnit : Decimal)
  latencyRank : Nat
  deriving DecidableEq

/-! ## The order of quotes -/

def allInPrice (side : Side) (quote : VenueQuote) : Result Decimal :=
  match side with
  | .buy => quote.price.checkedAdd quote.feePerUnit
  | .sell => quote.price.checkedSub quote.feePerUnit

def comparePrices (side : Side) (left right : VenueQuote) : Ordering :=
  match allInPrice side left, allInPrice side right, side with
  | .ok leftPrice, .ok rightPrice, .buy =>
    compare leftPrice.scaled rightPrice.scaled
  | .ok leftPrice, .ok rightPrice, .sell =>
    compare rightPrice.scaled leftPrice.scaled
  | _, _, _ => .eq

def compareQuotes (side : Side) (left right : VenueQuote) : Ordering :=
  (comparePrices side left right).then
    ((compare left.latencyRank right.latencyRank).then
      ((compare left.venue right.venue).then (compare right.availableQuantity.scaled
          left.availableQuantity.scaled)))

def NotAfter (side : Side) (left right : VenueQuote) : Prop :=
  (compareQuotes side left right).isLE = true

instance (side : Side) : DecidableRel (NotAfter side) :=
  fun left right =>
    inferInstanceAs (Decidable ((compareQuotes side left right).isLE = true))

/-- The stable `sort_by` of the quotes.  On a comparison that is no order, the
standard library promises nothing of it. -/
def ordered (side : Side) (quotes : List VenueQuote) : List VenueQuote :=
  quotes.insertionSort (NotAfter side)

/-! ## Children -/

def validateQuote (quote : VenueQuote) : Result Unit := do
  validateCanonicalId "venue" quote.venue
  refuseIf (quote.availableQuantity ≤ Decimal.zero
    ∨ quote.price ≤ Decimal.zero ∨ quote.feePerUnit < Decimal.zero)
    "invalid smart-routing quote"

def isWithinLimit (parent : ParentOrder) (quote : VenueQuote) : Bool :=
  match parent.side, parent.limitPrice with
  | .buy, some limit => quote.price ≤ limit
  | .sell, some limit => limit ≤ quote.price
  | _, none => true

/-- `format!("{}.{stem}.{index:04}", parent.parent_order_id)`. -/
def routeId (parent : ParentOrder) (stem : String) (index : Nat) : String :=
  parent.parentOrderId ++
    String.ofList ('.' :: stem.toList ++ ['.'] ++ zeroPadded 4 index)

def routeChild (parent : ParentOrder) (index : Nat) (quote : VenueQuote)
    (quantity : Decimal) : ChildInstruction where
  childOrderId := routeId parent "route" (index + 1)
  scheduledAfterSeconds := 0
  venue := some quote.venue
  quantity := quantity
  kind := .limit
  limitPrice := some quote.price
  stopPrice := none

/-! ## The router -/

def routeQuotes (parent : ParentOrder) :
    List VenueQuote → (index : Nat) → (remaining : Decimal) →
      Result (List ChildInstruction × Decimal)
  | [], _, remaining => .ok ([], remaining)
  | quote :: rest, index, remaining =>
    if remaining = Decimal.zero then
      .ok ([], remaining)
    else if isWithinLimit parent quote then do
      let quantity := quote.availableQuantity.min remaining
      let remaining ← remaining.checkedSub quantity
      let (children, remaining) ←
        routeQuotes parent rest (index + 1) remaining
      pure (routeChild parent index quote quantity :: children, remaining)
    else
      routeQuotes parent rest index remaining

def smartRoute (parent : ParentOrder) (quotes : List VenueQuote) :
    Result ExecutionPlan := do
  parent.validate
  refuseIf (quotes.isEmpty = true ∨ 1000 < quotes.length)
    "smart routing requires venue quotes"
  checkAll validateQuote quotes
  let (children, remaining) ←
    routeQuotes parent (ordered parent.side quotes) 0 parent.quantity
  let plan : ExecutionPlan :=
    { parentOrderId := parent.parentOrderId, algorithm := "smart-router-v1"
      children := children, unallocatedQuantity := remaining }
  plan.validateAgainst parent
  pure plan

/-! ## Capabilities -/

structure VenueCapability where
  (venue capabilityVersion : String)
  supportedOrderKinds : List ChildOrderKind
  supportsIceberg : Bool
  (minQuantity maxQuantity : Option Decimal)
  deriving DecidableEq

def VenueCapability.validate (cap : VenueCapability) : Result Unit := do
  validateCanonicalId "venue" cap.venue
  validateCanonicalId "capability_version" cap.capabilityVersion
  refuseIf (cap.supportedOrderKinds.isEmpty = true)
    "venue capability must declare at least one supported order kind"
  refuseIf (isNonpositive cap.minQuantity = true)
    "min_quantity must be positive"
  refuseIf (isNonpositive cap.maxQuantity = true)
    "max_quantity must be positive"
  refuseIf (∃ low ∈ cap.minQuantity, ∃ high ∈ cap.maxQuantity, high < low)
    "venue min_quantity cannot exceed max_quantity"

def addCapability (capMap : OrderedMap String VenueCapability)
    (cap : VenueCapability) : Result (OrderedMap String VenueCapability) := do
  cap.validate
  refuseIf (cap.venue ∈ capMap)
    ("duplicate capability record for venue '" ++ cap.venue ++ "'")
  pure (capMap.insert cap.venue cap)

structure RouteDecision where
  (decisionId parentOrderId venue capabilityVersion : String)
  (allocatedQuantity allInPrice feePerUnit : Decimal)
  latencyRank : Nat
  deriving DecidableEq

def validateQuotedVenue (capMap : OrderedMap String VenueCapability)
    (quote : VenueQuote) : Result Unit := do
  validateQuote quote
  match capMap[quote.venue]? with
  | none =>
    .error ⟨"routing refused: unknown venue capability for '" ++ quote.venue ++ "'"⟩
  | some cap =>
    refuseIf (.limit ∉ cap.supportedOrderKinds)
      ("routing refused: venue '" ++ quote.venue
        ++ "' does not support required order kind Limit")

def availableAt (cap : VenueCapability) (quote : VenueQuote) : Decimal :=
  match cap.maxQuantity with
  | some high => quote.availableQuantity.min high
  | none => quote.availableQuantity

def tradeable (cap : VenueCapability) (quote : VenueQuote)
    (remaining : Decimal) : Option Decimal :=
  let available := availableAt cap quote
  let quantity := available.min remaining
  match cap.minQuantity with
  | some low =>
    if available < low then none
    else if quantity < low then none
    else some quantity
  | none => some quantity

/-- The loop of `smart_route_with_capabilities`, after `index` children. -/
def routeGated (parent : ParentOrder) (capMap : OrderedMap String VenueCapability) :
    List VenueQuote → (index : Nat) → (remaining : Decimal) →
      Result (List (ChildInstruction × RouteDecision) × Decimal)
  | [], _, remaining => .ok ([], remaining)
  | quote :: rest, index, remaining =>
    if remaining = Decimal.zero then
      .ok ([], remaining)
    else
      match capMap[quote.venue]? with
      | none => .error ⟨"validated"⟩
      | some cap =>
        match tradeable cap quote remaining with
        | none => routeGated parent capMap rest index remaining
        | some quantity =>
          if isWithinLimit parent quote then do
            let allIn ← allInPrice parent.side quote
            let decision : RouteDecision :=
              { decisionId := routeId parent "decision" (index + 1)
                parentOrderId := parent.parentOrderId, venue := quote.venue
                capabilityVersion := cap.capabilityVersion
                allocatedQuantity := quantity, allInPrice := allIn
                feePerUnit := quote.feePerUnit
                latencyRank := quote.latencyRank }
            let remaining ← remaining.checkedSub quantity
            let (routed, remaining) ←
              routeGated parent capMap rest (index + 1) remaining
            pure ((routeChild parent index quote quantity, decision) :: routed, remaining)
          else
            routeGated parent capMap rest index remaining

def smartRouteWithCapabilities (parent : ParentOrder)
    (quotes : List VenueQuote) (capabilities : List VenueCapability) :
    Result (ExecutionPlan × List RouteDecision) := do
  parent.validate
  refuseIf (quotes.isEmpty = true ∨ 1000 < quotes.length)
    "smart routing requires between 1 and 1000 venue quotes"
  let capMap ← capabilities.foldlM addCapability ∅
  checkAll (validateQuotedVenue capMap) quotes
  let (routed, remaining) ←
    routeGated parent capMap (ordered parent.side quotes) 0 parent.quantity
  let plan : ExecutionPlan :=
    { parentOrderId := parent.parentOrderId, algorithm := "smart-router-v1"
      children := routed.map Prod.fst, unallocatedQuantity := remaining }
  plan.validateAgainst parent
  pure (plan, routed.map Prod.snd)

end Follon.Execution
