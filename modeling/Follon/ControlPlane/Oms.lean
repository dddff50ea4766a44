import Follon.Domain.Order

/-!
# OMS orders

Orders and combination orders share one lifecycle, `isValidTransition`; a
transition outside it is refused and leaves the order as it was.
-/

namespace Follon.ControlPlane

open Domain

def isValidTransition : OrderState → OrderState → Bool
  | .created, .approved | .created, .riskRejected => true
  | .approved, .pendingSubmit => true
  | .pendingSubmit, .submitted | .pendingSubmit, .unknown => true
  | .submitted, .acknowledged | .submitted, .cancelled
  | .submitted, .rejected | .submitted, .expired
  | .submitted, .unknown => true
  | .acknowledged, .partiallyFilled | .acknowledged, .filled
  | .acknowledged, .pendingCancel | .acknowledged, .pendingReplace
  | .acknowledged, .cancelled | .acknowledged, .rejected
  | .acknowledged, .expired | .acknowledged, .unknown => true
  | .partiallyFilled, .filled | .partiallyFilled, .pendingCancel
  | .partiallyFilled, .pendingReplace | .partiallyFilled, .cancelled
  | .partiallyFilled, .rejected | .partiallyFilled, .expired
  | .partiallyFilled, .unknown => true
  | .pendingCancel, .acknowledged | .pendingCancel, .partiallyFilled
  | .pendingCancel, .filled | .pendingCancel, .cancelled
  | .pendingCancel, .rejected | .pendingCancel, .expired
  | .pendingCancel, .unknown => true
  | .pendingReplace, .acknowledged | .pendingReplace, .partiallyFilled
  | .pendingReplace, .filled | .pendingReplace, .cancelled
  | .pendingReplace, .rejected | .pendingReplace, .expired
  | .pendingReplace, .unknown => true
  | .unknown, .acknowledged | .unknown, .partiallyFilled
  | .unknown, .filled | .unknown, .cancelled | .unknown, .rejected
  | .unknown, .expired | .unknown, .pendingReplace => true
  | .cancelled, .unknown | .rejected, .unknown | .expired, .unknown => true
  | _, _ => false

def isTerminalState : OrderState → Bool
  | .riskRejected | .filled | .cancelled | .rejected | .expired => true
  | _ => false

structure OrderStateChange where
  orderId : String
  previousState : Option OrderState
  newState : OrderState
  reason : String
  deriving DecidableEq, Repr

structure OmsOrder where
  orderId : String
  intent : OrderIntent
  state : OrderState
  deriving DecidableEq, Repr

namespace OmsOrder

def orderIdFor (intentId : String) : String := "order-" ++ intentId

def fromApprovedIntent (intent : OrderIntent) (decision : RiskDecision) :
    Result OmsOrder := do
  refuseIf (decision.approved = false ∨ decision.intentId ≠ intent.intentId)
    "an OMS order requires a matching risk approval"
  pure ⟨orderIdFor intent.intentId, intent, .created⟩

def recover (orderId : String) (intent : OrderIntent) (state : OrderState) :
    Result OmsOrder := do
  intent.validate
  validateCanonicalId "order_id" orderId
  refuseIf (orderId ≠ orderIdFor intent.intentId)
    "persisted OMS order ID does not match its intent identity"
  pure ⟨orderId, intent, state⟩

def transition (order : OmsOrder) (next : OrderState) (reason : String) :
    Result (OmsOrder × OrderStateChange) := do
  refuseIf (isValidTransition order.state next = false)
    ("invalid OMS transition " ++ order.state.asStr ++ " -> " ++ next.asStr)
  pure ({ order with state := next },
    ⟨order.orderId, some order.state, next, reason⟩)

end OmsOrder

structure OmsComboOrder where
  orderId : String
  intent : ComboIntent
  state : OrderState
  deriving DecidableEq, Repr

namespace OmsComboOrder

def orderIdFor (intentId : String) : String := "combo-order-" ++ intentId

def fromApprovedIntent (intent : ComboIntent) (decision : RiskDecision) :
    Result OmsComboOrder := do
  refuseIf (decision.approved = false ∨ decision.intentId ≠ intent.intentId)
    "an OMS combination order requires a matching risk approval"
  pure ⟨orderIdFor intent.intentId, intent, .created⟩

def recover (orderId : String) (intent : ComboIntent) (state : OrderState) :
    Result OmsComboOrder := do
  intent.validate
  validateCanonicalId "combo order_id" orderId
  refuseIf (orderId ≠ orderIdFor intent.intentId)
    "persisted OMS combination order ID does not match its intent identity"
  pure ⟨orderId, intent, state⟩

def transition (order : OmsComboOrder) (next : OrderState) (reason : String) :
    Result (OmsComboOrder × OrderStateChange) := do
  refuseIf (isValidTransition order.state next = false)
    ("invalid OMS combination transition " ++ order.state.asStr ++ " -> " ++
      next.asStr)
  pure ({ order with state := next },
    ⟨order.orderId, some order.state, next, reason⟩)

end OmsComboOrder

/-! ## What a transition does -/

variable {next : OrderState} {reason : String} {change : OrderStateChange}

theorem OmsOrder.transition_eq_ok {order order' : OmsOrder} :
    order.transition next reason = .ok (order', change) ↔
      isValidTransition order.state next = true ∧
        order' = { order with state := next } ∧
          change = ⟨order.orderId, some order.state, next, reason⟩ := by
  simp only [OmsOrder.transition, bind_eq_ok, refuseIf_eq_ok,
    Bool.not_eq_false, pure_eq_ok, Prod.mk.injEq]
  constructor
  · rintro ⟨-, hvalid, rfl, rfl⟩
    exact ⟨hvalid, rfl, rfl⟩
  · rintro ⟨hvalid, rfl, rfl⟩
    exact ⟨(), hvalid, rfl, rfl⟩

theorem OmsComboOrder.transition_eq_ok {order order' : OmsComboOrder} :
    order.transition next reason = .ok (order', change) ↔
      isValidTransition order.state next = true ∧
        order' = { order with state := next } ∧
          change = ⟨order.orderId, some order.state, next, reason⟩ := by
  simp only [OmsComboOrder.transition, bind_eq_ok, refuseIf_eq_ok,
    Bool.not_eq_false, pure_eq_ok, Prod.mk.injEq]
  constructor
  · rintro ⟨-, hvalid, rfl, rfl⟩
    exact ⟨hvalid, rfl, rfl⟩
  · rintro ⟨hvalid, rfl, rfl⟩
    exact ⟨(), hvalid, rfl, rfl⟩

theorem OmsOrder.orderIdFor_injective : Function.Injective OmsOrder.orderIdFor := by
  intro a b h
  have hlist := congrArg String.toList h
  simp only [orderIdFor, String.toList_append] at hlist
  exact String.toList_inj.mp (List.append_cancel_left hlist)

end Follon.ControlPlane
