import Follon.Paper.EventEffects
import Follon.Paper.Edits

/-!
# What an event does to its order

The lifecycle state each handler leads to, as a function of the state it
finds, and what each handler leaves when it returns.
-/

namespace Follon.Paper

open Foundation Domain ControlPlane

/-! ## States -/

def confirmedState : OrderState → Option OrderState
  | .pendingSubmit | .submitted | .unknown => some .acknowledged
  | .acknowledged => some .acknowledged
  | .partiallyFilled => some .partiallyFilled
  | .filled => some .filled
  | .pendingCancel => some .pendingCancel
  | .pendingReplace => some .pendingReplace
  | _ => none

def reopenedState (state : OrderState) : OrderState :=
  if PaperOrder.isUnfilledTerminal state = true then .unknown else state

def finishedState (terminal : OrderState) : OrderState → Option OrderState
  | .pendingSubmit | .submitted | .acknowledged | .partiallyFilled
  | .pendingCancel | .pendingReplace | .unknown => some terminal
  | .filled => some .filled
  | .cancelled => some .cancelled
  | .rejected => some .rejected
  | .expired => some .expired
  | _ => none

def countedState (total quantity : Decimal) (state : OrderState) : OrderState :=
  if total = quantity then .filled
  else if state = .acknowledged then .partiallyFilled
  else state

def awaitsAnswer (pending : OrderState) (state : OrderState) : Bool :=
  state == pending || state == .unknown

def isClosedState : OrderState → Bool
  | .filled | .cancelled | .rejected | .expired => true
  | _ => false

namespace PaperOrder

/-! ## Moves -/

theorem move_run (order : PaperOrder) (next : OrderState) (reason : String) :
    (move next reason).run order
      = if isValidTransition order.oms.state next = true then
          (.ok (), order.inState next)
        else
          (.error ⟨"invalid OMS transition " ++ order.oms.state.asStr ++
            " -> " ++ next.asStr⟩, order) := by
  split
  · next h => exact move_ok h reason
  · next h =>
      rw [not_eq_true] at h
      have htransition : order.oms.transition next reason
          = .error ⟨"invalid OMS transition " ++ order.oms.state.asStr ++
            " -> " ++ next.asStr⟩ := by
        rw [OmsOrder.transition, refuseIf, if_pos h]
        rfl
      simp [move, htransition]

variable {order order' : PaperOrder} {reason : String} {u : Unit}

theorem transitionToAcknowledged_eq_ok :
    (transitionToAcknowledged reason).run order = (.ok u, order') ↔
      ∃ state, confirmedState order.oms.state = some state ∧
        order' = order.inState state := by
  have hsame : ∀ state, order.oms.state = state →
      order = order.inState state := by
    rintro _ rfl
    rfl
  rw [transitionToAcknowledged, run_read_bind]
  cases hstate : order.oms.state <;>
    simp [Fallible.run_bind, move_run, hstate, isValidTransition,
      confirmedState, ← hsame _ hstate, eq_comm]

theorem move_eq_ok {next : OrderState} : (move next reason).run order = (.ok u, order') ↔
      isValidTransition order.oms.state next = true ∧
        order' = order.inState next := by
  rw [move_run]
  split
  · next h => simp [h, eq_comm]
  · next h => simp [h]

theorem reopenLate_run (order : PaperOrder) (reason : String) :
    (reopenLate reason).run order
      = (.ok (), order.inState (reopenedState order.oms.state)) := by
  have hsame : order.inState order.oms.state = order := rfl
  rw [reopenLate, run_read_bind]
  split
  · next h =>
      have hvalid : isValidTransition order.oms.state .unknown = true := by
        revert h
        cases order.oms.state <;> decide
      rw [move_ok hvalid, reopenedState, if_pos h]
  · next h =>
      rw [reopenedState, if_neg h, hsame]
      rfl

theorem transitionToTerminal_eq_ok {order order' : PaperOrder}
    {terminal : OrderState} {reason : String} {u : Unit}
    (hterminal : isUnfilledTerminal terminal = true) :
    (transitionToTerminal terminal reason).run order = (.ok u, order') ↔
      ∃ state, finishedState terminal order.oms.state = some state ∧
        order' = order.inState state ∧ ¬(isUnfilledTerminal state = true ∧
            order.oms.intent.quantity ≤ order.filledQuantity) := by
  have hsame : ∀ state, order.oms.state = state →
      order.inState state = order := by
    rintro _ rfl
    rfl
  have henter : (enterTerminal terminal reason).run order
      = (finishedState terminal order.oms.state).elim
          (.error ⟨"broker terminal event is incompatible with OMS state"⟩, order)
          fun state => (.ok (), order.inState state) := by
    rw [enterTerminal, run_read_bind]
    cases terminal <;> simp [isUnfilledTerminal] at hterminal <;>
      cases hstate : order.oms.state <;>
        simp [Fallible.run_bind, move_run, hstate, isValidTransition,
          finishedState, hsame _ hstate]
  rw [transitionToTerminal, Fallible.run_bind, henter]
  cases finishedState terminal order.oms.state with
  | none => simp
  | some state =>
    simp only [Option.elim_some, run_read_bind, run_lift, Prod.mk.injEq,
      refuseIf_eq_ok, Option.some.injEq, exists_eq_left']
    exact ⟨fun h => ⟨h.2.symm, h.1⟩, fun h => ⟨h.2, h.1.symm⟩⟩

/-! ## Handlers -/

def Recognizes (order : PaperOrder) (brokerOrderId : String) : Prop :=
  order.namesOtherVersion brokerOrderId = true → brokerOrderId ∈ order.brokerOrderVersions

theorem applyAcknowledged_eq_ok {id : String}
    (h : (applyAcknowledged id).run order = (.ok u, order')) : order.Recognizes id ∧
      (order.namesOtherVersion id = true ∧ order' = order ∨
        order.namesOtherVersion id = false ∧
          (order.isTerminal = true ∧ order' = order.noteVersion id ∨
            order.isTerminal = false ∧
              ∃ state, confirmedState order.oms.state = some state ∧
                order' = (order.noteVersion id).inState state)) := by
  rw [applyAcknowledged, run_read_bind] at h
  split at h
  · next hother =>
      rw [run_lift, Prod.mk.injEq, refuseIf_eq_ok,
        Decidable.not_not] at h
      exact ⟨fun _ => h.1, .inl ⟨hother, h.2.symm⟩⟩
  · next hother =>
      rw [not_eq_true] at hother
      refine ⟨by simp [Recognizes, hother], .inr ⟨hother, ?_⟩⟩
      simp only [run_update_bind, run_read_bind] at h
      split at h
      · next hterminal =>
          rw [run_pure, Prod.mk.injEq] at h
          exact .inl ⟨hterminal, h.2.symm⟩
      · next hterminal =>
          obtain ⟨state, hstate, rfl⟩ := transitionToAcknowledged_eq_ok.mp h
          exact .inr ⟨not_eq_true _ ▸ hterminal, state, hstate, rfl⟩

theorem concludeFill_eq_ok {total : Decimal}
    (h : (concludeFill total).run order = (.ok u, order')) : order' = order.inState
      (countedState total order.oms.intent.quantity order.oms.state) := by
  rw [concludeFill, run_read_bind] at h
  unfold countedState
  split at h
  · next hfull =>
      rw [if_pos hfull]
      split at h
      · exact (move_eq_ok.mp h).2
      · next hstate =>
          rw [Decidable.not_not] at hstate
          rw [run_pure, Prod.mk.injEq] at h
          rw [← h.2, ← hstate]
          rfl
  · next hpart =>
      rw [if_neg hpart]
      split at h
      · next hstate =>
          rw [if_pos hstate]
          exact (move_eq_ok.mp h).2
      · next hstate =>
          rw [run_pure, Prod.mk.injEq] at h
          rw [if_neg hstate, ← h.2]
          rfl

structure Executed (order : PaperOrder) (execution : BrokerExecution)
    (order' : PaperOrder) : Prop where
  recognized : order.Recognizes execution.brokerOrderId
  effect : ∃ total state, order.filledQuantity.checkedAdd execution.quantity = .ok total ∧
      total ≤ order.oms.intent.quantity ∧
        confirmedState (reopenedState order.oms.state) = some state ∧ order' =
            { (order.noteVersion execution.brokerOrderId).inState
                (countedState total order.oms.intent.quantity state) with
              filledQuantity := total }

theorem applyExecution_eq_ok {execution : BrokerExecution} {fill : Fill}
    {strategyId : String} (h : (applyExecution execution).run order
      = (.ok (fill, strategyId), order')) :
    order.Executed execution order' ∧ fill = order.fillOf execution ∧
      strategyId = order.oms.intent.strategyId := by
  simp only [applyExecution, run_read_bind,
    run_lift_bind_eq_ok, run_update_bind, refuseIf_eq_ok,
    exists_const] at h
  obtain ⟨hrecognized, h⟩ := h
  rw [run_bind_ok (reopenLate_run _ _)] at h
  obtain ⟨_, confirmed, hconfirm, h⟩ := run_bind_eq_ok.mp h
  obtain ⟨state, hstate, rfl⟩ := transitionToAcknowledged_eq_ok.mp hconfirm
  simp only [run_read_bind, run_lift_bind_eq_ok,
    run_update_bind, refuseIf_eq_ok, exists_const] at h
  obtain ⟨total, htotal, hfits, h⟩ := h
  obtain ⟨_, concluded, hconclude, h⟩ := run_bind_eq_ok.mp h
  have hconcluded := concludeFill_eq_ok hconclude
  simp only [run_read_bind, run_pure, Prod.mk.injEq,
    Except.ok.injEq] at h
  obtain ⟨⟨rfl, rfl⟩, rfl⟩ := h
  subst hconcluded
  refine ⟨⟨?_, total, state, htotal, ?_, hstate, rfl⟩, rfl, rfl⟩
  · intro hother
    by_contra hunknown
    exact hrecognized ⟨hother, hunknown⟩
  · rw [lt_def] at hfits
    rw [le_def]
    exact not_lt.mp hfits

theorem restoreWorkingState_eq_ok
    (h : (restoreWorkingState reason).run order = (.ok u, order')) :
    order' = order.inState order.workingState := by
  rw [restoreWorkingState, run_read_bind] at h
  exact (move_eq_ok.mp h).2

theorem applyCancelRejected_eq_ok (h : applyCancelRejected.run order = (.ok u, order')) :
    isClosedState order.oms.state = true ∧ order' = order ∨
      awaitsAnswer .pendingCancel order.oms.state = true ∧
        order' = order.inState order.workingState := by
  rw [applyCancelRejected, run_read_bind] at h
  cases hstate : order.oms.state <;>
    simp [hstate, isClosedState, awaitsAnswer] at h ⊢ <;>
    first
      | exact h.symm
      | exact restoreWorkingState_eq_ok h

theorem applyReplaceRequested_eq_ok {previous : String}
    (h : (applyReplaceRequested previous).run order = (.ok u, order')) :
    order.brokerOrderId = some previous ∧ (order' = order ∨
        isWorkingState order.oms.state = true ∧ order' = order.replacing) := by
  simp only [applyReplaceRequested, run_read_bind,
    run_lift_bind_eq_ok, refuseIf_eq_ok, exists_const,
    Decidable.not_not] at h
  obtain ⟨hprevious, h⟩ := h
  refine ⟨hprevious, ?_⟩
  cases hstate : order.oms.state <;>
    simp [hstate, replacementIncompatible, isWorkingState] at h ⊢ <;>
    first
      | exact h.symm
      | (right; rw [(move_eq_ok.mp h).2, replacing, hstate]; rfl)

def returnedState (order : PaperOrder) : OrderState :=
  order.replaceReturnState.getD order.workingState

def answered (order : PaperOrder) : PaperOrder :=
  { order.inState order.returnedState with replaceReturnState := none }

theorem restoreReplacementState_eq_ok
    (h : (restoreReplacementState reason).run order = (.ok u, order')) :
    order' = order.answered := by
  simp only [restoreReplacementState, run_read_bind,
    run_update_bind, move_eq_ok] at h
  exact h.2

theorem applyReplaceRejected_eq_ok
    (h : applyReplaceRejected.run order = (.ok u, order')) :
    isClosedState order.oms.state = true ∧ order' = order ∨
      awaitsAnswer .pendingReplace order.oms.state = true ∧
        order' = order.answered := by
  rw [applyReplaceRejected, run_read_bind] at h
  cases hstate : order.oms.state <;>
    simp [hstate, isClosedState, awaitsAnswer] at h ⊢ <;>
    first
      | exact h.symm
      | exact restoreReplacementState_eq_ok h

theorem applyReplaced_eq_ok {previous id : String}
    (h : (applyReplaced previous id).run order = (.ok u, order')) : order' = order ∨
      awaitsAnswer .pendingReplace order.oms.state = true ∧
        order.brokerOrderId = some previous ∧
          order' = ({ order.noteVersion id with
            brokerOrderId := some id } : PaperOrder).answered := by
  rw [applyReplaced, run_read_bind] at h
  split at h
  · rw [run_lift, Prod.mk.injEq] at h
    exact .inl h.2.symm
  · next hprevious =>
      rw [Decidable.not_not] at hprevious
      cases hstate : order.oms.state <;>
        simp [hstate, awaitsAnswer, replacementIncompatible,
          hprevious] at h ⊢ <;>
        first
          | exact h.symm
          | exact .inr (restoreReplacementState_eq_ok h)

end PaperOrder

end Follon.Paper
