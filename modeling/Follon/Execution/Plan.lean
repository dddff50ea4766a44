import Follon.Domain.Order
import Mathlib.Data.List.Chain

/-!
# Execution plans

A risk-approved parent order is turned into child instructions.  A plan is
accepted against its parent when its children are well formed, their offsets do
not fall, and children and unallocated quantity together are the parent's.
-/

namespace Follon.Execution

open Foundation Domain

structure ParentOrder where
  (parentOrderId accountId instrumentId : String)
  side : Side
  quantity : Decimal
  limitPrice : Option Decimal
  deriving DecidableEq

def isNonpositive (price : Option Decimal) : Bool := price.any (· ≤ Decimal.zero)

namespace ParentOrder

def validate (parent : ParentOrder) : Result Unit := do
  validateCanonicalId "parent_order_id" parent.parentOrderId
  validateCanonicalId "account_id" parent.accountId
  validateCanonicalId "instrument_id" parent.instrumentId
  refuseIf (parent.quantity ≤ Decimal.zero ∨ isNonpositive parent.limitPrice = true)
    "parent order requires positive quantity and price"

structure Valid (parent : ParentOrder) : Prop where
  parentOrderId : isCanonicalId parent.parentOrderId = true
  accountId : isCanonicalId parent.accountId = true
  instrumentId : isCanonicalId parent.instrumentId = true
  quantity : 0 < parent.quantity.scaled
  limitPrice : isNonpositive parent.limitPrice = false

theorem validate_eq_ok {parent : ParentOrder} {u : Unit} :
    parent.validate = .ok u ↔ parent.Valid := by
  simp only [validate, bind_eq_ok, validateCanonicalId_eq_ok, refuseIf_eq_ok,
    not_or, not_eq_true, le_def, scaled_zero, Int.not_le]
  constructor
  · rintro ⟨-, hparent, -, haccount, -, hinstrument, hquantity, hlimit⟩
    exact ⟨hparent, haccount, hinstrument, hquantity, hlimit⟩
  · rintro ⟨hparent, haccount, hinstrument, hquantity, hlimit⟩
    exact ⟨(), hparent, (), haccount, (), hinstrument, hquantity, hlimit⟩

end ParentOrder

inductive ChildOrderKind where
  | market
  | limit
  | stop
  | stopLimit
  deriving DecidableEq, Repr

structure ChildInstruction where
  childOrderId : String
  scheduledAfterSeconds : UInt64
  venue : Option String
  quantity : Decimal
  kind : ChildOrderKind
  (limitPrice stopPrice : Option Decimal)
  deriving DecidableEq

structure ChildInstruction.Valid (child : ChildInstruction) : Prop where
  childOrderId : isCanonicalId child.childOrderId = true
  quantity : 0 < child.quantity.scaled
  limitPrice : isNonpositive child.limitPrice = false
  stopPrice : isNonpositive child.stopPrice = false

structure ExecutionPlan where
  (parentOrderId algorithm : String)
  children : List ChildInstruction
  unallocatedQuantity : Decimal
  deriving DecidableEq

/-! ## Acceptance -/

/-- The loop of `validate_against` over the children, returning the total. -/
def validateChildren : List ChildInstruction → (index : Nat) → (priorOffset : UInt64) →
      (total : Decimal) → Result Decimal
  | [], _, _, total => .ok total
  | child :: rest, index, priorOffset, total => do
    validateCanonicalId "child_order_id" child.childOrderId
    refuseIf (child.quantity ≤ Decimal.zero
      ∨ (0 < index ∧ child.scheduledAfterSeconds < priorOffset)
      ∨ isNonpositive child.limitPrice = true
      ∨ isNonpositive child.stopPrice = true) "invalid child instruction"
    let total ← total.checkedAdd child.quantity
    validateChildren rest (index + 1) child.scheduledAfterSeconds total

def ExecutionPlan.validateAgainst (plan : ExecutionPlan)
    (parent : ParentOrder) : Result Unit := do
  refuseIf (plan.parentOrderId ≠ parent.parentOrderId ∨ plan.algorithm = "")
    "execution plan identity mismatch"
  refuseIf (plan.unallocatedQuantity < Decimal.zero)
    "unallocated execution quantity cannot be negative"
  let total ← validateChildren plan.children 0 0 plan.unallocatedQuantity
  refuseIf (total ≠ parent.quantity)
    "execution plan does not conserve parent quantity"

/-! ## What acceptance says -/

def scheduled (children : List ChildInstruction) : Int :=
  (children.map fun child => child.quantity.scaled).sum

@[simp] theorem scheduled_nil : scheduled [] = 0 := rfl

@[simp] theorem scheduled_cons (child : ChildInstruction) (rest : List ChildInstruction) :
    scheduled (child :: rest) = child.quantity.scaled + scheduled rest := by
  simp [scheduled]

variable {children : List ChildInstruction}

theorem scheduled_nonneg (h : ∀ child ∈ children, child.Valid)
    : 0 ≤ scheduled children := by
  induction children with
  | nil => exact Int.le_refl 0
  | cons child rest ih =>
    rw [forall_mem_cons] at h
    have := h.1.quantity
    have := ih h.2
    rw [scheduled_cons]
    omega

def offsets (children : List ChildInstruction) : List Nat :=
  children.map fun child => child.scheduledAfterSeconds.toNat

/-- A loop whose total fits at its end never overflows on the way: every
quantity added is positive. -/
theorem validateChildren_eq_ok {index : Nat} {priorOffset : UInt64}
    {total result : Decimal} (hindex : index = 0 → priorOffset = 0) :
    validateChildren children index priorOffset total = .ok result ↔
      (∀ child ∈ children, child.Valid)
        ∧ List.IsChain (· ≤ ·) (priorOffset.toNat :: offsets children)
        ∧ result.scaled = total.scaled + scheduled children := by
  induction children generalizing index priorOffset total with
  | nil =>
    simp only [validateChildren, Except.ok.injEq, offsets, map_nil,
      not_mem_nil, false_implies, implies_true, true_and,
      List.IsChain.singleton, scheduled_nil, Int.add_zero]
    exact ⟨fun h => h ▸ rfl, fun h => Decimal.ext h.symm⟩
  | cons child rest ih =>
    have hoffset : ¬(0 < index ∧ child.scheduledAfterSeconds < priorOffset)
        ↔ priorOffset.toNat ≤ child.scheduledAfterSeconds.toNat := by
      rcases Nat.eq_zero_or_pos index with hzero | hpos
      · simp [hindex hzero]
      · simp [hpos, UInt64.lt_iff_toNat_lt]
    have hnext : index + 1 = 0 → child.scheduledAfterSeconds = 0 := by
      omega
    simp only [validateChildren, bind_eq_ok, validateCanonicalId_eq_ok, refuseIf_eq_ok,
      not_or, hoffset, not_eq_true, le_def, scaled_zero,
      Int.not_le, checkedAdd_eq_ok, ih hnext, forall_mem_cons,
      scheduled_cons, offsets, map_cons, List.isChain_cons_cons]
    constructor
    · rintro ⟨-, hid, -, ⟨hquantity, hprior, hlimit, hstop⟩, next, hadd,
        hrest, hchain, hresult⟩
      exact ⟨⟨⟨hid, hquantity, hlimit, hstop⟩, hrest⟩, ⟨hprior, hchain⟩,
        by omega⟩
    · rintro ⟨⟨⟨hid, hquantity, hlimit, hstop⟩, hrest⟩, ⟨hprior, hchain⟩, hresult⟩
      have hnonneg := scheduled_nonneg hrest
      have hmin := total.min_le
      have hmax := result.le_max
      refine ⟨(), hid, (), ⟨hquantity, hprior, hlimit, hstop⟩,
        ⟨total.scaled + child.quantity.scaled, by omega, by omega⟩, rfl,
        hrest, hchain, ?_⟩
      simp only
      omega

structure ExecutionPlan.Accepted (plan : ExecutionPlan)
    (parent : ParentOrder) : Prop where
  parentOrderId : plan.parentOrderId = parent.parentOrderId
  algorithm : plan.algorithm ≠ ""
  unallocated : 0 ≤ plan.unallocatedQuantity.scaled
  children : ∀ child ∈ plan.children, child.Valid
  sorted : List.Pairwise (· ≤ ·) (offsets plan.children)
  conserved : scheduled plan.children + plan.unallocatedQuantity.scaled
    = parent.quantity.scaled

theorem ExecutionPlan.validateAgainst_eq_ok {plan : ExecutionPlan}
    {parent : ParentOrder} {u : Unit} :
    plan.validateAgainst parent = .ok u ↔ plan.Accepted parent := by
  have hsorted : List.IsChain (· ≤ ·)
      ((0 : UInt64).toNat :: offsets plan.children)
        ↔ List.Pairwise (· ≤ ·) (offsets plan.children) := by
    rw [List.isChain_iff_pairwise, pairwise_cons]
    simp
  simp only [validateAgainst, bind_eq_ok, refuseIf_eq_ok,
    validateChildren_eq_ok (fun _ => rfl), hsorted, not_or, not_not,
    lt_def, scaled_zero, Int.not_lt]
  constructor
  · rintro ⟨-, ⟨hid, halgorithm⟩, -, hunallocated, total,
      ⟨hchildren, hoffsets, htotal⟩, hquantity⟩
    refine ⟨hid, halgorithm, hunallocated, hchildren, hoffsets, ?_⟩
    rw [← hquantity]
    omega
  · rintro ⟨hid, halgorithm, hunallocated, hchildren, hoffsets, htotal⟩
    exact ⟨(), ⟨hid, halgorithm⟩, (), hunallocated, parent.quantity,
      ⟨hchildren, hoffsets, by omega⟩, rfl⟩

/-! ## Numbered identities -/

theorem isCanonicalId_numbered {id : String} {label : List Char}
    (width n : Nat) (hid : isCanonicalId id = true)
    (hlabel : label.all isCanonicalChar = true) :
    isCanonicalId (id ++ String.ofList (label ++ zeroPadded width n))
      = true := by
  have hdigits : (zeroPadded width n).all isCanonicalChar = true := by
    rw [all_eq_true]
    intro c hc
    simp [isCanonicalChar, isAsciiDigit_of_mem_zeroPadded hc]
  simp only [isCanonicalId, and_eq_true, Bool.not_eq_true',
    String.isEmpty_eq_false_iff, toList_append, toList_ofList,
    List.all_append] at hid ⊢
  refine ⟨fun hempty => hid.1 (String.append_eq_empty_iff.mp hempty).1,
    hid.2, hlabel, hdigits⟩

end Follon.Execution
