import Follon.Execution.Plan

/-!
# Scheduled plans

The dedicated TWAP, VWAP and arrival-price planners share one loop: a child for
every slice with a quantity, at the slice's index times the interval, the last
slice taking what is left.
-/

namespace Follon.Execution

open Foundation Domain

/-! ## The loop -/

structure SliceLoop where
  parent : ParentOrder
  tag : String
  intervalSeconds : UInt64
  kind : ChildOrderKind
  totalSlices : Nat

namespace SliceLoop

/-- `format!("{}-{tag}-{}", parent.parent_order_id, index + 1)`. -/
def childOrderId (loop : SliceLoop) (index : Nat) : String :=
  loop.parent.parentOrderId ++ "-" ++ loop.tag ++ "-" ++ toString (index + 1)

def child (loop : SliceLoop) (index : Nat) (quantity : Decimal) : ChildInstruction where
  childOrderId := loop.childOrderId index
  scheduledAfterSeconds := UInt64.ofNat index * loop.intervalSeconds
  venue := none
  quantity := quantity
  kind := loop.kind
  limitPrice := loop.parent.limitPrice
  stopPrice := none

def childQty (loop : SliceLoop) (index : Nat) (scheduledQty : Decimal)
    (share : Result Decimal) : Result Decimal :=
  if index = loop.totalSlices - 1 then
    loop.parent.quantity.checkedSub scheduledQty
  else
    share

def run (loop : SliceLoop) :
    List (Result Decimal) → (index : Nat) → (scheduledQty : Decimal) →
      Result (List ChildInstruction × Decimal)
  | [], _, scheduledQty => .ok ([], scheduledQty)
  | share :: rest, index, scheduledQty => do
    let childQty ← loop.childQty index scheduledQty share
    if Decimal.zero < childQty then do
      let scheduledQty ← scheduledQty.checkedAdd childQty
      let (children, scheduledQty) ← loop.run rest (index + 1) scheduledQty
      pure (loop.child index childQty :: children, scheduledQty)
    else
      loop.run rest (index + 1) scheduledQty

def plan (loop : SliceLoop) (algorithm : String)
    (shares : List (Result Decimal)) : Result ExecutionPlan := do
  let (children, scheduledQty) ← loop.run shares 0 Decimal.zero
  let unallocatedQuantity ← loop.parent.quantity.checkedSub scheduledQty
  let plan : ExecutionPlan :=
    { parentOrderId := loop.parent.parentOrderId, algorithm := algorithm
      children := children, unallocatedQuantity := unallocatedQuantity }
  plan.validateAgainst loop.parent
  pure plan

end SliceLoop

/-! ## The planners -/

def twapInterval (durationSeconds : UInt64) (numSlices : Nat) : UInt64 :=
  if 1 < numSlices then durationSeconds / (UInt64.ofNat numSlices - 1) else 0

def planTwapExecution (parent : ParentOrder) (durationSeconds : UInt64)
    (numSlices : Nat) (kind : ChildOrderKind) : Result ExecutionPlan := do
  parent.validate
  refuseIf (numSlices = 0 ∨ 1000 < numSlices)
    "TWAP num_slices must be between 1 and 1000"
  let numDec ← Decimal.fromInteger numSlices
  let rawSliceQty ← parent.quantity.checkedDiv numDec
  refuseIf (rawSliceQty ≤ Decimal.zero)
    "TWAP slice quantity is too small for parent quantity"
  let intervalSeconds := twapInterval durationSeconds numSlices
  SliceLoop.plan ⟨parent, "twap", intervalSeconds, kind, numSlices⟩
    "follon-twap-v1" (List.replicate numSlices (.ok rawSliceQty))

def addFraction (profileSum fraction : Decimal) : Result Decimal := do
  refuseIf (fraction < Decimal.zero)
    "VWAP volume profile fractions cannot be negative"
  profileSum.checkedAdd fraction

def planVwapExecution (parent : ParentOrder) (intervalSeconds : UInt64)
    (volumeProfile : List Decimal) (kind : ChildOrderKind) : Result ExecutionPlan := do
  parent.validate
  refuseIf (volumeProfile.isEmpty = true ∨ 1000 < volumeProfile.length)
    "VWAP volume_profile must contain between 1 and 1000 slices"
  let profileSum ← volumeProfile.foldlM addFraction Decimal.zero
  refuseIf (profileSum ≤ Decimal.zero)
    "VWAP volume profile sum must be positive"
  SliceLoop.plan
    ⟨parent, "vwap", intervalSeconds, kind, volumeProfile.length⟩
    "follon-vwap-v1"
    (volumeProfile.map fun fraction => do
      let product ← parent.quantity.checkedMul fraction
      product.checkedDiv profileSum)

def arrivalWeights : List Decimal :=
  [⟨40000000, by decide, by decide⟩, ⟨30000000, by decide, by decide⟩,
    ⟨20000000, by decide, by decide⟩, ⟨10000000, by decide, by decide⟩]

def planArrivalPriceExecution (parent : ParentOrder)
    (totalHorizonSeconds : UInt64) (urgencyBps : Decimal)
    (kind : ChildOrderKind) : Result ExecutionPlan := do
  parent.validate
  let tenThousand ← Decimal.fromInteger 10000
  refuseIf (urgencyBps ≤ Decimal.zero ∨ tenThousand < urgencyBps)
    "arrival price urgency_bps must be between 1 and 10000"
  SliceLoop.plan ⟨parent, "arrival", totalHorizonSeconds / 4, kind, 4⟩
    "follon-arrival-price-v1"
    (arrivalWeights.map fun weight => parent.quantity.checkedMul weight)

/-! ## The slices with a child -/

def sliceAmounts : List Int → (left : Int) → List Int
  | [], _ => []
  | [_], left => [left]
  | amount :: next :: rest, left =>
    amount :: sliceAmounts (next :: rest) (left - amount)

def openSlices (amounts : List Int) (left : Int) (index : Nat) : List (Int × Nat) :=
  ((sliceAmounts amounts left).zipIdx index).filter fun slice => 0 < slice.1

theorem sliceAmounts_cons (amount : Int) (rest : List Int) (left : Int) :
    sliceAmounts (amount :: rest) left =
      (if rest = [] then left else amount)
        :: sliceAmounts rest (left - amount) := by
  cases rest with
  | nil => rfl
  | cons next rest => rfl

theorem length_sliceAmounts (amounts : List Int) (left : Int) :
    (sliceAmounts amounts left).length = amounts.length := by
  induction amounts generalizing left with
  | nil => rfl
  | cons amount rest ih =>
    rw [sliceAmounts_cons, length_cons, length_cons, ih]

theorem openSlices_cons (amount : Int) (rest : List Int) (left : Int)
    (index : Nat) : openSlices (amount :: rest) left index =
      if 0 < if rest = [] then left else amount then
        (if rest = [] then left else amount, index)
          :: openSlices rest (left - amount) (index + 1)
      else
        openSlices rest (left - amount) (index + 1) := by
  simp only [openSlices, sliceAmounts_cons, List.zipIdx_cons,
    List.filter_cons, decide_eq_true_eq]

variable {amounts : List Int} {left : Int} {loop : SliceLoop}
  {shares : List (Result Decimal)} {index numSlices : Nat} {result : Decimal}
  {durationSeconds : UInt64} {parent : ParentOrder} {kind : ChildOrderKind}
  {volumeProfile : List Decimal}

theorem openSlices_congr {left' : Int} (index : Nat) (h : amounts ≠ [] → left = left') :
    openSlices amounts left index = openSlices amounts left' index := by
  cases amounts with
  | nil => rfl
  | cons amount rest => rw [h (List.cons_ne_nil _ _)]

theorem openSlices_of_positive {amounts : List Int} {left : Int} {index : Nat}
    (h : ∀ amount ∈ sliceAmounts amounts left, 0 < amount) :
    (openSlices amounts left index).map Prod.snd
      = List.range' index amounts.length := by
  have hall : openSlices amounts left index
      = (sliceAmounts amounts left).zipIdx index := by
    apply List.filter_eq_self.mpr
    intro slice hslice
    exact decide_eq_true (h _ (List.fst_mem_of_mem_zipIdx hslice))
  rw [hall, List.zipIdx_map_snd, length_sliceAmounts]

def ShareIs (share : Result Decimal) (amount : Int) : Prop :=
  0 ≤ amount ∧ ∀ value, share = .ok value → value.scaled = amount

theorem SliceLoop.run_offsets {scheduledQty : Decimal}
    {children : List ChildInstruction} (hshares : List.Forall₂ ShareIs shares amounts)
    (htotal : shares ≠ [] → index + shares.length = loop.totalSlices)
    (h : loop.run shares index scheduledQty = .ok (children, result)) :
    offsets children = (openSlices amounts
          (loop.parent.quantity.scaled - scheduledQty.scaled) index).map
        fun slice => (UInt64.ofNat slice.2 * loop.intervalSeconds).toNat := by
  induction hshares generalizing index scheduledQty children result with
  | nil =>
    obtain ⟨rfl, rfl⟩ := Prod.mk.inj (Except.ok.inj h)
    rfl
  | @cons share amount shares amounts hshare hrest ih =>
    obtain ⟨hnonneg, hvalue⟩ := hshare
    have hlength := htotal (List.cons_ne_nil _ _)
    rw [length_cons] at hlength
    have hindex : (index = loop.totalSlices - 1) ↔ amounts = [] := by
      rw [← List.length_eq_zero_iff, ← hrest.length_eq]
      omega
    simp only [run, bind_eq_ok] at h
    obtain ⟨quantity, hquantity, h⟩ := h
    have hscaled : quantity.scaled = if amounts = [] then
        loop.parent.quantity.scaled - scheduledQty.scaled else amount := by
      simp only [childQty, hindex] at hquantity
      split at hquantity
      · next hlast =>
        rw [if_pos hlast]
        exact checkedSub_eq_ok.mp hquantity
      · next hlast =>
        rw [if_neg hlast]
        exact hvalue quantity hquantity
    rw [openSlices_cons, ← hscaled]
    split at h
    · next hpositive =>
      rw [lt_def, scaled_zero] at hpositive
      simp only [bind_eq_ok, checkedAdd_eq_ok, Prod.exists] at h
      obtain ⟨next, hnext, rest, last, hrun, h⟩ := h
      obtain ⟨rfl, rfl⟩ := Prod.mk.inj (Except.ok.inj h)
      have hleft : amounts ≠ [] →
          loop.parent.quantity.scaled - scheduledQty.scaled - amount
            = loop.parent.quantity.scaled - next.scaled := by
        intro hmore
        rw [if_neg hmore] at hscaled
        omega
      have hsame := openSlices_congr (index + 1) hleft
      rw [if_pos hpositive, hsame, map_cons, ← ih (by omega) hrun]
      rfl
    · next hempty =>
      rw [lt_def, scaled_zero] at hempty
      have hleft : amounts ≠ [] →
          loop.parent.quantity.scaled - scheduledQty.scaled - amount
            = loop.parent.quantity.scaled - scheduledQty.scaled := by
        intro hmore
        rw [if_neg hmore] at hscaled
        omega
      have hsame := openSlices_congr (index + 1) hleft
      rw [if_neg hempty, hsame]
      exact ih (by omega) h

theorem SliceLoop.plan_offsets {algorithm : String} {plan : ExecutionPlan}
    (hshares : List.Forall₂ ShareIs shares amounts)
    (htotal : shares.length = loop.totalSlices)
    (h : loop.plan algorithm shares = .ok plan) :
    plan.Accepted loop.parent ∧ offsets plan.children =
      (openSlices amounts loop.parent.quantity.scaled 0).map
        fun slice => (UInt64.ofNat slice.2 * loop.intervalSeconds).toNat := by
  simp only [SliceLoop.plan, bind_eq_ok, Prod.exists,
    ExecutionPlan.validateAgainst_eq_ok] at h
  obtain ⟨children, scheduledQty, hrun, unallocated, -, -, haccepted, h⟩ := h
  obtain rfl := Except.ok.inj h
  refine ⟨haccepted, ?_⟩
  have hoffsets := run_offsets hshares
    (fun _ => by rw [Nat.zero_add, htotal]) hrun
  rwa [scaled_zero, Int.sub_zero] at hoffsets

theorem SliceLoop.run_exhausts {scheduledQty : Decimal}
    {children : List ChildInstruction} (hne : shares ≠ []) (htotal : index + shares.length = loop.totalSlices)
    (h : loop.run shares index scheduledQty = .ok (children, result)) :
    loop.parent.quantity.scaled ≤ result.scaled := by
  induction shares generalizing index scheduledQty children with
  | nil => contradiction
  | cons share rest ih =>
    rw [length_cons] at htotal
    simp only [run, bind_eq_ok] at h
    obtain ⟨quantity, hquantity, h⟩ := h
    cases rest with
    | nil =>
      rw [childQty, if_pos (by simp at htotal; omega), checkedSub_eq_ok] at hquantity
      split at h
      · next =>
        simp only [bind_eq_ok, checkedAdd_eq_ok, run, Except.ok.injEq, pure_eq_ok] at h
        obtain ⟨_, hnext, _, rfl, h⟩ := h
        obtain ⟨-, rfl⟩ := Prod.mk.inj h
        simp only
        omega
      · next hempty =>
        cases h
        rw [lt_def, scaled_zero] at hempty
        omega
    | cons next rest =>
      split at h
      · simp only [bind_eq_ok] at h
        obtain ⟨_, -, _, hrun, h⟩ := h
        cases h
        exact ih (List.cons_ne_nil _ _) (by omega) hrun
      · exact ih (List.cons_ne_nil _ _) (by omega) h

theorem SliceLoop.plan_exhausts {algorithm : String} {plan : ExecutionPlan}
    (hne : shares ≠ []) (htotal : shares.length = loop.totalSlices)
    (h : loop.plan algorithm shares = .ok plan) :
    plan.unallocatedQuantity = Decimal.zero
      ∧ scheduled plan.children = loop.parent.quantity.scaled := by
  simp only [SliceLoop.plan, bind_eq_ok, Prod.exists, checkedSub_eq_ok,
    ExecutionPlan.validateAgainst_eq_ok, pure_eq_ok] at h
  obtain ⟨children, scheduledQty, hrun, unallocated, hleft, -, haccepted, rfl⟩ := h
  have hall := run_exhausts hne (by omega) hrun
  have hnonneg : 0 ≤ unallocated.scaled := haccepted.unallocated
  have hzero : unallocated = Decimal.zero := Decimal.ext (by rw [scaled_zero]; omega)
  have hconserved := haccepted.conserved
  rw [hzero, scaled_zero, Int.add_zero] at hconserved
  exact ⟨hzero, hconserved⟩

theorem wrapped_offset (index : Nat) (interval : UInt64) :
    (UInt64.ofNat index * interval).toNat
      = index * interval.toNat % 2 ^ 64 := by
  rw [UInt64.toNat_mul, UInt64.toNat_ofNat', Nat.mod_mul_mod]

/-! ## TWAP -/

theorem mul_twapInterval_lt (hslices : numSlices ≤ 1000) (hindex : index < numSlices) :
    index * (twapInterval durationSeconds numSlices).toNat < 2 ^ 64 := by
  unfold twapInterval
  split
  · have hsize : UInt64.size = 18446744073709551616 := rfl
    have hslice : (UInt64.ofNat numSlices).toNat = numSlices :=
      UInt64.toNat_ofNat_of_lt (by omega)
    have hone : (1 : UInt64) ≤ UInt64.ofNat numSlices := by
      rw [UInt64.le_iff_toNat_le, hslice]
      show 1 ≤ numSlices
      omega
    have hcount : (UInt64.ofNat numSlices - 1).toNat = numSlices - 1 := by
      rw [UInt64.toNat_sub_of_le _ _ hone, hslice]
      rfl
    rw [UInt64.toNat_div, hcount]
    calc index * (durationSeconds.toNat / (numSlices - 1))
        ≤ (numSlices - 1) * (durationSeconds.toNat / (numSlices - 1)) :=
          Nat.mul_le_mul_right _ (by omega)
      _ ≤ durationSeconds.toNat := Nat.mul_div_le _ _
      _ < 2 ^ 64 := durationSeconds.toNat_lt
  · show index * 0 < 2 ^ 64
    omega

theorem sliceAmounts_replicate {amount : Int} {count : Nat}
    (hamount : 0 < amount) (hleft : (count - 1) * amount < left) :
    ∀ slice ∈ sliceAmounts (List.replicate count amount) left, 0 < slice := by
  induction count generalizing left with
  | zero => exact fun _ hslice => nomatch hslice
  | succ count ih =>
    rw [List.replicate_succ, sliceAmounts_cons, forall_mem_cons]
    cases count with
    | zero =>
      refine ⟨?_, fun _ hslice => nomatch hslice⟩
      simpa using hleft
    | succ count =>
      refine ⟨by rwa [if_neg (by simp)], ih ?_⟩
      push_cast at hleft ⊢
      linarith

theorem planTwapExecution_offsets {plan : ExecutionPlan}
    (h : planTwapExecution parent durationSeconds numSlices kind = .ok plan) :
    plan.Accepted parent ∧ offsets plan.children = (List.range numSlices).map
        (· * (twapInterval durationSeconds numSlices).toNat) := by
  simp only [planTwapExecution, bind_eq_ok, ParentOrder.validate_eq_ok,
    refuseIf_eq_ok, not_or, Nat.not_lt, le_def, scaled_zero,
    Int.not_le] at h
  obtain ⟨-, hparent, -, ⟨hslices, hbound⟩, numDec, hnum, raw, hraw, -, hpositive, h⟩ := h
  have hquantity := hparent.quantity
  have hscale : Decimal.scale = 100000000 := rfl
  obtain ⟨-, hdivided⟩ := scaled_of_checkedDiv hraw
  rw [Decimal.fromInteger, checked_eq_ok] at hnum
  have hshares : List.Forall₂ ShareIs
      (List.replicate numSlices (.ok raw))
      (List.replicate numSlices raw.scaled) := by
    apply List.forall₂_iff_get.mpr
    refine ⟨by simp, fun index hleft hright => ?_⟩
    simp only [List.get_eq_getElem, List.getElem_replicate]
    refine ⟨hpositive.le, fun value hvalue => ?_⟩
    rw [Except.ok.inj hvalue]
  obtain ⟨haccepted, hoffsets⟩ := SliceLoop.plan_offsets hshares
    List.length_replicate h
  refine ⟨haccepted, ?_⟩
  have hwhole : numSlices * raw.scaled ≤ parent.quantity.scaled := by
    rw [hdivided, hnum, hscale, Int.tdiv_eq_ediv_of_nonneg (by omega),
      Int.mul_ediv_mul_of_pos_left _ _ (by decide)]
    exact Int.mul_ediv_self_le (by omega)
  have hall := @openSlices_of_positive _ _ 0
    (sliceAmounts_replicate hpositive
      (show ((numSlices : Int) - 1) * raw.scaled < parent.quantity.scaled by
        linarith))
  rw [List.length_replicate, ← List.range_eq_range'] at hall
  rw [hoffsets, ← hall, map_map]
  apply List.map_congr_left
  intro slice hslice
  have hindex : slice.2 < numSlices := by
    rw [← List.mem_range, ← hall]
    exact mem_map_of_mem hslice
  rw [wrapped_offset]
  exact Nat.mod_eq_of_lt (mul_twapInterval_lt hbound hindex)

/-! ## VWAP -/

def vwapShare (quantity : Decimal) (volumeProfile : List Decimal)
    (fraction : Decimal) : Int :=
  ((quantity.scaled * fraction.scaled).tdiv Decimal.scale
    * Decimal.scale).tdiv (volumeProfile.map Decimal.scaled).sum

def vwapWindows (quantity : Decimal) (volumeProfile : List Decimal) : List (Int × Nat) :=
  openSlices (volumeProfile.map (vwapShare quantity volumeProfile))
    quantity.scaled 0

structure ProfileOver (seen : List Decimal) (profileSum : Decimal) : Prop where
  nonneg : ∀ fraction ∈ seen, 0 ≤ fraction.scaled
  sum : profileSum.scaled = (seen.map Decimal.scaled).sum

theorem ProfileOver.next {seen : List Decimal} {profileSum fraction : Decimal}
    (h : ProfileOver seen profileSum)
    (hstep : addFraction profileSum fraction = .ok result) :
    ProfileOver (seen ++ [fraction]) result := by
  simp only [addFraction, bind_eq_ok, refuseIf_eq_ok,
    checkedAdd_eq_ok, lt_def, scaled_zero,
    Int.not_lt] at hstep
  obtain ⟨-, hnonneg, hresult⟩ := hstep
  constructor
  · intro other hother
    rcases mem_append.mp hother with hother | hother
    · exact h.nonneg other hother
    · rwa [mem_singleton.mp hother]
  · rw [hresult, h.sum, map_append, List.sum_append]
    simp

theorem profileOver_foldlM
    (h : volumeProfile.foldlM addFraction Decimal.zero = .ok result) :
    ProfileOver volumeProfile result := by
  have hstart : ProfileOver [] Decimal.zero :=
    ⟨fun _ hmem => absurd hmem not_mem_nil, rfl⟩
  have hover : ProfileOver ([] ++ volumeProfile) result :=
    foldlM_over (fun _ _ _ _ hseen hstep => hseen.next hstep) hstart h
  exact hover

theorem planVwapExecution_offsets {interval : UInt64} {plan : ExecutionPlan}
    (h : planVwapExecution parent interval volumeProfile kind = .ok plan) :
    plan.Accepted parent ∧ offsets plan.children =
      (vwapWindows parent.quantity volumeProfile).map
        fun window => window.2 * interval.toNat % 2 ^ 64 := by
  simp only [planVwapExecution, bind_eq_ok, ParentOrder.validate_eq_ok,
    refuseIf_eq_ok, not_or, Nat.not_lt, le_def, scaled_zero,
    Int.not_le] at h
  obtain ⟨-, hparent, -, -, sum, hsum, -, hpositive, h⟩ := h
  obtain ⟨hnonneg, hscaled⟩ := profileOver_foldlM hsum
  have hscale : 0 ≤ Decimal.scale := by decide
  have hshares : List.Forall₂ ShareIs
      (volumeProfile.map fun fraction => do
        let product ← parent.quantity.checkedMul fraction
        product.checkedDiv sum)
      (volumeProfile.map (vwapShare parent.quantity volumeProfile)) := by
    rw [List.forall₂_map_left_iff, List.forall₂_map_right_iff, List.forall₂_same]
    intro fraction hfraction
    constructor
    · rw [vwapShare, ← hscaled]
      exact Int.tdiv_nonneg (Int.mul_nonneg (Int.tdiv_nonneg (Int.mul_nonneg
        hparent.quantity.le (hnonneg fraction hfraction)) hscale) hscale)
        hpositive.le
    · intro value hvalue
      simp only [bind_eq_ok] at hvalue
      obtain ⟨product, hproduct, hvalue⟩ := hvalue
      rw [(scaled_of_checkedDiv hvalue).2,
        scaled_of_checkedMul hproduct, vwapShare, hscaled]
  obtain ⟨haccepted, hoffsets⟩ :=
    SliceLoop.plan_offsets hshares (List.length_map _) h
  refine ⟨haccepted, ?_⟩
  rw [hoffsets]
  exact List.map_congr_left fun window _ => wrapped_offset window.2 interval

end Follon.Execution
