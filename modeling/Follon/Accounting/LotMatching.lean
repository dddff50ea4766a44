import Follon.Accounting.LotRecovery
import Follon.Foundation.SubsetSums

/-!
# Matching of lots

A disposal or a cover takes its quantity from the lots in the order of its
selection, each used up before the next is touched.
-/

namespace Follon.Accounting

open Foundation Domain

/-! ## What a matching is -/

def RankedBefore : TaxLotSelection → TaxLot → TaxLot → Prop
  | .fifo, a, b => lotLe a b ∧ ¬lotLe b a
  | .lifo, a, b => lotLe b a ∧ ¬lotLe a b
  | .highestCost, a, b =>
    b.unitPrice < a.unitPrice ∨ a.unitPrice = b.unitPrice ∧ lotLe a b ∧ ¬lotLe b a

def quantityAt (lots : List TaxLot) (index : Nat) : Int :=
  (lots[index]?.map (·.remainingQuantity.scaled)).getD 0

def priceAt (lots : List TaxLot) (index : Nat) : Int :=
  (lots[index]?.map (·.unitPrice.scaled)).getD 0

structure Consumes (lots : List TaxLot) (quantity : Int) (taken : Nat → Int) :
    Prop where
  within : ∀ index, 0 ≤ taken index ∧ taken index ≤ quantityAt lots index
  total : ∑ index ∈ Finset.range lots.length, taken index = quantity

def costOf (lots : List TaxLot) (taken : Nat → Int) : Int :=
  ∑ index ∈ Finset.range lots.length, taken index * priceAt lots index

def allocated (lots : List TaxLot) (taken : Nat → Int) (order : List Nat) :
    List (String × Int) :=
  order.filterMap fun index =>
    if 0 < taken index then
      lots[index]?.map fun lot => (lot.lotId, taken index)
    else none

def scaledAllocations (allocations : List (String × Decimal)) : List (String × Int) :=
  allocations.map fun allocation => (allocation.1, allocation.2.scaled)

/-- A closing takes `taken` from the lots, has `allocations` to show for it and
keeps the rest. -/
structure LotMatch (selection : TaxLotSelection) (lots kept : List TaxLot)
    (quantity : Int) (allocations : List (String × Decimal))
    (taken : Nat → Int) : Prop where
  consumes : Consumes lots quantity taken
  positive : ∀ allocation ∈ allocations, 0 < allocation.2.scaled
  total : (allocations.map (·.2.scaled)).sum = quantity
  allocations : (scaledAllocations allocations).Perm
    (allocated lots taken (List.range lots.length))
  ranked : ∀ (i j : Nat) (a b : TaxLot), lots[i]? = some a →
    lots[j]? = some b → RankedBefore selection a b → 0 < taken j →
      taken i = quantityAt lots i
  kept : ∃ reduced : List TaxLot, kept = retainOpen reduced ∧
    reduced.map TaxLot.terms = lots.map TaxLot.terms ∧
      ∀ index, quantityAt reduced index = quantityAt lots index - taken index
  dearest : selection = .highestCost → ∀ other : Nat → Int,
    Consumes lots quantity other → costOf lots other ≤ costOf lots taken

/-! ## Places -/

variable {lots : List TaxLot} {index : Nat} {taken : Nat → Int}
  {order : List Nat} {taking taking' : LotTaking} {texts : CloseTexts}
  {side : LotSide} {closing : Closing} {positivePrice : Bool}

theorem quantityAt_nonneg (h : ∀ lot ∈ lots, 0 ≤ lot.remainingQuantity.scaled)
    (index : Nat) : 0 ≤ quantityAt lots index := by
  unfold quantityAt
  cases hfound : lots[index]? with
  | none => exact le_refl 0
  | some lot => exact h lot (List.mem_of_getElem? hfound)

theorem quantityAt_of_some {lot : TaxLot} (h : lots[index]? = some lot) :
    quantityAt lots index = lot.remainingQuantity.scaled := by
  simp [quantityAt, h]

theorem quantityAt_set {lot : TaxLot} (h : lots[index]? = some lot)
    (lot' : TaxLot) (other : Nat) : quantityAt (lots.set index lot') other
      = if other = index then lot'.remainingQuantity.scaled
        else quantityAt lots other := by
  have hlength : index < lots.length := (List.getElem?_eq_some_iff.mp h).1
  unfold quantityAt
  by_cases hsame : other = index
  · subst hsame
    simp [hlength]
  · rw [if_neg hsame, List.getElem?_set_ne fun heq => hsame heq.symm]

theorem lotQuantity_eq_sum (lots : List TaxLot) : lotQuantity lots
      = ∑ index ∈ Finset.range lots.length, quantityAt lots index := by
  induction lots with
  | nil => rfl
  | cons lot rest ih =>
    rw [lotQuantity_cons, ih, length_cons, Finset.sum_range_succ', Int.add_comm]
    rfl

theorem map_lotId_of_terms {left right : List TaxLot}
    (h : left.map TaxLot.terms = right.map TaxLot.terms) (index : Nat) :
    left[index]?.map (·.lotId) = right[index]?.map (·.lotId) := by
  have hat := congrArg (fun terms : List TaxLot =>
    terms[index]?.map (·.lotId)) h
  simp only [List.getElem?_map, Option.map_map] at hat
  exact hat

theorem allocated_congr {left right : List TaxLot} {taken' : Nat → Int}
    (hterms : left.map TaxLot.terms = right.map TaxLot.terms)
    (htaken : ∀ index ∈ order, taken index = taken' index) :
    allocated left taken order = allocated right taken' order := by
  unfold allocated
  apply List.filterMap_congr
  intro index hindex
  rw [htaken index hindex]
  split
  · have hids := map_lotId_of_terms hterms index
    have hpair : ∀ found : Option TaxLot,
        (found.map fun lot => (lot.lotId, taken' index))
          = (found.map (·.lotId)).map fun lotId => (lotId, taken' index) := by
      intro found
      rw [Option.map_map]
      rfl
    rw [hpair, hids, ← hpair]
  · rfl

/-! ## One lot taken -/

structure TakesAt (index : Nat) (taking taking' : LotTaking) : Prop where
  terms : taking'.projected.map TaxLot.terms = taking.projected.map TaxLot.terms
  quantities : ∀ other, quantityAt taking'.projected other
    = if other = index then
        quantityAt taking.projected index -
          min (quantityAt taking.projected index) taking.remaining.scaled
      else quantityAt taking.projected other
  remaining : taking'.remaining.scaled = taking.remaining.scaled -
    min (quantityAt taking.projected index) taking.remaining.scaled
  allocations : scaledAllocations taking'.allocations
    = scaledAllocations taking.allocations ++
      allocated taking.projected (fun other =>
        min (quantityAt taking.projected other) taking.remaining.scaled)
        [index]

theorem takesAt_refl
    (h : min (quantityAt taking.projected index) taking.remaining.scaled = 0)
    : TakesAt index taking taking where
  terms := rfl
  quantities := by
    intro other
    split
    · next hsame => rw [hsame, h, sub_zero]
    · rfl
  remaining := by
    rw [h, sub_zero]
  allocations := by
    have hnothing : ¬0 < min (quantityAt taking.projected index)
        taking.remaining.scaled := by
      omega
    simp only [allocated, List.filterMap_cons, List.filterMap_nil,
      if_neg hnothing, append_nil]

theorem takeLot_takesAt (h : takeLot taking index = .ok taking')
    (hnonneg : ∀ other, 0 ≤ quantityAt taking.projected other)
    (hremaining : 0 ≤ taking.remaining.scaled) : TakesAt index taking taking' := by
  unfold takeLot at h
  split at h
  · next hnone =>
      obtain rfl := Except.ok.inj h
      apply takesAt_refl
      have hzero : quantityAt taking.projected index = 0 := by
        simp [quantityAt, hnone]
      rw [hzero]
      omega
  · next lot hlot =>
      have hat := quantityAt_of_some hlot
      have hlotNonneg := hnonneg index
      split at h
      · next hdone =>
          obtain rfl := Except.ok.inj h
          apply takesAt_refl
          rw [hdone, scaled_zero]
          omega
      · dsimp only at h
        have hselected :
            (lot.remainingQuantity.min taking.remaining).scaled
              = min (quantityAt taking.projected index)
                taking.remaining.scaled := by
          rw [scaled_min, hat]
        split at h
        · next hnothing =>
            obtain rfl := Except.ok.inj h
            apply takesAt_refl
            rw [← hselected, hnothing, scaled_zero]
        · next hsome =>
            have hpositive : 0 < min (quantityAt taking.projected index)
                taking.remaining.scaled := by
              have hne : (lot.remainingQuantity.min taking.remaining).scaled
                  ≠ 0 := by
                intro hzero
                apply hsome
                apply scaled_inj.mp
                rw [hzero, scaled_zero]
              rw [hselected] at hne
              omega
            simp only [bind_eq_ok, checkedSub_eq_ok, pure_eq_ok] at h
            obtain ⟨_, -, _, -, kept, hkept, remaining, hrest, rfl⟩ := h
            rw [hselected] at hkept hrest
            refine ⟨?_, ?_, hrest, ?_⟩
            · rw [List.map_set]
              apply List.ext_getElem?
              intro other
              rw [List.getElem?_set]
              split
              · next hsame =>
                  rw [← hsame, List.getElem?_map, hlot]
                  split
                  · rfl
                  · next hlength =>
                      rw [List.length_map] at hlength
                      exact absurd (List.getElem?_eq_some_iff.mp hlot).1 hlength
              · rfl
            · intro other
              rw [quantityAt_set hlot]
              split
              · rw [hkept, hat]
              · rfl
            · simp only [scaledAllocations, map_append, map_cons,
                map_nil, allocated, List.filterMap_cons, List.filterMap_nil,
                if_pos hpositive, hlot, Option.map_some, hselected]

/-! ## The loop -/

structure TakesThrough (order : List Nat) (taking taking' : LotTaking) :
    Prop where
  terms : taking'.projected.map TaxLot.terms = taking.projected.map TaxLot.terms
  frame : ∀ index, index ∉ order →
    quantityAt taking'.projected index = quantityAt taking.projected index
  within : ∀ index, 0 ≤ quantityAt taking'.projected index ∧
    quantityAt taking'.projected index ≤ quantityAt taking.projected index
  idle : taking.remaining.scaled = 0 → ∀ index,
    quantityAt taking'.projected index = quantityAt taking.projected index
  usedUp : order.Pairwise fun i j =>
    quantityAt taking'.projected j < quantityAt taking.projected j →
      quantityAt taking'.projected i = 0
  allocations : scaledAllocations taking'.allocations
    = scaledAllocations taking.allocations ++
      allocated taking.projected (fun index =>
        quantityAt taking.projected index -
          quantityAt taking'.projected index) order
  balance : (taking'.allocations.map (·.2.scaled)).sum +
      taking'.remaining.scaled
    = (taking.allocations.map (·.2.scaled)).sum + taking.remaining.scaled

theorem sum_scaledAllocations (allocations : List (String × Decimal)) :
    ((scaledAllocations allocations).map Prod.snd).sum
      = (allocations.map (·.2.scaled)).sum := by
  unfold scaledAllocations
  rw [map_map]
  rfl

namespace TakesAt

variable {index : Nat} {taking next : LotTaking}

theorem length (h : TakesAt index taking next) :
    next.projected.length = taking.projected.length := by
  have hlengths := congrArg List.length h.terms
  rwa [List.length_map, List.length_map] at hlengths

theorem others (h : TakesAt index taking next) {other : Nat} (hne : other ≠ index) :
    quantityAt next.projected other = quantityAt taking.projected other := by
  rw [h.quantities other, if_neg hne]

theorem within (h : TakesAt index taking next)
    (hnonneg : ∀ other, 0 ≤ quantityAt taking.projected other)
    (hremaining : 0 ≤ taking.remaining.scaled) (other : Nat) :
    0 ≤ quantityAt next.projected other ∧
      quantityAt next.projected other
        ≤ quantityAt taking.projected other := by
  have hother := hnonneg other
  rw [h.quantities other]
  split
  · next hsame =>
      rw [hsame] at hother ⊢
      omega
  · omega

theorem remaining_nonneg (h : TakesAt index taking next) :
    0 ≤ taking.remaining.scaled → 0 ≤ next.remaining.scaled := by
  intro hremaining
  rw [h.remaining]
  omega

theorem sum_allocations (h : TakesAt index taking next)
    (hin : index < taking.projected.length)
    (hnonneg : 0 ≤ quantityAt taking.projected index)
    (hremaining : 0 ≤ taking.remaining.scaled) : (next.allocations.map (·.2.scaled)).sum
      = (taking.allocations.map (·.2.scaled)).sum +
        min (quantityAt taking.projected index) taking.remaining.scaled := by
  rw [← sum_scaledAllocations, h.allocations, map_append,
    List.sum_append, sum_scaledAllocations]
  congr 1
  simp only [allocated, List.filterMap_cons, List.filterMap_nil,
    List.getElem?_eq_getElem hin, Option.map_some]
  split
  · next hsome =>
      split at hsome
      · contradiction
      · simp only [map_nil, List.sum_nil]
        omega
  · next pair hsome =>
      split at hsome
      · obtain rfl := Option.some.inj hsome
        simp
      · contradiction

end TakesAt

theorem takesThrough_nil (hnonneg : ∀ index, 0 ≤ quantityAt taking.projected index) :
    TakesThrough [] taking taking where
  terms := rfl
  frame := fun _ _ => rfl
  within := fun index => ⟨hnonneg index, le_refl _⟩
  idle := fun _ _ => rfl
  usedUp := .nil
  allocations := by simp [allocated]
  balance := rfl

/-- The allocations of the loop are what is missing from each lot at the end,
as no later turn comes back to the first lot. -/
theorem TakesThrough.cons_allocations {next : LotTaking}
    (hthrough : TakesThrough order next taking')
    (hat : TakesAt index taking next) (hnew : index ∉ order) :
    scaledAllocations taking'.allocations = scaledAllocations taking.allocations ++
        allocated taking.projected (fun other =>
          quantityAt taking.projected other -
            quantityAt taking'.projected other) (index :: order) := by
  have hsame : quantityAt taking'.projected index
      = quantityAt next.projected index := hthrough.frame index hnew
  have hindex := hat.quantities index
  rw [if_pos rfl] at hindex
  rw [hthrough.allocations, hat.allocations, append_assoc]
  congr 1
  have hhead : allocated taking.projected (fun other =>
      min (quantityAt taking.projected other) taking.remaining.scaled) [index]
      = allocated taking.projected (fun other =>
        quantityAt taking.projected other -
          quantityAt taking'.projected other) [index] := by
    apply allocated_congr rfl
    intro other hother
    rw [mem_singleton] at hother
    subst hother
    omega
  have htail : allocated next.projected (fun other =>
      quantityAt next.projected other - quantityAt taking'.projected other)
        order
      = allocated taking.projected (fun other =>
        quantityAt taking.projected other -
          quantityAt taking'.projected other) order := by
    apply allocated_congr hat.terms
    intro other hother
    rw [hat.others (ne_of_mem_of_not_mem hother hnew)]
  rw [hhead, htail]
  exact filterMap_append.symm

theorem TakesThrough.cons {order : List Nat} {index : Nat}
    {taking next taking' : LotTaking} (hthrough : TakesThrough order next taking')
    (hat : TakesAt index taking next) (hnew : index ∉ order)
    (hin : index < taking.projected.length)
    (hnonneg : ∀ other, 0 ≤ quantityAt taking.projected other)
    (hremaining : 0 ≤ taking.remaining.scaled) :
    TakesThrough (index :: order) taking taking' := by
  have hindex := hnonneg index
  constructor
  · rw [hthrough.terms, hat.terms]
  · intro other hother
    rw [mem_cons, not_or] at hother
    rw [hthrough.frame other hother.2, hat.others hother.1]
  · intro other
    have hstep := hthrough.within other
    have hfirst := hat.within hnonneg hremaining other
    omega
  · intro hzero other
    have hnextZero : next.remaining.scaled = 0 := by
      have hrest := hat.remaining
      omega
    rw [hthrough.idle hnextZero other]
    by_cases hsame : other = index
    · have hquantity := hat.quantities other
      rw [if_pos hsame, ← hsame] at hquantity
      rw [← hsame] at hindex
      omega
    · exact hat.others hsame
  · rw [pairwise_cons]
    constructor
    · intro other hother htouched
      rw [← hat.others (ne_of_mem_of_not_mem hother hnew)] at htouched
      have hleft : next.remaining.scaled ≠ 0 := fun hzero =>
        absurd (hthrough.idle hzero other) (ne_of_lt htouched)
      have hsame := hthrough.frame index hnew
      have hquantity := hat.quantities index
      rw [if_pos rfl] at hquantity
      have hbalance := hat.remaining
      omega
    · apply List.Pairwise.imp_of_mem _ hthrough.usedUp
      intro i j _ hj himp htouched
      rw [← hat.others (ne_of_mem_of_not_mem hj hnew)] at htouched
      exact himp htouched
  · exact hthrough.cons_allocations hat hnew
  · have hsum := hat.sum_allocations hin hindex hremaining
    have hbalance := hthrough.balance
    rw [hsum, hat.remaining] at hbalance
    omega

theorem takeLots_takesThrough (hnodup : order.Nodup)
    (h : order.foldlM takeLot taking = .ok taking')
    (hrange : ∀ index ∈ order, index < taking.projected.length)
    (hnonneg : ∀ index, 0 ≤ quantityAt taking.projected index)
    (hremaining : 0 ≤ taking.remaining.scaled) : TakesThrough order taking taking' := by
  induction order generalizing taking with
  | nil =>
    obtain rfl := Except.ok.inj h
    exact takesThrough_nil hnonneg
  | cons index order ih =>
    rw [nodup_cons] at hnodup
    rw [foldlM_cons, bind_eq_ok] at h
    obtain ⟨next, hnext, hrest⟩ := h
    have hat := takeLot_takesAt hnext hnonneg hremaining
    have hthrough := ih hnodup.2 hrest
      (fun other hother => hat.length ▸ hrange other
        (mem_cons_of_mem _ hother))
      (fun other => (hat.within hnonneg hremaining other).1)
      (hat.remaining_nonneg hremaining)
    exact hthrough.cons hat hnodup.1 (hrange index mem_cons_self)
      hnonneg hremaining

/-! ## The order of a selection -/

def DearerOrOlder (a b : TaxLot) : Prop :=
  b.unitPrice < a.unitPrice ∨ a.unitPrice = b.unitPrice ∧ lotLe a b

instance : DecidableRel DearerOrOlder :=
  fun a b => inferInstanceAs (Decidable
    (b.unitPrice < a.unitPrice ∨ a.unitPrice = b.unitPrice ∧ lotLe a b))

theorem dearerOrOlder_trans {a b c : TaxLot} (hab : DearerOrOlder a b)
    (hbc : DearerOrOlder b c) : DearerOrOlder a c := by
  unfold DearerOrOlder at *
  rw [lt_def] at *
  cases hab with
  | inl hlt =>
    left
    cases hbc with
    | inl hlt' => omega
    | inr heq => exact heq.1 ▸ hlt
  | inr heq =>
    cases hbc with
    | inl hlt' => exact .inl (heq.1 ▸ hlt')
    | inr heq' =>
      exact .inr ⟨heq.1.trans heq'.1, lotLe_trans heq.2 heq'.2⟩

theorem dearerOrOlder_total (a b : TaxLot) : DearerOrOlder a b ∨ DearerOrOlder b a := by
  unfold DearerOrOlder
  rw [lt_def, lt_def]
  rcases lt_trichotomy a.unitPrice.scaled b.unitPrice.scaled with
    hlt | heq | hgt
  · exact .inr (.inl hlt)
  · have hprice := scaled_inj.mp heq
    cases lotLe_total a b with
    | inl hle => exact .inl (.inr ⟨hprice, hle⟩)
    | inr hle => exact .inr (.inr ⟨hprice.symm, hle⟩)
  · exact .inl (.inl hgt)

theorem costLe_iff {i j : Nat} {a b : TaxLot} (ha : lots[i]? = some a)
    (hb : lots[j]? = some b) : costLe lots i j = true ↔ DearerOrOlder a b := by
  unfold costLe DearerOrOlder
  rw [ha, hb]
  exact decide_eq_true_iff

theorem selectionOrder_highestCost (lots : List TaxLot) :
    (selectionOrder lots .highestCost).Pairwise fun i j =>
      costLe lots i j = true := by
  cases lots with
  | nil => exact .nil
  | cons first rest =>
    let lotAt := fun index : Nat => ((first :: rest)[index]?).getD first
    have htotal : Std.Total fun i j => DearerOrOlder (lotAt i) (lotAt j) :=
      ⟨fun i j => dearerOrOlder_total _ _⟩
    have htrans : IsTrans Nat fun i j => DearerOrOlder (lotAt i) (lotAt j) :=
      ⟨fun _ _ _ => dearerOrOlder_trans⟩
    have hagree : ∀ i ∈ List.range (first :: rest).length,
        ∀ j ∈ List.range (first :: rest).length, DearerOrOlder (lotAt i) (lotAt j) ↔
            costLe (first :: rest) (id i) (id j) = true := by
      intro i hi j hj
      rw [List.mem_range] at hi hj
      have hat : ∀ {index : Nat}, index < (first :: rest).length →
          (first :: rest)[index]? = some (lotAt index) := by
        intro index hindex
        simp only [lotAt, List.getElem?_eq_getElem hindex, getD_some]
      exact (costLe_iff (hat hi) (hat hj)).symm
    have hsame := List.map_insertionSort
      (fun i j => DearerOrOlder (lotAt i) (lotAt j))
      (fun i j => costLe (first :: rest) i j = true) id _ hagree
    rw [List.map_id, List.map_id] at hsame
    change (List.insertionSort _ _).Pairwise _
    rw [← hsame]
    have hsorted := pairwise_insertionSort
      (fun i j => DearerOrOlder (lotAt i) (lotAt j))
      (List.range (first :: rest).length)
    apply hsorted.imp_of_mem
    intro i j hi hj hbefore
    have hrange : ∀ {index : Nat}, index ∈ List.insertionSort
        (fun i j => DearerOrOlder (lotAt i) (lotAt j))
        (List.range (first :: rest).length) → index ∈ List.range (first :: rest).length :=
      fun hmem => (perm_insertionSort _ _).mem_iff.mp hmem
    exact (hagree i (hrange hi) j (hrange hj)).mp hbefore

theorem selectionOrder_perm (lots : List TaxLot) (selection : TaxLotSelection) :
    (selectionOrder lots selection).Perm (List.range lots.length) := by
  cases selection with
  | fifo => exact .refl _
  | lifo => exact List.reverse_perm _
  | highestCost => exact perm_insertionSort _ _

theorem selectionOrder_ranked (hsorted : lots.Pairwise lotLe)
    (selection : TaxLotSelection) : (selectionOrder lots selection).Pairwise fun i j =>
      ∀ a b, lots[i]? = some a → lots[j]? = some b →
        ¬RankedBefore selection b a := by
  have hplaces : ∀ {i j : Nat} {a b : TaxLot}, i < j → lots[i]? = some a →
      lots[j]? = some b → lotLe a b := by
    intro i j a b hlt ha hb
    obtain ⟨hi, rfl⟩ := List.getElem?_eq_some_iff.mp ha
    obtain ⟨hj, rfl⟩ := List.getElem?_eq_some_iff.mp hb
    exact List.pairwise_iff_getElem.mp hsorted i j hi hj hlt
  cases selection with
  | fifo =>
    apply List.pairwise_lt_range.imp
    intro i j hlt a b ha hb hranked
    exact hranked.2 (hplaces hlt ha hb)
  | lifo =>
    apply List.pairwise_reverse.mpr
    apply List.pairwise_lt_range.imp
    intro i j hlt a b ha hb hranked
    exact hranked.2 (hplaces hlt hb ha)
  | highestCost =>
    apply (selectionOrder_highestCost lots).imp
    intro i j hcost a b ha hb hranked
    rw [costLe_iff ha hb] at hcost
    cases hranked with
    | inl hdearer =>
      rw [lt_def] at hdearer
      cases hcost with
      | inl hcheaper =>
        rw [lt_def] at hcheaper
        omega
      | inr hequal =>
        rw [hequal.1] at hdearer
        omega
    | inr holder =>
      cases hcost with
      | inl hcheaper =>
        rw [lt_def, holder.1] at hcheaper
        omega
      | inr hequal => exact holder.2.2 hequal.2

/-! ## Closings -/

theorem LotSide.close_takes (h : closing.close texts side = .ok (some taking)) :
    0 < closing.quantity.scaled ∧ (selectionOrder (side.lotsOf closing.instrumentId)
        closing.selection).foldlM takeLot
          ⟨side.lotsOf closing.instrumentId, closing.quantity, Decimal.zero,
            []⟩ = .ok taking ∧
      taking.remaining = Decimal.zero := by
  unfold Closing.close close at h
  simp only [bind_eq_ok, refuseIf_eq_ok, exists_const] at h
  obtain ⟨_, -, _, -, _, -, heconomics, h⟩ := h
  rw [not_or, le_def, scaled_zero] at heconomics
  split at h
  · simp [pure, Except.pure] at h
  · split at h
    · contradiction
    · next existing hexisting =>
        have hlots : side.lotsOf closing.instrumentId = existing := by
          rw [lotsOf, hexisting, getD_some]
        simp only [bind_eq_ok, refuseIf_eq_ok, exists_const, pure_eq_ok, Option.some.injEq, Decidable.not_not] at h
        obtain ⟨-, _, -, -, taken, hloop, hzero, rfl⟩ := h
        rw [hlots]
        exact ⟨by omega, hloop, hzero⟩

theorem costOf_le {other : Nat → Int} {quantity : Int}
    (htaken : Consumes lots quantity taken) (hother : Consumes lots quantity other)
    (hranked : ∀ (i j : Nat) (a b : TaxLot), lots[i]? = some a →
      lots[j]? = some b → RankedBefore .highestCost a b → 0 < taken j →
        taken i = quantityAt lots i) : costOf lots other ≤ costOf lots taken := by
  have hfirst : DearestFirst (Finset.range lots.length) (priceAt lots)
      (quantityAt lots) taken := by
    intro i hi j hj hprice hpositive
    rw [Finset.mem_range] at hi hj
    have hat := List.getElem?_eq_getElem hi
    have hat' := List.getElem?_eq_getElem hj
    apply hranked i j _ _ hat hat' _ hpositive
    left
    rw [lt_def]
    simpa [priceAt, hat, hat'] using hprice
  exact sum_mul_le_of_dearestFirst hfirst
    (fun i _ => (htaken.within i).1) (fun i _ => hother.within i)
    (hother.total.trans htaken.total.symm)

theorem rankedBefore_irrefl (selection : TaxLotSelection) (lot : TaxLot) :
    ¬RankedBefore selection lot lot := by
  cases selection with
  | fifo => exact fun h => h.2 h.1
  | lifo => exact fun h => h.2 h.1
  | highestCost =>
    rintro (hlt | hle)
    · rw [lt_def] at hlt
      omega
    · exact hle.2.2 hle.2.1

theorem pairwise_either {α : Type} {R : α → α → Prop} {items : List α}
    (h : items.Pairwise R) {a b : α} (ha : a ∈ items) (hb : b ∈ items)
    (hne : a ≠ b) : R a b ∨ R b a := by
  have hsymm : Std.Symm fun x y => R x y ∨ R y x := ⟨fun _ _ => Or.symm⟩
  have hboth : items.Pairwise fun x y => R x y ∨ R y x := h.imp .inl
  exact hboth.forall ha hb hne

theorem allocated_positive {allocation : String × Int}
    (h : allocation ∈ allocated lots taken order) : 0 < allocation.2 := by
  obtain ⟨index, _, hsome⟩ := List.mem_filterMap.mp h
  split at hsome
  · next hpositive =>
      obtain ⟨lot, _, rfl⟩ := map_eq_some_iff.mp hsome
      exact hpositive
  · contradiction

theorem LotSide.close_matches (hsound : side.Sound positivePrice)
    (h : closing.close texts side = .ok (some taking)) :
    ∃ taken, LotMatch closing.selection (side.lotsOf closing.instrumentId)
      (retainOpen taking.projected) closing.quantity.scaled taking.allocations
        taken := by
  obtain ⟨hquantity, hloop, hzero⟩ := close_takes h
  have hsorted := hsound.lotsOf_sorted closing.instrumentId
  have hopen := hsound.isOpen closing.instrumentId
  obtain ⟨_, hbalance, _⟩ := close_eq_some h hopen
  generalize side.lotsOf closing.instrumentId = lots at *
  have hperm := selectionOrder_perm lots closing.selection
  have hnodup := hperm.nodup_iff.mpr List.nodup_range
  have hthrough := takeLots_takesThrough hnodup hloop
    (fun index hindex => List.mem_range.mp (hperm.mem_iff.mp hindex))
    (quantityAt_nonneg fun lot hlot => (hopen lot hlot).le) hquantity.le
  have hlength : taking.projected.length = lots.length := by
    have hlengths := congrArg List.length hthrough.terms
    rwa [List.length_map, List.length_map] at hlengths
  let taken := fun index =>
    quantityAt lots index - quantityAt taking.projected index
  have hconsumes : Consumes lots closing.quantity.scaled taken := by
    constructor
    · intro index
      have hwithin : 0 ≤ quantityAt taking.projected index ∧
          quantityAt taking.projected index ≤ quantityAt lots index :=
        hthrough.within index
      constructor
      · exact sub_nonneg.mpr hwithin.2
      · exact sub_le_self _ hwithin.1
    · rw [Finset.sum_sub_distrib, ← lotQuantity_eq_sum, ← hlength,
        ← lotQuantity_eq_sum, hbalance]
      omega
  have hallocations : scaledAllocations taking.allocations
      = allocated lots taken (selectionOrder lots closing.selection) :=
    hthrough.allocations
  have hranked : ∀ (i j : Nat) (a b : TaxLot), lots[i]? = some a →
      lots[j]? = some b → RankedBefore closing.selection a b → 0 < taken j →
        taken i = quantityAt lots i := by
    intro i j a b ha hb hbefore htouched
    have hmem : ∀ {index : Nat} {lot : TaxLot}, lots[index]? = some lot →
        index ∈ selectionOrder lots closing.selection := by
      intro index lot hlot
      rw [hperm.mem_iff, List.mem_range]
      exact (List.getElem?_eq_some_iff.mp hlot).1
    have hne : i ≠ j := by
      rintro rfl
      obtain rfl := Option.some.inj (ha.symm.trans hb)
      exact rankedBefore_irrefl closing.selection a hbefore
    have hboth := hthrough.usedUp.and
      (selectionOrder_ranked hsorted closing.selection)
    have hzeroAt : quantityAt taking.projected i = 0 := by
      cases pairwise_either hboth (hmem ha) (hmem hb) hne with
      | inl hfirst => exact hfirst.1 (sub_pos.mp htouched)
      | inr hfirst => exact absurd hbefore (hfirst.2 b a hb ha)
    change _ - quantityAt taking.projected i = _
    rw [hzeroAt, sub_zero]
  refine ⟨taken, hconsumes, ?_, ?_, ?_, hranked, ⟨taking.projected, rfl,
    hthrough.terms, ?_⟩, ?_⟩
  · intro allocation hallocation
    have hmem : (allocation.1, allocation.2.scaled)
        ∈ scaledAllocations taking.allocations :=
      mem_map_of_mem hallocation
    rw [hallocations] at hmem
    exact allocated_positive hmem
  · have hsum := hthrough.balance
    rw [hzero, scaled_zero] at hsum
    simpa using hsum
  · rw [hallocations]
    exact hperm.filterMap _
  · intro index
    exact (sub_sub_cancel _ _).symm
  · intro hdearest other hother
    rw [hdearest] at hranked
    exact costOf_le hconsumes hother hranked

/-! ## Books -/

theorem LotSide.sound_of_recoverSide {texts : TaxLotBook.RecoverTexts}
    (h : TaxLotBook.recoverSide texts positivePrice side = .ok ()) :
    side.Sound positivePrice := by
  unfold TaxLotBook.recoverSide at h
  rw [checkAll_eq_ok] at h
  have hbucket : ∀ (instrumentId : String) (lots : List TaxLot),
      side.lots[instrumentId]? = some lots → sortLots lots = lots ∧
        ∀ lot ∈ lots, TaxLotBook.recoverLot texts positivePrice side
          instrumentId lot = .ok () := by
    intro instrumentId lots hfound
    have hmem := h (instrumentId, lots)
      (mem_toList_iff_getElem?_eq_some.mpr hfound)
    simp only [TaxLotBook.recoverBucket, bind_eq_ok, refuseIf_eq_ok,
      checkAll_eq_ok, not_not] at hmem
    obtain ⟨_, _, _, hsorted, hlots⟩ := hmem
    exact ⟨hsorted, hlots⟩
  constructor
  · intro instrumentId lots hfound
    rw [← (hbucket instrumentId lots hfound).1]
    exact sortLots_pairwise lots
  · intro instrumentId lots hfound lot hlot
    have hlotOk := (hbucket instrumentId lots hfound).2 lot hlot
    simp only [TaxLotBook.recoverLot, bind_eq_ok, refuseIf_eq_ok,
      validateCanonicalId_eq_ok, validateUtcTimestamp_eq_ok, le_def,
      scaled_zero, not_or, not_and, not_le, not_not] at hlotOk
    obtain ⟨_, hid, _, hinstrument, _, hopenedAt, _, heconomics, hidentity⟩ := hlotOk
    exact ⟨hid, hinstrument, hopenedAt, heconomics.1, heconomics.2, hidentity⟩

namespace TaxLotBook

variable {book book' : TaxLotBook} {closing : Closing} {closed : LotClose}

theorem sound_of_recover {snapshot : TaxLotBookSnapshot}
    (h : recover snapshot = .ok book) : book.Sound := by
  simp only [recover, bind_eq_ok] at h
  obtain ⟨_, hlong, _, hshort, hbook⟩ := h
  obtain rfl := Except.ok.inj hbook
  exact ⟨LotSide.sound_of_recoverSide hlong, LotSide.sound_of_recoverSide hshort⟩

def Built : TaxLotBook → Prop :=
  Reachable (fun book => book = TaxLotBook.empty ∨
    ∃ snapshot, recover snapshot = .ok book) LotCall.Step

theorem Built.sound (h : book.Built) : book.Sound := by
  apply h.invariant
  · rintro start (rfl | ⟨snapshot, hrecover⟩)
    · exact sound_empty
    · exact sound_of_recover hrecover
  · exact fun _ _ _ hsound hstep => hstep.sound hsound

theorem dispose_closed (h : closing.dispose.run book = (.ok (some closed), book')) :
    ∃ taking realizedByCurrency,
      closing.close disposalTexts book.long = .ok (some taking) ∧
      closed.allocations = taking.allocations ∧
      book' =
        { long := book.long.store closing.closeId closing.instrumentId
            (retainOpen taking.projected)
          short := book.short
          realizedByCurrency } := by
  simp only [Closing.dispose, dispose, run_read_bind,
    run_lift_bind_eq_ok] at h
  obtain ⟨taken, htaken, h⟩ := h
  cases taken with
  | none => simp at h
  | some taking =>
    simp only [run_lift_bind_eq_ok, run_update_bind] at h
    obtain ⟨_, -, _, -, _, -, h⟩ := h
    obtain ⟨_, stored, hrealize, h⟩ := run_bind_eq_ok.mp h
    rw [run_pure, Prod.mk.injEq] at h
    obtain ⟨total, rfl⟩ := realize_ok hrealize
    obtain rfl := Option.some.inj (Except.ok.inj h.1)
    exact ⟨taking, _, htaken, rfl, h.2.symm⟩

theorem cover_closed (h : closing.cover.run book = (.ok (some closed), book')) :
    ∃ taking realizedByCurrency, closing.close coverTexts book.short = .ok (some taking) ∧
      closed.allocations = taking.allocations ∧
      book' =
        { long := book.long
          short := book.short.store closing.closeId closing.instrumentId
            (retainOpen taking.projected)
          realizedByCurrency } := by
  simp only [Closing.cover, cover, run_read_bind,
    run_lift_bind_eq_ok] at h
  obtain ⟨taken, htaken, h⟩ := h
  cases taken with
  | none => simp at h
  | some taking =>
    simp only [run_lift_bind_eq_ok, run_update_bind] at h
    obtain ⟨_, -, _, -, _, -, h⟩ := h
    obtain ⟨_, stored, hrealize, h⟩ := run_bind_eq_ok.mp h
    rw [run_pure, Prod.mk.injEq] at h
    obtain ⟨total, rfl⟩ := realize_ok hrealize
    obtain rfl := Option.some.inj (Except.ok.inj h.1)
    exact ⟨taking, _, htaken, rfl, h.2.symm⟩

end TaxLotBook

/-- A half after a closing: the lots of the instrument are matched, the others
are as they were. -/
structure LotSide.ClosedBy (closing : Closing)
    (allocations : List (String × Decimal)) (side side' : LotSide) : Prop where
  matched : ∃ taken, LotMatch closing.selection
    (side.lotsOf closing.instrumentId) (side'.lotsOf closing.instrumentId)
    closing.quantity.scaled allocations taken
  frame : ∀ other : String, closing.instrumentId ≠ other →
    side'.lotsOf other = side.lotsOf other

theorem LotSide.Sound.closedBy (hsound : side.Sound positivePrice)
    (h : closing.close texts side = .ok (some taking)) :
    side.ClosedBy closing taking.allocations
      (side.store closing.closeId closing.instrumentId
        (retainOpen taking.projected)) := by
  constructor
  · rw [lotsOf_store, if_pos rfl]
    exact close_matches hsound h
  · intro other hother
    rw [lotsOf_store, if_neg hother]

namespace LotMatchingRun

open LotCallRun

def acquired : TaxLotBook := ((LotCall.acquire lot).perform TaxLotBook.empty).2

end LotMatchingRun

end Follon.Accounting
