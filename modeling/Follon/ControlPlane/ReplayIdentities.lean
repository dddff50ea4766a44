import Follon.ControlPlane.ReplayConservation
import Follon.Foundation.KeyedRows
import Mathlib.Data.List.Pairwise

/-!
# The identities of replayed fills

An execution id is made of an intent id and, where an order fills in parts, the
number of the part.  Which ids an order can take depends on its intent and the
fill cap alone, and so does the condition under which none is taken twice.
-/

namespace Follon.ControlPlane

open Foundation Domain

def wholeId (intent : OrderIntent) : String := "exec-" ++ intent.intentId

def partId (intent : OrderIntent) (n : Nat) : String :=
  "exec-" ++ intent.intentId ++ "-" ++ padded 6 n

def FillsWhole (model : DeterministicFillModel) (intent : OrderIntent) : Prop :=
  ∀ cap ∈ model.maxFillQuantity, intent.quantity.scaled ≤ cap.scaled

/-- The cap splits the order, with something left after `n` parts. -/
def SplitsBeyond (model : DeterministicFillModel) (intent : OrderIntent)
    (n : Nat) : Prop :=
  ∃ cap ∈ model.maxFillQuantity, cap.scaled < intent.quantity.scaled ∧
    n * cap.scaled < intent.quantity.scaled

/-- The one fill of `intent` may take the id of a part of `other`. -/
def Clashes (model : DeterministicFillModel) (intent other : OrderIntent) : Prop :=
  FillsWhole model intent ∧ ∃ n, SplitsBeyond model other n ∧
    intent.intentId = other.intentId ++ "-" ++ padded 6 (n + 1)

structure Apart (model : DeterministicFillModel) (intent other : OrderIntent) :
    Prop where
  distinct : intent.intentId ≠ other.intentId
  whole : ¬Clashes model intent other
  part : ¬Clashes model other intent

instance (model : DeterministicFillModel) : Std.Symm (Apart model) :=
  ⟨fun _ _ h => ⟨h.distinct.symm, h.part, h.whole⟩⟩

/-! ## Text -/

variable {intent other : OrderIntent} {n : Nat}

theorem wholeId_inj :
    wholeId intent = wholeId other ↔ intent.intentId = other.intentId := by
  simp only [wholeId, ← toList_inj, toList_append,
    List.append_cancel_left_eq]

theorem partId_inj {m : Nat} : partId intent m = partId other n
      ↔ intent.intentId = other.intentId ∧ m = n := by
  constructor
  · intro h
    have hdigits : ∀ k, '-' ∉ zeroPadded 6 k := by
      intro k hmem
      have hdigit := isAsciiDigit_of_mem_zeroPadded hmem
      revert hdigit
      decide
    rw [← toList_inj] at h
    simp only [partId, padded, toList_append, toList_ofList,
      append_assoc, List.append_cancel_left_eq] at h
    obtain ⟨hid, hnumber⟩ := append_cons_inj (hdigits m) (hdigits n) h
    exact ⟨toList_inj.mp hid, zeroPadded_injective 6 hnumber⟩
  · rintro ⟨hid, rfl⟩
    rw [partId, partId, hid]

theorem wholeId_eq_partId : wholeId intent = partId other n
      ↔ intent.intentId = other.intentId ++ "-" ++ padded 6 n := by
  simp only [wholeId, partId, ← toList_inj, toList_append,
    append_assoc, List.append_cancel_left_eq]

/-! ## The ids of one order -/

/-- The ids an order has filled under, how many they are, and the quantity it
has left. -/
inductive Numbered (model : DeterministicFillModel) (intent : OrderIntent) :
    List String → Nat → Int → Prop
  | unfilled : Numbered model intent [] 0 intent.quantity.scaled
  | whole (hwhole : FillsWhole model intent) :
      Numbered model intent [wholeId intent] 1 0
  | part {cap : Decimal} {n : Nat} (hcap : cap ∈ model.maxFillQuantity)
      (hpositive : 0 < cap.scaled)
      (hsplit : cap.scaled < intent.quantity.scaled)
      (hbeyond : n * cap.scaled < intent.quantity.scaled) :
      Numbered model intent
        ((List.range (n + 1)).map fun k => partId intent (k + 1)) (n + 1)
        (max 0 (intent.quantity.scaled - (n + 1) * cap.scaled))

namespace Numbered

variable {model : DeterministicFillModel} {intent : OrderIntent}
  {ids : List String} {sequence : Nat} {remaining : Int}

theorem nodup (h : Numbered model intent ids sequence remaining) : ids.Nodup := by
  cases h with
  | unfilled => exact List.nodup_nil
  | whole => exact List.nodup_singleton _
  | part =>
    refine List.Nodup.map ?_ List.nodup_range
    intro m n hsame
    have hnumber := (partId_inj.mp hsame).2
    omega

theorem mem (h : Numbered model intent ids sequence remaining)
    {executionId : String} (hmem : executionId ∈ ids) :
    FillsWhole model intent ∧ executionId = wholeId intent ∨
      ∃ n, SplitsBeyond model intent n ∧
        executionId = partId intent (n + 1) := by
  cases h with
  | unfilled => contradiction
  | whole hwhole => exact .inl ⟨hwhole, mem_singleton.mp hmem⟩
  | @part cap n hcap hpositive hsplit hbeyond =>
    obtain ⟨k, hk, rfl⟩ := mem_map.mp hmem
    refine .inr ⟨k, ⟨cap, hcap, hsplit, ?_⟩, rfl⟩
    have hle : (k : Int) ≤ n := by
      have := List.mem_range.mp hk
      omega
    exact (Int.mul_le_mul_of_nonneg_right hle (Int.le_of_lt hpositive)).trans_lt hbeyond

end Numbered

namespace Replay

variable {working : SimulatedWorkingOrder} {quantity : Decimal} {n : Nat}
  {model : DeterministicFillModel}

theorem executionIdFor_whole (hfirst : working.fillSequence = 0)
    (hall : quantity = working.order.intent.quantity)
    (hleft : quantity = working.remainingQuantity) :
    executionIdFor working quantity n = wholeId working.order.intent := by
  rw [executionIdFor, isSingleFullFill, hfirst, ← hall, ← hleft]
  simp [wholeId]

theorem executionIdFor_part (hpart : working.fillSequence ≠ 0 ∨
      quantity ≠ working.order.intent.quantity) :
    executionIdFor working quantity n = partId working.order.intent n := by
  have hnot : isSingleFullFill working quantity = false := by
    rcases hpart with h | h <;> simp [isSingleFullFill, h]
  rw [executionIdFor, hnot]
  simp [partId]

theorem nextQuantity_none (h : model.maxFillQuantity = none) :
    nextQuantity model working = working.remainingQuantity := by
  rw [nextQuantity, h]

theorem nextQuantity_some {cap : Decimal} (h : model.maxFillQuantity = some cap)
    : (nextQuantity model working).scaled
      = min working.remainingQuantity.scaled cap.scaled := by
  rw [nextQuantity, h, scaled_min]

end Replay

open Replay

namespace Numbered

variable {model : DeterministicFillModel} {working : SimulatedWorkingOrder}
  {booked : Fill} {left : Decimal}

theorem first (hfill : NextFill model working booked)
    (hsequence : working.fillSequence = 0)
    (hremaining : working.remainingQuantity = working.order.intent.quantity)
    (hleft : left.scaled = working.remainingQuantity.scaled - booked.quantity.scaled) :
    Numbered model working.order.intent [booked.executionId] 1
      left.scaled := by
  have hwholly : booked.quantity = working.remainingQuantity →
      FillsWhole model working.order.intent →
      Numbered model working.order.intent [booked.executionId] 1
        left.scaled := by
    intro hall hwhole
    rw [hfill.executionId, executionIdFor_whole hsequence
      (hall.trans hremaining) hall, hleft, hall, Int.sub_self]
    exact .whole hwhole
  cases hcap : model.maxFillQuantity with
  | none =>
    refine hwholly ?_ (by simp [FillsWhole, hcap])
    rw [hfill.quantity, nextQuantity_none hcap]
  | some cap =>
    have hquantity : booked.quantity.scaled
        = min working.remainingQuantity.scaled cap.scaled := by
      rw [hfill.quantity, nextQuantity_some hcap]
    rw [hremaining] at hquantity
    have hpositive := hfill.positive
    by_cases hfits : working.order.intent.quantity.scaled ≤ cap.scaled
    · refine hwholly (Decimal.ext ?_) (by simpa [FillsWhole, hcap])
      rw [hremaining]
      omega
    · have hsplit := Int.not_le.mp hfits
      have hpart : booked.quantity ≠ working.order.intent.quantity := by
        intro hsame
        rw [hsame] at hquantity
        omega
      have hid : [booked.executionId] = (List.range (0 + 1)).map fun k =>
          partId working.order.intent (k + 1) := by
        rw [hfill.executionId, executionIdFor_part (.inr hpart), hsequence]
        rfl
      have hrest : left.scaled = max 0 (working.order.intent.quantity.scaled
          - ((0 : Nat) + 1) * cap.scaled) := by
        rw [hleft, hremaining]
        omega
      rw [hid, hrest]
      exact .part hcap (by omega) hsplit (by omega)

theorem next {cap : Decimal} {n : Nat} (hcap : cap ∈ model.maxFillQuantity)
    (hpositive : 0 < cap.scaled)
    (hsplit : cap.scaled < working.order.intent.quantity.scaled)
    (hfill : NextFill model working booked) (hsequence : working.fillSequence = n + 1)
    (hremaining : working.remainingQuantity.scaled
      = max 0 (working.order.intent.quantity.scaled - (n + 1) * cap.scaled))
    (hleft : left.scaled = working.remainingQuantity.scaled - booked.quantity.scaled) :
    Numbered model working.order.intent
      (((List.range (n + 1)).map fun k =>
        partId working.order.intent (k + 1)) ++ [booked.executionId])
      (n + 1 + 1) left.scaled := by
  have hquantity : booked.quantity.scaled
      = min working.remainingQuantity.scaled cap.scaled := by
    rw [hfill.quantity, nextQuantity_some hcap]
  have hfilled := hfill.positive
  have hid : booked.executionId
      = partId working.order.intent (n + 1 + 1) := by
    rw [hfill.executionId, executionIdFor_part (.inl (by omega)), hsequence]
  have hnext : ((n + 1 : Nat) + 1) * cap.scaled
      = (n + 1) * cap.scaled + cap.scaled := by
    rw [Int.natCast_succ, Int.add_mul _ 1 cap.scaled, Int.one_mul]
  have hrest : left.scaled = max 0 (working.order.intent.quantity.scaled
      - ((n + 1 : Nat) + 1) * cap.scaled) := by
    rw [hleft, hnext]
    omega
  have hids : ((List.range (n + 1)).map fun k =>
        partId working.order.intent (k + 1)) ++ [booked.executionId]
      = (List.range (n + 1 + 1)).map fun k =>
        partId working.order.intent (k + 1) := by
    rw [List.range_succ (n := n + 1), map_append, hid]
    rfl
  rw [hids, hrest]
  refine .part hcap hpositive hsplit ?_
  push_cast
  omega

theorem fill {ids : List String}
    (h : Numbered model working.order.intent ids working.fillSequence
      working.remainingQuantity.scaled) (hfill : NextFill model working booked)
    (hleft : left.scaled = working.remainingQuantity.scaled - booked.quantity.scaled) :
    Numbered model working.order.intent (ids ++ [booked.executionId])
      (working.fillSequence + 1) left.scaled := by
  generalize hsequence : working.fillSequence = sequence at h
  generalize hremaining : working.remainingQuantity.scaled = remaining at h
  cases h with
  | unfilled =>
    exact first hfill hsequence (Decimal.ext hremaining) hleft
  | whole =>
    have hle := hfill.le
    have hpositive := hfill.positive
    omega
  | part hcap hpositive hsplit =>
    exact next hcap hpositive hsplit hfill hsequence hremaining hleft

end Numbered

/-! ## Whole runs -/

def Enumerated (model : DeterministicFillModel) (stream : List EventEnvelope)
    (working : SimulatedWorkingOrder) : Prop :=
  Numbered model working.order.intent
    ((fillsOf working.order.orderId stream).map Fill.executionId)
    working.fillSequence working.remainingQuantity.scaled

theorem enumerated_rule : TraceRule Enumerated where
  same := by
    rintro model stream working working' h ⟨horder, hremaining, hsequence⟩
    rw [Enumerated, horder, hremaining, hsequence]
    exact h
  frame := by
    intro model stream working event h hother
    rw [Enumerated, fillsOf_append, fillsOf_other hother, append_nil]
    exact h
  moved := by
    intro model stream working event next reason h _ hpayload
    have hnone : fillsOf working.order.orderId [event] = [] := by
      rw [fillsOf, fillsIn_single, hpayload]
      rfl
    rw [Enumerated]
    simp only [inState]
    rw [fillsOf_append, hnone, append_nil]
    exact h
  filled := by
    intro model stream working event booked left h hfill hleft hpayload
    have hone : fillsOf working.order.orderId [event] = [booked] := by
      rw [fillsOf, fillsIn_single, hpayload]
      simp [EventPayload.fill?, hfill.order]
    rw [Enumerated]
    simp only
    rw [fillsOf_append, hone, map_append]
    exact h.fill hfill hleft
  announced := by
    intro model stream event intent reason _ hpayload _ hnone
    have hlast : fillsOf (OmsOrder.orderIdFor intent.intentId) [event] = [] := by
      rw [fillsOf, fillsIn_single, hpayload]
      rfl
    rw [Enumerated]
    simp only [announced]
    rw [fillsOf_append, hnone, hlast]
    exact .unfilled

namespace Replay

variable {K S : Type} [EventSink K] [Strategy S] {s : Replay K S}

variable {model : DeterministicFillModel}

theorem distinctIds_of_apart {intents : List OrderIntent}
    (h : intents.Pairwise (Apart model)) : DistinctIds intents :=
  pairwise_map.mpr (h.imp Apart.distinct)

theorem ids_apart {intent other : OrderIntent} (h : Apart model intent other)
    {ids ids' : List String} {sequence sequence' : Nat} {remaining remaining' : Int}
    (hids : Numbered model intent ids sequence remaining)
    (hids' : Numbered model other ids' sequence' remaining')
    {executionId : String} (hmem : executionId ∈ ids) : executionId ∉ ids' := by
  intro hmem'
  rcases hids.mem hmem with ⟨hwhole, rfl⟩ | ⟨m, hbeyond, rfl⟩
  · rcases hids'.mem hmem' with ⟨-, hsame⟩ | ⟨n, hbeyond', hsame⟩
    · exact h.distinct (wholeId_inj.mp hsame)
    · exact h.whole ⟨hwhole, n, hbeyond', wholeId_eq_partId.mp hsame⟩
  · rcases hids'.mem hmem' with ⟨hwhole', hsame⟩ | ⟨n, -, hsame⟩
    · exact h.part ⟨hwhole', m, hbeyond, wholeId_eq_partId.mp hsame.symm⟩
    · exact h.distinct (partId_inj.mp hsame).1

omit [EventSink K] [Strategy S] in
theorem execution_mem {working : SimulatedWorkingOrder} {booked : Fill}
    (hid : working.order.orderId = booked.orderId)
    (hbooked : booked ∈ fillsIn s.stream) : booked.executionId
      ∈ (fillsOf working.order.orderId s.stream).map Fill.executionId := by
  refine mem_map_of_mem (mem_filter.mpr ⟨hbooked, ?_⟩)
  simp [hid]

/-- While the intents that became orders are apart, no two fills share an
execution id and no two orders share an order id. -/
theorem identities_unique (hs : Replayed s)
    (hapart : s.created.Pairwise (Apart s.engine.fillModel)) :
    ((fillsIn s.stream).map Fill.executionId).Nodup ∧
      (creationsIn s.stream).Nodup := by
  have hdistinct := distinctIds_of_apart hapart
  have horderly : Orderly Enumerated ((none, s) : Bench K S) :=
    Replayed.orderly enumerated_rule hs hdistinct
  constructor
  · refine @KeyedRows.nodup_map_of_keys _ _ _ Fill.orderId _ _ _ ?_ ?_
    · intro orderId
      by_cases hnone : fillsOf orderId s.stream = []
      · have hids : ((fillsIn s.stream).filter (·.orderId == orderId)) = [] :=
          hnone
        rw [hids]
        exact List.nodup_nil
      · obtain ⟨booked, hbooked⟩ := List.exists_mem_of_ne_nil _ hnone
        obtain ⟨hin, hid⟩ := mem_filter.mp hbooked
        obtain ⟨working, hknown, horder⟩ := horderly.of_fill hin
        have hnumbered := hknown.fact.nodup
        rwa [horder, eq_of_beq hid] at hnumbered
    · intro booked hbooked other hother hne hsame
      obtain ⟨working, hknown, horder⟩ := horderly.of_fill hbooked
      obtain ⟨working', hknown', horder'⟩ := horderly.of_fill hother
      have hmem := execution_mem horder hbooked
      have hmem' := execution_mem horder' hother
      refine ids_apart (hapart.forall hknown.intent hknown'.intent ?_)
        hknown.fact hknown'.fact hmem (hsame ▸ hmem')
      intro hintents
      apply hne
      rw [← horder, ← horder', hknown.identity, hknown'.identity, hintents]
  · rw [Replayed.recorded hs]
    have hids : (s.created.map OrderIntent.intentId).Nodup := hdistinct
    have hmapped := hids.map OmsOrder.orderIdFor_injective
    rwa [map_map] at hmapped

end Replay

/-! ## Orders filled in parts -/

namespace Session

def five : Decimal := .five

/-- Two orders of ten filled five at a time. -/
theorem identities_unique_in_parts :
    ∃ s : Replay InMemoryEventStore Script, (fillsIn s.stream).length = 3 ∧
      ((fillsIn s.stream).map Fill.executionId).Nodup ∧
        (creationsIn s.stream).Nodup := by
  let second : OrderIntent := { intent with intentId := "intent-2" }
  obtain ⟨s, hs, hfills, hcreated, hmodel⟩ :
      ∃ s : Replay InMemoryEventStore Script, Replay.Replayed s ∧
        (fillsIn s.stream).length = 3 ∧ s.created = [intent, second] ∧
        s.engine.fillModel = { fillModel with maxFillQuantity := some five } :=
    ⟨play (start (some five) [some intent, some second]) minutes,
      replayed_play (.init (start_constructed (by decide) _)) _,
      by decide +kernel⟩
  refine ⟨s, hfills, Replay.identities_unique hs ?_⟩
  have hparts : ∀ other : OrderIntent, other.quantity = ten →
      ¬FillsWhole s.engine.fillModel other := by
    intro other hten hwhole
    have hle := hwhole five (by rw [hmodel]; rfl)
    rw [hten] at hle
    revert hle
    decide
  rw [hcreated]
  refine List.pairwise_pair.mpr ⟨by decide, ?_, ?_⟩
  · exact fun hclash => hparts intent rfl hclash.1
  · exact fun hclash => hparts second rfl hclash.1

/-- The reused intent id gives two orders one order id and two fills one
execution id. -/
theorem reused_intent_shares_identities :
    ∃ s : Replay InMemoryEventStore Script, Replay.Replayed s ∧
      ¬((fillsIn s.stream).map Fill.executionId).Nodup ∧
        ¬(creationsIn s.stream).Nodup := by
  obtain ⟨s, hs, -, hcreations, -, hids, -⟩ := reused_run
  refine ⟨s, hs, fun hnodup => ?_, ?_⟩
  · have hsub : ((fillsOf "order-intent-1" s.stream).map
        Fill.executionId).Nodup :=
      (List.filter_sublist.map Fill.executionId).nodup hnodup
    rw [hids] at hsub
    revert hsub
    decide
  · rw [hcreations]
    decide

end Session

end Follon.ControlPlane
