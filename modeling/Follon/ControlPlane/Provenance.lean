import Follon.Domain.Timestamps
import Follon.Foundation.OrderedMap
import Follon.Foundation.Trail

/-!
# Decision provenance

The walk from an event back through its causes.  It ends at an event without a
cause, at a cause the journal does not hold, or at an event it has visited.
-/

namespace Follon.ControlPlane

open Foundation Domain

inductive ProvenanceIntegrityStatus
  | verified
  | incompleteChain
  | timestampAnomaly
  deriving DecidableEq

structure ProvenanceRecord where
  (eventId eventType actor eventTime receiveTime : String)
  causationId : Option String
  contentHash : String
  deriving DecidableEq

structure CausalNode where
  (nodeId eventType actor eventTime availableAt : String)
  causationId : Option String
  (contentHash summary : String)
  deriving DecidableEq

structure CausalEdge where
  (fromNodeId toNodeId relation : String)
  deriving DecidableEq

structure DecisionReconstruction where
  reconstructionSchemaVersion : Nat
  (reconstructionId targetEventId targetEntityType : String)
  causalChain : List CausalNode
  edges : List CausalEdge
  configurationHash : String
  integrityStatus : ProvenanceIntegrityStatus
  verifiedAt : String

def CausalNode.ofRecord (event : ProvenanceRecord) : CausalNode where
  nodeId := event.eventId
  eventType := event.eventType
  actor := event.actor
  eventTime := event.eventTime
  availableAt := event.receiveTime
  causationId := event.causationId
  contentHash := event.contentHash
  summary := event.eventType ++ ": " ++ event.actor

def CausalEdge.ofRecord (event : ProvenanceRecord) : Option CausalEdge :=
  event.causationId.map fun parentId =>
    { fromNodeId := parentId, toNodeId := event.eventId, relation := "caused" }

abbrev EventsById : Type :=
  OrderedMap String ProvenanceRecord

/-! ## The walk -/

structure CausalWalk where
  visitedIds : OrderedSet String
  chainNodes : List CausalNode
  edges : List CausalEdge
  currentId : Option String
  integrityStatus : ProvenanceIntegrityStatus

namespace CausalWalk

def start (targetEventId : String) : CausalWalk where
  visitedIds := ∅
  chainNodes := []
  edges := []
  currentId := some targetEventId
  integrityStatus := .verified

def visit (walk : CausalWalk) (nodeId : String) (event : ProvenanceRecord) :
    CausalWalk where
  visitedIds := walk.visitedIds.insert nodeId
  chainNodes := walk.chainNodes ++ [.ofRecord event]
  edges := walk.edges ++ (CausalEdge.ofRecord event).toList
  currentId := event.causationId
  integrityStatus :=
    if event.receiveTime < event.eventTime then .timestampAnomaly
    else walk.integrityStatus

def miss (walk : CausalWalk) (nodeId : String) : CausalWalk :=
  { walk with
    visitedIds := walk.visitedIds.insert nodeId, currentId := none
    integrityStatus := .incompleteChain }

def back (eventsById : EventsById) : Nat → CausalWalk → Option CausalWalk
  | 0, _ => none
  | steps + 1, walk =>
    match walk.currentId with
    | none => some walk
    | some nodeId =>
      if nodeId ∈ walk.visitedIds then
        some { walk with integrityStatus := .timestampAnomaly }
      else
        match eventsById[nodeId]? with
        | some event => back eventsById steps (walk.visit nodeId event)
        | none => back eventsById steps (walk.miss nodeId)

end CausalWalk

def checkMonotonic (status : ProvenanceIntegrityStatus) :
    List CausalNode → ProvenanceIntegrityStatus
  | parent :: child :: rest =>
    checkMonotonic
      (if child.availableAt < parent.availableAt then .timestampAnomaly
        else status)
      (child :: rest)
  | _ => status

/-! ## The builder -/

structure DecisionProvenanceGraphBuilder where
  eventsById : EventsById

namespace DecisionProvenanceGraphBuilder

def indexRecord (eventsById : EventsById) (record : ProvenanceRecord) :
    Result EventsById := do
  refuseIf (record.eventId ∈ eventsById)
    ("journal contains event " ++ record.eventId ++ " more than once")
  pure (eventsById.insert record.eventId record)

def fromRecords (records : List ProvenanceRecord) :
    Result DecisionProvenanceGraphBuilder := do
  let eventsById ← records.foldlM indexRecord ∅
  pure { eventsById }

def targetEntityType (eventType : String) : String :=
  if eventType = "execution.fill.v1" then "fill"
  else if eventType = "intent.created.v1" then "order_intent"
  else if eventType = "risk.decision.v1" then "risk_rejection"
  else if eventType = "position.updated.v1" then "position"
  else "alert"

def report (targetEvent : ProvenanceRecord)
    (targetEventId configurationHash verifiedAt : String) (walk : CausalWalk) :
    DecisionReconstruction where
  reconstructionSchemaVersion := 1
  reconstructionId := "recon." ++ targetEvent.eventId.replace "event." ""
  targetEventId := targetEventId
  targetEntityType := targetEntityType targetEvent.eventType
  causalChain := walk.chainNodes.reverse
  edges := walk.edges
  configurationHash := configurationHash
  integrityStatus :=
    checkMonotonic walk.integrityStatus walk.chainNodes.reverse
  verifiedAt := verifiedAt

def reconstruct (steps : Nat) (builder : DecisionProvenanceGraphBuilder)
    (targetEventId configurationHash verifiedAt : String) :
    Option (Result DecisionReconstruction) :=
  match builder.eventsById[targetEventId]? with
  | none =>
    some (.error ⟨"target event " ++ targetEventId ++ " not found in store"⟩)
  | some targetEvent =>
    (CausalWalk.back builder.eventsById steps
      (.start targetEvent.eventId)).map fun walk =>
        .ok (report targetEvent targetEventId configurationHash verifiedAt walk)

end DecisionProvenanceGraphBuilder

/-! ## Causes -/

def causeOf (eventsById : EventsById) (event : ProvenanceRecord) :
    Option ProvenanceRecord :=
  event.causationId.bind fun parentId => eventsById[parentId]?

def Keyed (eventsById : EventsById) : Prop :=
  ∀ (eventId : String) (event : ProvenanceRecord),
    eventsById[eventId]? = some event → event.eventId = eventId

namespace CausalWalk

variable {eventsById : EventsById} {target : ProvenanceRecord}

structure Visited (eventsById : EventsById) (target : ProvenanceRecord)
    (walk : CausalWalk) (trail : List ProvenanceRecord) : Prop where
  follows : Trail (causeOf eventsById) target trail
  stored : ∀ event ∈ trail, eventsById[event.eventId]? = some event
  visited : ∀ eventId, eventId ∈ walk.visitedIds ↔
    ∃ event ∈ trail, event.eventId = eventId
  nodes : walk.chainNodes = trail.map CausalNode.ofRecord
  edges : walk.edges = trail.filterMap CausalEdge.ofRecord
  current : ∀ last ∈ trail.getLast?, walk.currentId = last.causationId
  status : walk.integrityStatus = .verified ↔
    ∀ event ∈ trail, event.eventTime ≤ event.receiveTime

structure Ended (eventsById : EventsById) (target : ProvenanceRecord)
    (walk : CausalWalk) (trail : List ProvenanceRecord) : Prop where
  follows : Trail (causeOf eventsById) target trail
  complete : Trail.Complete (causeOf eventsById) trail
  nodes : walk.chainNodes = trail.map CausalNode.ofRecord
  edges : walk.edges = trail.filterMap CausalEdge.ofRecord
  status : walk.integrityStatus = .verified ↔
    (∀ last ∈ trail.getLast?, last.causationId = none) ∧
      ∀ event ∈ trail, event.eventTime ≤ event.receiveTime

theorem visit_start (htarget : eventsById[target.eventId]? = some target) :
    Visited eventsById target
      ((start target.eventId).visit target.eventId target) [target] where
  follows := Trail.single _ target
  stored := by simpa using htarget
  visited := by simp [start, visit]
  nodes := rfl
  edges := by
    simp only [start, visit, nil_append, List.filterMap_cons, List.filterMap_nil]
    cases CausalEdge.ofRecord target <;> rfl
  current := by simp [visit]
  status := by
    simp only [start, visit, mem_singleton, forall_eq, ← not_lt]
    split <;> simp_all

variable {walk : CausalWalk} {trail : List ProvenanceRecord} {steps : Nat}

variable {last : ProvenanceRecord}

theorem Visited.visit (h : Visited eventsById target walk trail)
    (hkeyed : Keyed eventsById) {nodeId : String} {event : ProvenanceRecord}
    (hlast : trail.getLast? = some last)
    (hcause : last.causationId = some nodeId) (hnew : nodeId ∉ walk.visitedIds)
    (hevent : eventsById[nodeId]? = some event) :
    Visited eventsById target (walk.visit nodeId event)
      (trail ++ [event]) := by
  have hid := hkeyed nodeId event hevent
  constructor
  · apply h.follows.concat hlast
    · rw [causeOf, hcause]
      exact hevent
    · intro hmem
      exact hnew ((h.visited nodeId).mpr ⟨event, hmem, hid⟩)
  · intro other hother
    rcases mem_append.mp hother with hother | hother
    · exact h.stored other hother
    · rw [mem_singleton.mp hother, hid]
      exact hevent
  · intro eventId
    simp only [CausalWalk.visit, mem_insert, h.visited,
      mem_append, mem_singleton, or_and_right, exists_or,
      exists_eq_left, hid, Std.LawfulEqOrd.compare_eq_iff_eq]
    exact or_comm
  · simp only [CausalWalk.visit, h.nodes, map_append, map_cons, map_nil]
  · simp only [CausalWalk.visit, h.edges, filterMap_append,
      List.filterMap_cons, List.filterMap_nil]
    cases CausalEdge.ofRecord event <;> rfl
  · intro last' hlast'
    rw [List.getLast?_concat, Option.mem_some_iff] at hlast'
    rw [← hlast']
    rfl
  · simp only [CausalWalk.visit, mem_append, mem_singleton, or_imp,
      forall_and, forall_eq, ← h.status]
    split
    · next hearly =>
        constructor
        · nofun
        · rintro ⟨-, htimes⟩
          exact absurd hearly (not_lt.mpr htimes)
    · next hlate =>
        exact ⟨fun hstatus => ⟨hstatus, not_lt.mp hlate⟩, And.left⟩

theorem Visited.length_le (h : Visited eventsById target walk trail) :
    trail.length ≤ eventsById.size := by
  have hdistinct : (trail.map ProvenanceRecord.eventId).Nodup := by
    refine List.Nodup.map_on ?_ h.follows.distinct
    intro event hevent other hother hsame
    have hstored := h.stored event hevent
    rw [hsame, h.stored other hother] at hstored
    exact (Option.some.inj hstored).symm
  have hkeys : trail.map ProvenanceRecord.eventId ⊆ eventsById.keys := by
    intro eventId hmem
    obtain ⟨event, hevent, rfl⟩ := mem_map.mp hmem
    rw [Std.ExtTreeMap.mem_keys, mem_iff_isSome_getElem?, h.stored event hevent]
    rfl
  rw [← Std.ExtTreeMap.length_keys, ← List.length_map]
  exact (List.subperm_of_subset hdistinct hkeys).length_le

theorem Visited.ended (h : Visited eventsById target walk trail)
    (hlast : trail.getLast? = some last)
    (hcomplete : ∀ event ∈ causeOf eventsById last, event ∈ trail)
    {ended : CausalWalk} (hnodes : ended.chainNodes = walk.chainNodes)
    (hedges : ended.edges = walk.edges) (hstatus : ended.integrityStatus = .verified ↔
      last.causationId = none ∧ walk.integrityStatus = .verified) :
    Ended eventsById target ended trail where
  follows := h.follows
  complete := by
    intro last' hlast'
    rw [Option.mem_def, hlast] at hlast'
    obtain rfl := Option.some.inj hlast'
    exact hcomplete
  nodes := hnodes.trans h.nodes
  edges := hedges.trans h.edges
  status := by
    rw [hstatus, h.status, hlast]
    simp only [Option.mem_some_iff, forall_eq']

theorem back_ended (hkeyed : Keyed eventsById) (h : Visited eventsById target walk trail)
    (hsteps : eventsById.size + 2 ≤ steps + trail.length) :
    ∃ walk' trail', back eventsById steps walk = some walk' ∧
      Ended eventsById target walk' trail' := by
  induction steps generalizing walk trail with
  | zero =>
    have := h.length_le
    omega
  | succ steps ih =>
    obtain ⟨last, hlast⟩ : ∃ last, trail.getLast? = some last :=
      isSome_iff_exists.mp
        (List.getLast?_isSome.mpr h.follows.ne_nil)
    have hcurrent := h.current last hlast
    unfold back
    cases hcause : last.causationId with
    | none =>
      rw [hcurrent, hcause]
      refine ⟨walk, trail, rfl, h.ended hlast ?_ rfl rfl ?_⟩
      · intro event hevent
        rw [causeOf, hcause] at hevent
        simp at hevent
      · simp [hcause]
    | some nodeId =>
      rw [hcurrent, hcause]
      dsimp only
      by_cases hvisited : nodeId ∈ walk.visitedIds
      · rw [if_pos hvisited]
        refine ⟨_, trail, rfl, h.ended hlast ?_ rfl rfl ?_⟩
        · intro event hevent
          rw [causeOf, hcause, bind_some, Option.mem_def] at hevent
          obtain ⟨other, hother, hid⟩ := (h.visited nodeId).mp hvisited
          have hstored := h.stored other hother
          rw [hid, hevent] at hstored
          rw [Option.some.inj hstored]
          exact hother
        · simp [hcause]
      · rw [if_neg hvisited]
        cases hevent : eventsById[nodeId]? with
        | some event =>
          apply ih (h.visit hkeyed hlast hcause hvisited hevent)
          rw [length_append, List.length_singleton]
          omega
        | none =>
          have hlength := h.length_le
          obtain ⟨rest, rfl⟩ : ∃ rest, steps = rest + 1 :=
            Nat.exists_eq_add_of_le' (by omega)
          refine ⟨_, trail, rfl, h.ended hlast ?_ rfl rfl ?_⟩
          · intro other hother
            rw [causeOf, hcause, bind_some, hevent] at hother
            simp at hother
          · simp [hcause, miss]

theorem back_le {more : Nat} {walk' : CausalWalk} (hle : steps ≤ more)
    (h : back eventsById steps walk = some walk') :
    back eventsById more walk = some walk' := by
  induction steps generalizing walk more with
  | zero => contradiction
  | succ steps ih =>
    obtain ⟨rest, rfl⟩ : ∃ rest, more = rest + 1 :=
      Nat.exists_eq_add_of_le' (by omega)
    unfold back at h ⊢
    cases hcurrent : walk.currentId with
    | none =>
      rw [hcurrent] at h
      exact h
    | some nodeId =>
      rw [hcurrent] at h
      dsimp only at h ⊢
      split at h
      · next hvisited =>
          rw [if_pos hvisited]
          exact h
      · next hnew =>
          rw [if_neg hnew]
          cases hevent : eventsById[nodeId]? with
          | some event =>
            rw [hevent] at h
            exact ih (by omega) h
          | none =>
            rw [hevent] at h
            exact ih (by omega) h

theorem back_start (hkeyed : Keyed eventsById)
    (htarget : eventsById[target.eventId]? = some target)
    (hsteps : eventsById.size + 2 ≤ steps) :
    ∃ walk trail, back eventsById steps (.start target.eventId) = some walk ∧
      Ended eventsById target walk trail := by
  obtain ⟨rest, rfl⟩ : ∃ rest, steps = rest + 1 :=
    Nat.exists_eq_add_of_le' (by omega)
  have hfirst : back eventsById (rest + 1) (.start target.eventId) =
      back eventsById rest
        ((start target.eventId).visit target.eventId target) := by
    simp [back, start, htarget]
  rw [hfirst]
  apply back_ended hkeyed (visit_start htarget)
  rw [List.length_singleton]
  omega

end CausalWalk

theorem checkMonotonic_eq_verified {status : ProvenanceIntegrityStatus}
    {chain : List CausalNode} :
    checkMonotonic status chain = .verified ↔ status = .verified ∧
      chain.IsChain fun parent child =>
        parent.availableAt ≤ child.availableAt := by
  induction chain generalizing status with
  | nil => simp [checkMonotonic]
  | cons parent chain ih =>
    cases chain with
    | nil => simp [checkMonotonic]
    | cons child rest =>
      rw [checkMonotonic, ih, List.isChain_cons_cons, ← and_assoc]
      apply and_congr_left'
      rw [← not_lt]
      split <;> simp_all

namespace DecisionProvenanceGraphBuilder

/-! ## The records of a builder -/

structure Indexes (records : List ProvenanceRecord)
    (eventsById : EventsById) : Prop where
  keyed : Keyed eventsById
  holds : ∀ event, eventsById[event.eventId]? = some event ↔ event ∈ records
  size : eventsById.size = records.length

variable {records : List ProvenanceRecord}

variable {eventsById : EventsById}

theorem Indexes.indexRecord (h : Indexes records eventsById) {record : ProvenanceRecord}
    (hnew : ∀ event ∈ records, event.eventId ≠ record.eventId) :
    ∃ eventsById', DecisionProvenanceGraphBuilder.indexRecord eventsById
        record = .ok eventsById' ∧
      Indexes (records ++ [record]) eventsById' := by
  have hfresh : record.eventId ∉ eventsById := by
    intro hmem
    rw [mem_iff_isSome_getElem?,
      isSome_iff_exists] at hmem
    obtain ⟨event, hevent⟩ := hmem
    have hid := h.keyed _ _ hevent
    exact hnew event ((h.holds event).mp (hid ▸ hevent)) hid
  refine ⟨eventsById.insert record.eventId record, ?_, ?_, ?_, ?_⟩
  · simp only [DecisionProvenanceGraphBuilder.indexRecord, bind_eq_ok, refuseIf_eq_ok]
    exact ⟨(), hfresh, rfl⟩
  · intro eventId event hevent
    rw [getElem?_insert] at hevent
    split at hevent
    · next hsame =>
        rw [← Option.some.inj hevent]
        exact Std.LawfulEqOrd.compare_eq_iff_eq.mp hsame
    · exact h.keyed eventId event hevent
  · intro event
    rw [getElem?_insert, mem_append, mem_singleton]
    split
    · next hsame =>
        have hid := Std.LawfulEqOrd.compare_eq_iff_eq.mp hsame
        constructor
        · intro hevent
          exact .inr (Option.some.inj hevent).symm
        · rintro (hmem | rfl)
          · exact absurd hid.symm (hnew event hmem)
          · rfl
    · next hother =>
        rw [h.holds]
        constructor
        · exact .inl
        · rintro (hmem | rfl)
          · exact hmem
          · simp at hother
  · rw [Std.ExtTreeMap.size_insert, if_neg (by simpa using hfresh), h.size,
      length_append, List.length_singleton]

theorem foldlM_indexRecord {seen : List ProvenanceRecord} (h : Indexes seen eventsById)
    (hdistinct : ((seen ++ records).map ProvenanceRecord.eventId).Nodup) :
    ∃ eventsById', records.foldlM indexRecord eventsById = .ok eventsById' ∧
      Indexes (seen ++ records) eventsById' := by
  induction records generalizing seen eventsById with
  | nil =>
    rw [append_nil]
    exact ⟨eventsById, rfl, h⟩
  | cons record records ih =>
    have hnew : ∀ event ∈ seen, event.eventId ≠ record.eventId := by
      rw [map_append, List.nodup_append] at hdistinct
      intro event hevent
      exact hdistinct.2.2 _ (mem_map_of_mem hevent) _
        mem_cons_self
    obtain ⟨next, hnext, hindexes⟩ := h.indexRecord hnew
    rw [List.append_cons] at hdistinct ⊢
    obtain ⟨final, hfinal, hall⟩ := ih hindexes hdistinct
    refine ⟨final, ?_, hall⟩
    rw [foldlM_cons, hnext]
    exact hfinal

theorem fromRecords_ok (hdistinct : (records.map ProvenanceRecord.eventId).Nodup) :
    ∃ builder, fromRecords records = .ok builder ∧
      Indexes records builder.eventsById := by
  have hempty : Indexes [] (∅ : EventsById) := ⟨fun _ _ h => by simp at h, by simp, rfl⟩
  obtain ⟨eventsById, hfold, hindexes⟩ := foldlM_indexRecord hempty hdistinct
  refine ⟨⟨eventsById⟩, ?_, hindexes⟩
  rw [fromRecords, hfold]
  rfl

end DecisionProvenanceGraphBuilder

/-! ## What a reconstruction reports -/

def causeAmong (records : List ProvenanceRecord) (event : ProvenanceRecord) :
    Option ProvenanceRecord :=
  event.causationId.bind fun parentId =>
    records.find? fun record => record.eventId = parentId

/-- The trail goes back to an event without a cause, and its times agree with
it. -/
structure Consistent (before : String → String → Prop)
    (trail : List ProvenanceRecord) : Prop where
  root : ∀ last ∈ trail.getLast?, last.causationId = none
  received : ∀ event ∈ trail, before event.eventTime event.receiveTime
  monotonic : trail.IsChain fun child parent =>
    before parent.receiveTime child.receiveTime

variable {eventsById : EventsById} {trail : List ProvenanceRecord}

theorem DecisionProvenanceGraphBuilder.Indexes.causeOf_eq
    {records : List ProvenanceRecord} (h : Indexes records eventsById)
    : causeOf eventsById = causeAmong records := by
  funext event
  unfold causeOf causeAmong
  congr 1
  funext parentId
  cases hfind : records.find? fun record => record.eventId = parentId with
  | some parent =>
    have hid := List.find?_some hfind
    rw [decide_eq_true_eq] at hid
    have hstored := (h.holds parent).mpr (List.mem_of_find?_eq_some hfind)
    rwa [hid] at hstored
  | none =>
    cases hstored : eventsById[parentId]? with
    | none => rfl
    | some parent =>
      have hid := h.keyed parentId parent hstored
      have hmem := (h.holds parent).mp (hid ▸ hstored)
      have hnot := List.find?_eq_none.mp hfind parent hmem
      exact absurd (decide_eq_true hid) hnot

theorem consistent_instants (h : ∀ event ∈ trail, isUtcTimestamp event.eventTime = true ∧
      isUtcTimestamp event.receiveTime = true) : Consistent (· ≤ ·) trail ↔
      Consistent (fun first later => instantOf first ≤ instantOf later)
        trail := by
  have hreceived : (∀ event ∈ trail, event.eventTime ≤ event.receiveTime) ↔
      ∀ event ∈ trail, instantOf event.eventTime ≤ instantOf event.receiveTime :=
    forall₂_congr fun event hevent =>
      le_iff_instantOf_le (h event hevent).1 (h event hevent).2
  have hmonotonic : (trail.IsChain fun child parent =>
      parent.receiveTime ≤ child.receiveTime) ↔
        trail.IsChain fun child parent =>
          instantOf parent.receiveTime ≤ instantOf child.receiveTime := by
    apply List.IsChain.iff_of_mem_imp
    intro child parent hchild hparent
    exact le_iff_instantOf_le (h parent hparent).2 (h child hchild).2
  constructor
  · rintro ⟨hroot, htimes, hchain⟩
    exact ⟨hroot, hreceived.mp htimes, hmonotonic.mp hchain⟩
  · rintro ⟨hroot, htimes, hchain⟩
    exact ⟨hroot, hreceived.mpr htimes, hmonotonic.mpr hchain⟩

/-- The chain is the one complete trail of causes, the edges are its links, and
the status is verified exactly when the trail is consistent. -/
structure Reconstructs (records : List ProvenanceRecord)
    (target : ProvenanceRecord) (reconstruction : DecisionReconstruction)
    (trail : List ProvenanceRecord) : Prop where
  follows : Trail (causeAmong records) target trail
  complete : Trail.Complete (causeAmong records) trail
  chain : reconstruction.causalChain = trail.reverse.map CausalNode.ofRecord
  edges : reconstruction.edges = trail.filterMap CausalEdge.ofRecord
  status : reconstruction.integrityStatus = .verified ↔ Consistent (· ≤ ·) trail
  instants : (∀ event ∈ trail, isUtcTimestamp event.eventTime = true ∧
      isUtcTimestamp event.receiveTime = true) →
    (reconstruction.integrityStatus = .verified ↔
      Consistent (fun first later => instantOf first ≤ instantOf later) trail)

theorem CausalWalk.Ended.status_iff {target : ProvenanceRecord}
    {walk : CausalWalk} (h : CausalWalk.Ended eventsById target walk trail) :
    checkMonotonic walk.integrityStatus walk.chainNodes.reverse = .verified ↔
      Consistent (· ≤ ·) trail := by
  rw [checkMonotonic_eq_verified, h.status, h.nodes, List.isChain_reverse,
    List.isChain_map]
  constructor
  · rintro ⟨⟨hroot, htimes⟩, hchain⟩
    exact ⟨hroot, htimes, hchain⟩
  · rintro ⟨hroot, htimes, hchain⟩
    exact ⟨⟨hroot, htimes⟩, hchain⟩

/-- Records with distinct identities build, and the reconstruction of each
ends and is exact. -/
theorem reconstruct_exact {records : List ProvenanceRecord}
    (hdistinct : (records.map ProvenanceRecord.eventId).Nodup) :
    ∃ builder, DecisionProvenanceGraphBuilder.fromRecords records =
        .ok builder ∧
      ∀ target ∈ records, ∀ configurationHash verifiedAt, ∃ reconstruction trail,
          (∀ steps ≥ records.length + 2,
            builder.reconstruct steps target.eventId configurationHash
              verifiedAt = some (.ok reconstruction)) ∧
          Reconstructs records target reconstruction trail := by
  obtain ⟨builder, hbuilder, hindexes⟩ :=
    DecisionProvenanceGraphBuilder.fromRecords_ok hdistinct
  refine ⟨builder, hbuilder, ?_⟩
  intro target htarget configurationHash verifiedAt
  have hstored := (hindexes.holds target).mpr htarget
  obtain ⟨walk, trail, hwalk, hended⟩ :=
    CausalWalk.back_start hindexes.keyed hstored (Nat.le_refl _)
  rw [hindexes.size] at hwalk
  refine ⟨DecisionProvenanceGraphBuilder.report target target.eventId
    configurationHash verifiedAt walk, trail, ?_, ?_⟩
  · intro steps hsteps
    rw [DecisionProvenanceGraphBuilder.reconstruct, hstored]
    dsimp only
    rw [CausalWalk.back_le hsteps hwalk]
    rfl
  · have hcause := hindexes.causeOf_eq
    exact
      { follows := hcause ▸ hended.follows, complete := hcause ▸ hended.complete
        chain := by
          rw [List.map_reverse, ← hended.nodes]
          rfl
        edges := hended.edges
        status := hended.status_iff
        instants := fun h => hended.status_iff.trans (consistent_instants h) }

def sampleRecords : List ProvenanceRecord :=
  [{ eventId := "event.1", eventType := "market.bar.v1", actor := "feed"
     eventTime := "2026-09-01T10:00:00Z", receiveTime := "2026-09-01T10:00:00Z"
     causationId := none, contentHash := "1" },
    { eventId := "event.2", eventType := "intent.created.v1"
      actor := "strategy", eventTime := "2026-09-01T10:00:01Z"
      receiveTime := "2026-09-01T10:00:01Z", causationId := some "event.1"
      contentHash := "2" }]

theorem reconstruct_exact_sampleRecords :
    (sampleRecords.map ProvenanceRecord.eventId).Nodup ∧
      ∃ builder, DecisionProvenanceGraphBuilder.fromRecords sampleRecords =
          .ok builder ∧
        ∀ target ∈ sampleRecords, ∃ reconstruction trail,
          builder.reconstruct 4 target.eventId "cfg" "2026-09-01T10:05:00Z" =
              some (.ok reconstruction) ∧
            Reconstructs sampleRecords target reconstruction trail := by
  have hdistinct :
      (sampleRecords.map ProvenanceRecord.eventId).Nodup := by decide
  obtain ⟨builder, hbuilder, hexact⟩ := reconstruct_exact hdistinct
  refine ⟨hdistinct, builder, hbuilder, ?_⟩
  intro target htarget
  obtain ⟨reconstruction, trail, hends, hreconstructs⟩ :=
    hexact target htarget "cfg" "2026-09-01T10:05:00Z"
  exact ⟨reconstruction, trail, hends 4 (Nat.le_refl _), hreconstructs⟩

end Follon.ControlPlane
