import Follon.Domain.Market
import Follon.Domain.Timestamps
import Follon.Foundation.Grouping
import Follon.Foundation.Periods

/-!
# The point-in-time universe

A replay's bars each belong to the universe at their time, and the periods an
instrument is in the universe do not overlap.
-/

namespace Follon.Backtest

open Foundation Domain

structure UniverseMembership where
  (instrumentId includedFrom : String)
  excludedAt : Option String
  deriving DecidableEq

namespace UniverseMembership

def validate (membership : UniverseMembership) : Result Unit := do
  validateCanonicalId "universe instrument_id" membership.instrumentId
  validateUtcTimestamp "universe included_from" membership.includedFrom
  match membership.excludedAt with
  | none => pure ()
  | some excludedAt => do
    validateUtcTimestamp "universe excluded_at" excludedAt
    refuseIf (excludedAt ≤ membership.includedFrom)
      "universe membership must have a positive interval"

def covers (membership : UniverseMembership) (eventTime : String) : Bool :=
  membership.includedFrom ≤ eventTime &&
    membership.excludedAt.all fun excludedAt => eventTime < excludedAt

end UniverseMembership

abbrev Universe : Type :=
  OrderedMap String (List UniverseMembership)

namespace Universe

def register (registered : Universe) (membership : UniverseMembership) :
    Result Universe := do
  membership.validate
  pure (OrderedMap.push registered membership.instrumentId membership)

def checkNeighbours (left right : UniverseMembership) : Result Unit :=
  match left.excludedAt with
  | none => .error ⟨"open universe membership cannot precede another interval"⟩
  | some leftEnd =>
    refuseIf (right.includedFrom < leftEnd)
      "universe membership intervals overlap"

def checkAdjacent : List UniverseMembership → Result Unit
  | left :: right :: rest => do
    checkNeighbours left right
    checkAdjacent (right :: rest)
  | _ => .ok ()

def startsBefore (left right : UniverseMembership) : Prop :=
  left.includedFrom ≤ right.includedFrom

instance : DecidableRel startsBefore :=
  fun left right =>
    inferInstanceAs (Decidable (left.includedFrom ≤ right.includedFrom))

def orderPeriods (_instrumentId : String)
    (periods : List UniverseMembership) : Result (List UniverseMembership) := do
  let ordered := periods.insertionSort startsBefore
  checkAdjacent ordered
  pure ordered

def checkBar (registered : Universe) (bar : String × Bar) : Result Unit := do
  validateUtcTimestamp "bar event_time" bar.1
  refuseIf ((registered[bar.2.instrumentId]?.any fun periods =>
      periods.any fun membership => membership.covers bar.1) = false)
    (bar.2.instrumentId ++ " was not in the point-in-time universe at " ++ bar.1)

end Universe

def validatePointInTimeUniverse (bars : List (String × Bar))
    (memberships : List UniverseMembership) : Result Unit := do
  let byInstrument ← memberships.foldlM Universe.register (∅ : Universe)
  let ordered ← OrderedMap.traverse Universe.orderPeriods byInstrument
  checkAll (Universe.checkBar ordered) bars

/-! ## Periods of a membership -/

namespace UniverseMembership

structure WellFormed (membership : UniverseMembership) : Prop where
  instrumentId : isCanonicalId membership.instrumentId = true
  includedFrom : isUtcTimestamp membership.includedFrom = true
  excludedAt : ∀ excludedAt ∈ membership.excludedAt, isUtcTimestamp excludedAt = true

def period (membership : UniverseMembership) : Period Int where
  start := instantOf membership.includedFrom
  stop := membership.excludedAt.elim ⊤ fun excludedAt =>
    (instantOf excludedAt : WithTop Int)

variable {membership : UniverseMembership}

theorem validate_eq_ok_iff {u : Unit} : membership.validate = .ok u ↔
      membership.WellFormed ∧ membership.period.moments.Nonempty := by
  rw [Period.nonempty_moments_iff]
  unfold validate Period.Proper period
  cases hend : membership.excludedAt with
  | none =>
    constructor
    · intro h
      simp only [bind_eq_ok, validateCanonicalId_eq_ok,
        validateUtcTimestamp_eq_ok, exists_const] at h
      exact ⟨⟨h.1, h.2.1, by simp [hend]⟩, WithTop.coe_lt_top _⟩
    · intro h
      simp only [bind_eq_ok, validateCanonicalId_eq_ok,
        validateUtcTimestamp_eq_ok, exists_const]
      exact ⟨h.1.instrumentId, h.1.includedFrom, rfl⟩
  | some excludedAt =>
    simp only [bind_eq_ok, validateCanonicalId_eq_ok, validateUtcTimestamp_eq_ok,
      refuseIf_eq_ok, exists_const, not_le, Option.elim_some, WithTop.coe_lt_coe]
    constructor
    · intro h
      refine ⟨⟨h.1, h.2.1, by simp [hend, h.2.2.1]⟩, ?_⟩
      exact (lt_iff_instantOf_lt h.2.1 h.2.2.1).mp h.2.2.2
    · intro h
      have hlast := h.1.excludedAt excludedAt hend
      refine ⟨h.1.instrumentId, h.1.includedFrom, hlast, ?_⟩
      exact (lt_iff_instantOf_lt h.1.includedFrom hlast).mpr h.2

theorem covers_iff (h : membership.WellFormed) {eventTime : String}
    (htime : isUtcTimestamp eventTime = true) : membership.covers eventTime = true ↔
      instantOf eventTime ∈ membership.period.moments := by
  unfold covers Period.moments period
  rw [and_eq_true, decide_eq_true_eq, Set.mem_ofPred_eq,
    le_iff_instantOf_le h.includedFrom htime]
  cases hend : membership.excludedAt with
  | none => simp
  | some excludedAt =>
    simp only [Option.all_some, decide_eq_true_eq, Option.elim_some, WithTop.coe_lt_coe,
      lt_iff_instantOf_lt htime (h.excludedAt excludedAt hend)]

end UniverseMembership

/-! ## The checks -/

namespace Universe

variable {u : Unit} {periods memberships : List UniverseMembership}

theorem checkNeighbours_eq_ok_iff {left right : UniverseMembership}
    (hleft : left.WellFormed) (hright : right.WellFormed) :
    checkNeighbours left right = .ok u ↔
      left.period.EndsBefore right.period := by
  unfold checkNeighbours Period.EndsBefore UniverseMembership.period
  cases hend : left.excludedAt with
  | none => simp
  | some leftEnd =>
    simp only [refuseIf_eq_ok, not_lt, Option.elim_some, WithTop.coe_le_coe,
      le_iff_instantOf_le (hleft.excludedAt leftEnd hend) hright.includedFrom]

theorem checkAdjacent_eq_ok_iff (h : ∀ membership ∈ periods, membership.WellFormed) :
    checkAdjacent periods = .ok u ↔
      (periods.map UniverseMembership.period).IsChain Period.EndsBefore := by
  induction periods with
  | nil => simp [checkAdjacent]
  | cons left rest ih =>
    cases rest with
    | nil => simp [checkAdjacent]
    | cons right rest =>
      rw [forall_mem_cons] at h
      rw [map_cons, map_cons, List.isChain_cons_cons, ← map_cons, ← ih h.2, checkAdjacent]
      simp only [bind_eq_ok, exists_const,
        checkNeighbours_eq_ok_iff h.1 (h.2 right mem_cons_self)]

theorem disjoint_comm_of_pairwise {periods' : List UniverseMembership}
    (hperm : periods.Perm periods') : (periods.Pairwise fun left right =>
        Disjoint left.period.moments right.period.moments) ↔
      periods'.Pairwise fun left right =>
        Disjoint left.period.moments right.period.moments :=
  hperm.pairwise_iff fun h => h.symm

variable {instrumentId : String} {ordered : Universe}

theorem exists_orderPeriods_iff (h : ∀ membership ∈ periods, membership.WellFormed)
    (hproper : ∀ membership ∈ periods, membership.period.Proper) :
    (∃ ordered, orderPeriods instrumentId periods = .ok ordered) ↔
      periods.Pairwise fun left right =>
        Disjoint left.period.moments right.period.moments := by
  have hperm := perm_insertionSort startsBefore periods
  have hsorted : (periods.insertionSort startsBefore).Pairwise startsBefore := by
    have : Std.Total startsBefore := ⟨fun _ _ => le_total _ _⟩
    have : IsTrans UniverseMembership startsBefore := ⟨fun _ _ _ => le_trans⟩
    exact pairwise_insertionSort startsBefore periods
  have hformed : ∀ membership ∈ periods.insertionSort startsBefore,
      membership.WellFormed :=
    fun membership hmem => h membership (hperm.mem_iff.mp hmem)
  rw [← disjoint_comm_of_pairwise hperm]
  unfold orderPeriods
  simp only [bind_eq_ok, checkAdjacent_eq_ok_iff hformed, exists_const]
  have hchain := @Period.isChain_endsBefore_iff Int _
    ((periods.insertionSort startsBefore).map UniverseMembership.period)
    (by
      intro period hperiod
      rw [mem_map] at hperiod
      cases hperiod with
      | intro membership hmembership =>
        rw [← hmembership.2]
        exact hproper membership (hperm.mem_iff.mp hmembership.1))
    (by
      rw [pairwise_map]
      apply hsorted.imp_of_mem
      intro left right hleft hright hle
      exact (le_iff_instantOf_le (hformed left hleft).includedFrom
        (hformed right hright).includedFrom).mp hle)
  rw [pairwise_map] at hchain
  rw [← hchain]
  constructor
  · intro hordered
    exact hordered.choose_spec.1
  · intro hends
    exact ⟨_, hends, rfl⟩

def registered (memberships : List UniverseMembership) : Universe :=
  memberships.foldl
    (fun map membership => OrderedMap.push map membership.instrumentId membership)
    ∅

theorem foldlM_register (memberships : List UniverseMembership) (start : Universe) :
    memberships.foldlM register start = (do
      checkAll UniverseMembership.validate memberships
      pure (memberships.foldl (fun map membership =>
        OrderedMap.push map membership.instrumentId membership) start)) := by
  induction memberships generalizing start with
  | nil => rfl
  | cons membership memberships ih =>
    rw [foldlM_cons, register, checkAll, bind_assoc, bind_assoc]
    congr 1
    funext u
    rw [pure_bind, ih, List.foldl_cons]

theorem foldlM_register_eq_ok_iff {result : Universe} :
    memberships.foldlM register (∅ : Universe) = .ok result ↔
      (∀ membership ∈ memberships, membership.WellFormed) ∧
        (∀ membership ∈ memberships, membership.period.moments.Nonempty) ∧
        result = registered memberships := by
  rw [foldlM_register, bind_eq_ok]
  simp only [checkAll_eq_ok, UniverseMembership.validate_eq_ok_iff, exists_const]
  constructor
  · intro h
    exact ⟨fun membership hmem => (h.1 membership hmem).1,
      fun membership hmem => (h.1 membership hmem).2,
      (Except.ok.inj h.2).symm⟩
  · intro h
    exact ⟨fun membership hmem => ⟨h.1 membership hmem, h.2.1 membership hmem⟩,
      congrArg Except.ok h.2.2.symm⟩

theorem groups_registered (memberships : List UniverseMembership) :
    OrderedMap.Groups UniverseMembership.instrumentId memberships
      (registered memberships) :=
  OrderedMap.groups_foldl UniverseMembership.instrumentId memberships

theorem exists_traverse_orderPeriods_iff
    (h : ∀ membership ∈ memberships, membership.WellFormed)
    (hproper : ∀ membership ∈ memberships, membership.period.moments.Nonempty) :
    (∃ ordered, OrderedMap.traverse orderPeriods (registered memberships) = .ok ordered) ↔
      memberships.Pairwise fun left right =>
        left.instrumentId = right.instrumentId →
          Disjoint left.period.moments right.period.moments := by
  rw [← (groups_registered memberships).pairwise_iff, OrderedMap.exists_traverse_iff]
  apply forall_congr'
  intro instrumentId
  apply forall_congr'
  intro periods
  apply imp_congr_right
  intro hperiods
  have hmem : ∀ membership ∈ periods, membership ∈ memberships := by
    intro membership hmembership
    rw [((groups_registered memberships).getElem?_eq_some.mp hperiods).2]
      at hmembership
    exact (mem_filter.mp hmembership).1
  exact exists_orderPeriods_iff
    (fun membership hmembership => h membership (hmem membership hmembership))
    fun membership hmembership => Period.nonempty_moments_iff.mp
      (hproper membership (hmem membership hmembership))

theorem mem_of_traverse (h : OrderedMap.traverse orderPeriods (registered memberships)
      = .ok ordered) {membership : UniverseMembership} :
    (∃ periods, ordered[instrumentId]? = some periods ∧ membership ∈ periods) ↔
      membership ∈ memberships ∧ membership.instrumentId = instrumentId := by
  have hordered : ∀ {periods ordered' : List UniverseMembership},
      orderPeriods instrumentId periods = .ok ordered' →
        ordered'.Perm periods := by
    intro periods ordered' horder
    unfold orderPeriods at horder
    simp only [bind_eq_ok] at horder
    obtain ⟨u, -, hsame⟩ := horder
    rw [← Except.ok.inj hsame]
    exact perm_insertionSort startsBefore periods
  constructor
  · rintro ⟨ordered', hfound, hmem⟩
    obtain ⟨periods, hperiods, horder⟩ :=
      (OrderedMap.getElem?_traverse h).mp hfound
    rw [(hordered horder).mem_iff,
      ((groups_registered memberships).getElem?_eq_some.mp hperiods).2] at hmem
    simpa using hmem
  · rintro ⟨hmem, rfl⟩
    obtain ⟨periods, hperiods, hin⟩ :=
      (groups_registered memberships).exists_group hmem
    obtain ⟨ordered', horder⟩ := OrderedMap.exists_traverse_iff.mp ⟨ordered, h⟩
      membership.instrumentId periods hperiods
    exact ⟨ordered', (OrderedMap.getElem?_traverse h).mpr ⟨periods, hperiods, horder⟩,
      (hordered horder).mem_iff.mpr hin⟩

theorem checkBar_eq_ok_iff (hformed : ∀ membership ∈ memberships, membership.WellFormed)
    (h : OrderedMap.traverse orderPeriods (registered memberships)
      = .ok ordered) {bar : String × Bar} : ordered.checkBar bar = .ok u ↔
      isUtcTimestamp bar.1 = true ∧ ∃ membership ∈ memberships,
        membership.instrumentId = bar.2.instrumentId ∧
          instantOf bar.1 ∈ membership.period.moments := by
  unfold checkBar
  simp only [bind_eq_ok, validateUtcTimestamp_eq_ok, refuseIf_eq_ok,
    not_eq_false, exists_const, Option.any_eq_true, List.any_eq_true]
  apply and_congr_right
  intro htime
  constructor
  · rintro ⟨periods, hperiods, membership, hmem, hcovers⟩
    have hin := (mem_of_traverse h).mp ⟨periods, hperiods, hmem⟩
    exact ⟨membership, hin.1, hin.2,
      (UniverseMembership.covers_iff (hformed membership hin.1) htime).mp hcovers⟩
  · rintro ⟨membership, hmem, hinstrument, hmoment⟩
    obtain ⟨periods, hperiods, hin⟩ :=
      (mem_of_traverse h).mpr ⟨hmem, hinstrument⟩
    exact ⟨periods, hperiods, membership, hin,
      (UniverseMembership.covers_iff (hformed membership hmem) htime).mpr hmoment⟩

end Universe

/-- The universe check passes exactly the well-formed memberships whose
periods are not empty and do not overlap, and the bars they cover. -/
theorem validatePointInTimeUniverse_eq_ok_iff (bars : List (String × Bar))
    (memberships : List UniverseMembership) :
    validatePointInTimeUniverse bars memberships = .ok () ↔
      ((∀ membership ∈ memberships, membership.WellFormed) ∧
        ∀ bar ∈ bars, isUtcTimestamp bar.1 = true) ∧
      (∀ membership ∈ memberships, membership.period.moments.Nonempty) ∧
      (memberships.Pairwise fun left right =>
        left.instrumentId = right.instrumentId →
          Disjoint left.period.moments right.period.moments) ∧
      ∀ bar ∈ bars, ∃ membership ∈ memberships,
        membership.instrumentId = bar.2.instrumentId ∧
          instantOf bar.1 ∈ membership.period.moments := by
  unfold validatePointInTimeUniverse
  simp only [bind_eq_ok, Universe.foldlM_register_eq_ok_iff, checkAll_eq_ok]
  constructor
  · rintro ⟨byInstrument, ⟨hformed, hproper, rfl⟩, ordered, hordered, hbars⟩
    have hbars' := fun bar hbar =>
      (Universe.checkBar_eq_ok_iff hformed hordered).mp (hbars bar hbar)
    exact ⟨⟨hformed, fun bar hbar => (hbars' bar hbar).1⟩, hproper,
      (Universe.exists_traverse_orderPeriods_iff hformed hproper).mp
        ⟨ordered, hordered⟩,
      fun bar hbar => (hbars' bar hbar).2⟩
  · rintro ⟨⟨hformed, htimes⟩, hproper, hdisjoint, hcovered⟩
    obtain ⟨ordered, hordered⟩ :=
      (Universe.exists_traverse_orderPeriods_iff hformed hproper).mpr hdisjoint
    refine ⟨_, ⟨hformed, hproper, rfl⟩, ordered, hordered, ?_⟩
    intro bar hbar
    exact (Universe.checkBar_eq_ok_iff hformed hordered).mpr
      ⟨htimes bar hbar, hcovered bar hbar⟩

end Follon.Backtest
