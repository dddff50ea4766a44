import Follon.Operations.JournalChain
import Follon.Operations.Parameters

/-!
# What an approval binds

The lines under an approval hash determine the revision's lineage and every
parameter but its approval.  The order of the parameters does not enter them,
and a difference turns the one revision into the other.
-/

namespace Follon.Operations

open Foundation Domain

/-! ## What the checks accept -/

def ParameterValue.subject (value : ParameterValue) :
    String × Decimal × Decimal × Decimal × ParameterControl :=
  (value.parameterId, value.value, value.minimum, value.maximum, value.control)

namespace ParameterSet

structure ValidLineage (set : ParameterSet) : Prop where
  setId : isCanonicalId set.parameterSetId = true
  revision : isCanonicalId set.revision = true
  previous : ∀ previous ∈ set.previousRevision,
    isCanonicalId previous = true ∧ previous ≠ set.revision
  fingerprint : ∀ fingerprint ∈ set.previousParameterSetFingerprint,
    isDigest fingerprint = true
  both : set.previousRevision.isSome = set.previousParameterSetFingerprint.isSome
  values : set.values ≠ []

structure ValidSubjects (set : ParameterSet) : Prop where
  each : ∀ value ∈ set.values,
    isCanonicalId value.parameterId = true ∧ ¬value.OutsideBounds
  distinct : (set.values.map ParameterValue.parameterId).Nodup

theorem ne_empty_of_isCanonicalId {value : String}
    (h : isCanonicalId value = true) : value ≠ "" := by
  rintro rfl
  contradiction

theorem ne_empty_of_isDigest {value : String} (h : isDigest value = true) :
    value ≠ "" := by
  rintro rfl
  contradiction

variable {set : ParameterSet}

variable {u : Unit} {hash : String}

theorem validateLineage_eq_ok {message : String} :
    set.validateLineage message = .ok u ↔ set.ValidLineage := by
  simp only [validateLineage, bind_eq_ok, validateCanonicalId_eq_ok,
    checkAll_eq_ok, refuseIf_eq_ok, validateSha256, Option.mem_toList,
    exists_const, not_or, ne_eq, not_not, not_eq_true,
    Option.any_eq_false, decide_eq_false_iff_not, not_eq_false]
  constructor
  · rintro ⟨hid, hrevision, hprevious, ⟨-, hlineage, hboth, hvalues⟩, hfingerprint⟩
    exact ⟨hid, hrevision, fun previous h =>
      ⟨hprevious previous h, (hlineage previous h).2⟩,
      hfingerprint, hboth, hvalues⟩
  · rintro ⟨hid, hrevision, hprevious, hfingerprint, hboth, hvalues⟩
    refine ⟨hid, hrevision, fun previous h => (hprevious previous h).1,
      ⟨ne_empty_of_isCanonicalId hrevision, ?_, hboth, hvalues⟩,
      hfingerprint⟩
    intro previous h
    exact ⟨ne_empty_of_isCanonicalId (hprevious previous h).1, (hprevious previous h).2⟩

theorem sortedValues_perm (set : ParameterSet) : set.sortedValues.Perm set.values :=
  perm_insertionSort _ _

theorem exists_foldlM_checkSubject :
    (∃ ids, set.sortedValues.foldlM checkSubject ∅ = .ok ids) ↔
      set.ValidSubjects := by
  rw [@KeyedRows.exists_foldlM_distinct _ _ ParameterValue.parameterId _ _ _ _
    (fun value => isCanonicalId value.parameterId = true ∧
      ¬value.OutsideBounds)]
  · have hperm := set.sortedValues_perm
    rw [(hperm.map _).nodup_iff]
    simp only [hperm.mem_iff, Std.ExtTreeSet.not_mem_empty, not_false_eq_true, and_true]
    exact ⟨fun h => ⟨h.1, h.2⟩, fun h => ⟨h.1, h.2⟩⟩
  · intro seen value seen'
    simp only [checkSubject, bind_eq_ok, validateCanonicalId_eq_ok, refuseIf_eq_ok,
      exists_const, not_or, pure_eq_ok]
    constructor
    · rintro ⟨hid, ⟨hnew, hbounds⟩, rfl⟩
      exact ⟨⟨⟨hid, hbounds⟩, hnew⟩, rfl⟩
    · rintro ⟨⟨⟨hid, hbounds⟩, hnew⟩, rfl⟩
      exact ⟨hid, ⟨hnew, hbounds⟩, rfl⟩

def subjectText (set : ParameterSet) : String :=
  labelledLines (set.lineageRows ++ set.sortedValues.flatMap ParameterValue.subjectRows)

theorem approvalSubjectFingerprint_eq_ok [ContentHash] :
    set.approvalSubjectFingerprint = .ok hash ↔ (set.ValidLineage ∧ set.ValidSubjects) ∧
        hash = sha256Hex set.subjectText := by
  simp only [approvalSubjectFingerprint, bind_eq_ok, validateLineage_eq_ok,
    exists_const, pure_eq_ok]
  rw [← exists_foldlM_checkSubject]
  constructor
  · rintro ⟨hlineage, ids, hids, hhash⟩
    exact ⟨⟨hlineage, ids, hids⟩, hhash.symm⟩
  · rintro ⟨⟨hlineage, ids, hids⟩, hhash⟩
    exact ⟨hlineage, ids, hids, hhash.symm⟩

theorem exists_foldlM_checkValue {values : List ParameterValue} :
    (∃ ids, values.foldlM (checkValue hash) ∅ = .ok ids) ↔
      (∀ value ∈ values, isCanonicalId value.parameterId = true ∧
        ¬value.OutsideBounds ∧ validateControl hash value = .ok ()) ∧
        (values.map ParameterValue.parameterId).Nodup := by
  rw [@KeyedRows.exists_foldlM_distinct _ _ ParameterValue.parameterId _ _ _ _
    (fun value => isCanonicalId value.parameterId = true ∧
      ¬value.OutsideBounds ∧ validateControl hash value = .ok ())]
  · simp only [Std.ExtTreeSet.not_mem_empty, not_false_eq_true, and_true]
  · intro seen value seen'
    simp only [checkValue, bind_eq_ok, validateCanonicalId_eq_ok, refuseIf_eq_ok,
      exists_const, pure_eq_ok, exists_and_right, exists_unit_eq_ok]
    constructor
    · rintro ⟨hid, hnew, hbounds, hcontrol, rfl⟩
      exact ⟨⟨⟨hid, hbounds, hcontrol⟩, hnew⟩, rfl⟩
    · rintro ⟨⟨⟨hid, hbounds, hcontrol⟩, hnew⟩, rfl⟩
      exact ⟨hid, hnew, hbounds, hcontrol, rfl⟩

theorem validate_eq_ok [ContentHash] : set.validate = .ok u ↔
      (set.ValidLineage ∧ set.ValidSubjects) ∧ ∀ value ∈ set.values,
        validateControl (sha256Hex set.subjectText) value = .ok () := by
  simp only [validate, bind_eq_ok, validateLineage_eq_ok,
    approvalSubjectFingerprint_eq_ok, exists_const, pure, Except.pure, and_true]
  constructor
  · rintro ⟨hlineage, hash, ⟨⟨-, hsubjects⟩, rfl⟩, hfold⟩
    have hvalues := (exists_foldlM_checkValue.mp hfold).1
    exact ⟨⟨hlineage, hsubjects⟩, fun value h => (hvalues value h).2.2⟩
  · rintro ⟨⟨hlineage, hsubjects⟩, hcontrols⟩
    refine ⟨hlineage, _, ⟨⟨hlineage, hsubjects⟩, rfl⟩,
      exists_foldlM_checkValue.mpr ⟨?_, hsubjects.distinct⟩⟩
    intro value h
    exact ⟨(hsubjects.each value h).1, (hsubjects.each value h).2, hcontrols value h⟩

theorem approval_subjectHash [ContentHash] (h : set.validate = .ok ())
    {value : ParameterValue} (hvalue : value ∈ set.values)
    {approval : ParameterApproval} (happroval : value.approval = some approval) :
    set.approvalSubjectFingerprint = .ok approval.approvalSubjectHash := by
  obtain ⟨hvalid, hcontrols⟩ := validate_eq_ok.mp h
  have hcontrol := hcontrols value hvalue
  rw [approvalSubjectFingerprint_eq_ok]
  refine ⟨hvalid, ?_⟩
  unfold validateControl at hcontrol
  rw [happroval] at hcontrol
  cases hkind : value.control with
  | standard =>
    rw [hkind] at hcontrol
    contradiction
  | twoPerson =>
    rw [hkind] at hcontrol
    simp only [validateApproval, bind_eq_ok, refuseIf_eq_ok, ne_eq,
      not_not] at hcontrol
    obtain ⟨_, -, _, -, _, -, _, -, _, -, _, -, _, -, _, -, hsame⟩ :=
      hcontrol
    exact hsame

end ParameterSet

/-! ## Lines and subjects -/

theorem oneLine_display (d : Decimal) : OneLine d.display := by
  intro hmem
  rcases mem_display hmem with h | h | h <;> contradiction

theorem plainRow {label value : String} (hlabel : '=' ∉ label.toList)
    (hvalue : OneLine value) : PlainRow (label, value) :=
  ⟨hlabel, hvalue⟩

theorem oneLine_empty : OneLine "" := by
  unfold OneLine
  decide

variable {value : ParameterValue}

theorem plainRow_subjectRows (h : isCanonicalId value.parameterId = true) :
    ∀ row ∈ value.subjectRows, PlainRow row := by
  have hcontrol : OneLine value.control.asStr := by
    unfold OneLine
    cases value.control <;> decide
  intro row hrow
  simp only [ParameterValue.subjectRows, mem_cons, not_mem_nil,
    or_false] at hrow
  rcases hrow with rfl | rfl | rfl | rfl | rfl
  · exact plainRow (by decide) (oneLine_of_isCanonicalId h)
  · exact plainRow (by decide) (oneLine_display _)
  · exact plainRow (by decide) (oneLine_display _)
  · exact plainRow (by decide) (oneLine_display _)
  · exact plainRow (by decide) (hcontrol)

variable {value' : ParameterValue}

theorem subject_of_subjectRows (h : value.subjectRows = value'.subjectRows)
    : value.subject = value'.subject := by
  simp only [ParameterValue.subjectRows, List.cons.injEq, Prod.mk.injEq,
    true_and, and_true] at h
  obtain ⟨hid, hvalue, hminimum, hmaximum, hcontrol⟩ := h
  have hsame : value.control = value'.control := by
    revert hcontrol
    cases value.control <;> cases value'.control <;> decide
  simp only [ParameterValue.subject, hid, display_injective hvalue,
    display_injective hminimum, display_injective hmaximum, hsame]

theorem subjectRows_of_subject (h : value.subject = value'.subject)
    : value.subjectRows = value'.subjectRows := by
  simp only [ParameterValue.subject, Prod.mk.injEq] at h
  obtain ⟨hid, hvalue, hminimum, hmaximum, hcontrol⟩ := h
  simp only [ParameterValue.subjectRows, hid, hvalue, hminimum, hmaximum, hcontrol]

theorem flatMap_subjectRows_inj {values values' : List ParameterValue} :
    values.flatMap ParameterValue.subjectRows =
        values'.flatMap ParameterValue.subjectRows ↔
      values.map ParameterValue.subject =
        values'.map ParameterValue.subject := by
  induction values generalizing values' with
  | nil =>
    cases values' with
    | nil => simp
    | cons value' values' => simp [ParameterValue.subjectRows]
  | cons value values ih =>
    cases values' with
    | nil => simp [ParameterValue.subjectRows]
    | cons value' values' =>
      rw [flatMap_cons, flatMap_cons, map_cons, map_cons, List.cons.injEq, ← ih]
      constructor
      · intro h
        obtain ⟨hrows, hrest⟩ := List.append_inj h rfl
        exact ⟨subject_of_subjectRows hrows, hrest⟩
      · rintro ⟨hsubject, hrest⟩
        rw [subjectRows_of_subject hsubject, hrest]

namespace ParameterSet

/-- The same revision up to the order and the approvals of its parameters. -/
structure SameSubject (set other : ParameterSet) : Prop where
  parameterSetId : set.parameterSetId = other.parameterSetId
  revision : set.revision = other.revision
  previousRevision : set.previousRevision = other.previousRevision
  previousFingerprint : set.previousParameterSetFingerprint =
    other.previousParameterSetFingerprint
  values : (set.values.map ParameterValue.subject).Perm
    (other.values.map ParameterValue.subject)

theorem getD_empty_inj {left right : Option String}
    (hleft : ∀ value ∈ left, value ≠ "") (hright : ∀ value ∈ right, value ≠ "")
    (h : left.getD "" = right.getD "") : left = right := by
  cases left with
  | none =>
    cases right with
    | none => rfl
    | some value => exact absurd h.symm (hright value rfl)
  | some value =>
    cases right with
    | none => exact absurd h (hleft value rfl)
    | some value' => exact congrArg some h

variable {set other : ParameterSet} {hash : String}

theorem plainRow_rows (hlineage : set.ValidLineage)
    (hsubjects : set.ValidSubjects) : ∀ row ∈ set.lineageRows ++
      set.sortedValues.flatMap ParameterValue.subjectRows, PlainRow row := by
  intro row hrow
  rcases mem_append.mp hrow with hrow | hrow
  · simp only [lineageRows, mem_cons, not_mem_nil, or_false] at hrow
    rcases hrow with rfl | rfl | rfl | rfl
    · exact plainRow (by decide) (oneLine_of_isCanonicalId hlineage.setId)
    · exact plainRow (by decide) (oneLine_of_isCanonicalId hlineage.revision)
    · refine plainRow (by decide) ?_
      cases hprevious : set.previousRevision with
      | none => exact oneLine_empty
      | some previous =>
        exact oneLine_of_isCanonicalId
          (hlineage.previous previous hprevious).1
    · refine plainRow (by decide) ?_
      cases hfingerprint : set.previousParameterSetFingerprint with
      | none => exact oneLine_empty
      | some fingerprint =>
        exact oneLine_of_isDigest
          (hlineage.fingerprint fingerprint hfingerprint)
  · obtain ⟨value, hvalue, hrow⟩ := List.mem_flatMap.mp hrow
    exact plainRow_subjectRows
      (hsubjects.each value (set.sortedValues_perm.mem_iff.mp hvalue)).1
      row hrow

theorem sameSubject_of_subjectText (hset : set.ValidLineage ∧ set.ValidSubjects)
    (hother : other.ValidLineage ∧ other.ValidSubjects)
    (h : set.subjectText = other.subjectText) : set.SameSubject other := by
  have hrows := labelledLines_injective (plainRow_rows hset.1 hset.2)
    (plainRow_rows hother.1 hother.2) h
  obtain ⟨hlineage, hvalues⟩ := List.append_inj hrows rfl
  simp only [lineageRows, List.cons.injEq, Prod.mk.injEq, true_and,
    and_true] at hlineage
  obtain ⟨hid, hrevision, hprevious, hfingerprint⟩ := hlineage
  refine ⟨hid, hrevision, getD_empty_inj ?_ ?_ hprevious,
    getD_empty_inj ?_ ?_ hfingerprint, ?_⟩
  · exact fun value h => ne_empty_of_isCanonicalId (hset.1.previous value h).1
  · exact fun value h =>
      ne_empty_of_isCanonicalId (hother.1.previous value h).1
  · exact fun value h => ne_empty_of_isDigest (hset.1.fingerprint value h)
  · exact fun value h => ne_empty_of_isDigest (hother.1.fingerprint value h)
  · have hsorted := flatMap_subjectRows_inj.mp hvalues
    exact ((set.sortedValues_perm.map _).symm.trans
      (List.Perm.of_eq hsorted)).trans (other.sortedValues_perm.map _)

theorem SameSubject.subjectText (h : set.SameSubject other)
    (hother : other.ValidSubjects) : set.subjectText = other.subjectText := by
  have hsorted : set.sortedValues.map ParameterValue.subject =
      other.sortedValues.map ParameterValue.subject := by
    have hkeys : ∀ set : ParameterSet,
        set.sortedValues.map ParameterValue.subject =
          (set.values.map ParameterValue.subject).insertionSort
            fun left right => left.1 ≤ right.1 := by
      intro set
      exact List.map_insertionSort _ _ ParameterValue.subject set.values
        fun _ _ _ _ => Iff.rfl
    rw [hkeys, hkeys]
    apply KeyedRows.insertionSort_perm _ h.values
    rw [map_map]
    exact hother.distinct
  unfold ParameterSet.subjectText lineageRows
  rw [h.parameterSetId, h.revision, h.previousRevision,
    h.previousFingerprint, flatMap_subjectRows_inj.mpr hsorted]

theorem SameSubject.valid (h : set.SameSubject other)
    (hset : set.ValidLineage ∧ set.ValidSubjects) :
    other.ValidLineage ∧ other.ValidSubjects := by
  obtain ⟨hlineage, hsubjects⟩ := hset
  have hids : ∀ set : ParameterSet, set.values.map ParameterValue.parameterId =
      (set.values.map ParameterValue.subject).map Prod.fst := by
    intro set
    rw [map_map]
    rfl
  refine ⟨⟨?_, ?_, ?_, ?_, ?_, ?_⟩, ?_, ?_⟩
  · exact h.parameterSetId ▸ hlineage.setId
  · exact h.revision ▸ hlineage.revision
  · rw [← h.previousRevision, ← h.revision]
    exact hlineage.previous
  · rw [← h.previousFingerprint]
    exact hlineage.fingerprint
  · rw [← h.previousRevision, ← h.previousFingerprint]
    exact hlineage.both
  · intro hnone
    have hperm := h.values
    rw [hnone, map_nil] at hperm
    exact hlineage.values (List.map_eq_nil_iff.mp hperm.eq_nil)
  · intro value hvalue
    obtain ⟨value', hvalue', hsame⟩ := mem_map.mp
      (h.values.mem_iff.mpr (mem_map_of_mem hvalue))
    obtain ⟨hid, hbounds⟩ := hsubjects.each value' hvalue'
    simp only [ParameterValue.subject, Prod.mk.injEq] at hsame
    obtain ⟨hid', hvalue', hminimum, hmaximum, -⟩ := hsame
    rw [ParameterValue.OutsideBounds, hvalue', hminimum, hmaximum] at hbounds
    exact ⟨hid' ▸ hid, hbounds⟩
  · rw [hids, (h.values.map Prod.fst).symm.nodup_iff, ← hids]
    exact hsubjects.distinct

/-! ## Two revisions -/

def NoCollision [ContentHash] (set other : ParameterSet) : Prop :=
  sha256Hex set.subjectText = sha256Hex other.subjectText →
    set.subjectText = other.subjectText

theorem approvalSubjectFingerprint_eq_iff [ContentHash] {hash' : String}
    (hset : set.approvalSubjectFingerprint = .ok hash)
    (hother : other.approvalSubjectFingerprint = .ok hash')
    (hcollision : NoCollision set other) : hash = hash' ↔ set.SameSubject other := by
  obtain ⟨hvalid, rfl⟩ := approvalSubjectFingerprint_eq_ok.mp hset
  obtain ⟨hvalid', rfl⟩ := approvalSubjectFingerprint_eq_ok.mp hother
  constructor
  · exact fun h => sameSubject_of_subjectText hvalid hvalid' (hcollision h)
  · exact fun h => congrArg sha256Hex (h.subjectText hvalid'.2)

theorem sameSubject_of_approval [ContentHash] (hset : set.validate = .ok ())
    (hother : other.validate = .ok ()) {value value' : ParameterValue}
    (hvalue : value ∈ set.values) (hvalue' : value' ∈ other.values)
    {approval : ParameterApproval} (happroval : value.approval = some approval)
    (happroval' : value'.approval = some approval)
    (hcollision : NoCollision set other) : set.SameSubject other :=
  (approvalSubjectFingerprint_eq_iff (approval_subjectHash hset hvalue happroval)
    (approval_subjectHash hother hvalue' happroval') hcollision).mp rfl

/-! ## The order of the parameters -/

def Reorders (set other : ParameterSet) : Prop :=
  ∃ values, values.Perm set.values ∧ other = { set with values }

theorem Reorders.symm (h : Reorders set other) : Reorders other set := by
  obtain ⟨values, hperm, rfl⟩ := h
  exact ⟨set.values, hperm.symm, rfl⟩

theorem Reorders.sameSubject (h : Reorders set other) : set.SameSubject other := by
  obtain ⟨values, hperm, rfl⟩ := h
  exact ⟨rfl, rfl, rfl, rfl, (hperm.map _).symm⟩

theorem Reorders.approvalSubjectFingerprint [ContentHash]
    (h : Reorders set other) (hset : set.approvalSubjectFingerprint = .ok hash) :
    other.approvalSubjectFingerprint = .ok hash := by
  obtain ⟨hvalid, rfl⟩ := approvalSubjectFingerprint_eq_ok.mp hset
  have hvalid' := h.sameSubject.valid hvalid
  exact approvalSubjectFingerprint_eq_ok.mpr
    ⟨hvalid', congrArg sha256Hex (h.sameSubject.subjectText hvalid'.2)⟩

theorem Reorders.fingerprint [ContentHash] (h : Reorders set other)
    (hset : set.fingerprint = .ok hash) : other.fingerprint = .ok hash := by
  simp only [ParameterSet.fingerprint, bind_eq_ok, pure_eq_ok] at hset ⊢
  obtain ⟨_, hvalidate, rfl⟩ := hset
  obtain ⟨hvalid, hcontrols⟩ := validate_eq_ok.mp hvalidate
  have hvalid' := h.sameSubject.valid hvalid
  refine ⟨(), validate_eq_ok.mpr ⟨hvalid', ?_⟩, ?_⟩
  · rw [← h.sameSubject.subjectText hvalid'.2]
    obtain ⟨values, hperm, rfl⟩ := h
    exact fun value hvalue => hcontrols value (hperm.mem_iff.mp hvalue)
  · obtain ⟨values, hperm, rfl⟩ := h
    have hsorted : sortedValues { set with values } = set.sortedValues :=
      KeyedRows.insertionSort_perm hvalid.2.distinct hperm
    rw [hsorted]
    rfl

end ParameterSet

/-! ## Differences -/

def ParameterChange.apply (valuesById : ValuesById)
    (change : ParameterChange) : ValuesById :=
  match change.kind, change.after with
  | .removed, _ => valuesById.erase change.parameterId
  | _, some value => valuesById.insert change.parameterId value
  | _, none => valuesById

namespace ParameterSet

theorem foldl_apply_getElem? (previousById currentById : ValuesById)
    (ids : List String) (valuesById : ValuesById) (key : String) :
    ((ids.filterMap (ParameterChange.between previousById currentById)).foldl
        ParameterChange.apply valuesById)[key]? =
      if key ∈ ids ∧ previousById[key]? ≠ currentById[key]? then
        currentById[key]?
      else
        valuesById[key]? := by
  induction ids generalizing valuesById with
  | nil => simp
  | cons id ids ih =>
    have hstep : (((ParameterChange.between previousById currentById
        id).toList).foldl ParameterChange.apply valuesById)[key]? =
          if key = id ∧ previousById[key]? ≠ currentById[key]? then
            currentById[key]?
          else
            valuesById[key]? := by
      by_cases hkey : key = id
      · subst hkey
        unfold ParameterChange.between
        cases hbefore : previousById[key]? with
        | none =>
          cases hafter : currentById[key]? with
          | none => simp
          | some new => simp [ParameterChange.apply]
        | some old =>
          cases hafter : currentById[key]? with
          | none => simp [ParameterChange.apply]
          | some new =>
            by_cases hsame : old = new
            · simp [hsame]
            · simp [ParameterChange.apply, hsame]
      · have hother : ¬id = key := fun h => hkey h.symm
        unfold ParameterChange.between
        cases previousById[id]? with
        | none =>
          cases currentById[id]? with
          | none => simp [hkey]
          | some new =>
            simp [hkey, hother, ParameterChange.apply, getElem?_insert]
        | some old =>
          cases currentById[id]? with
          | none =>
            simp [hkey, hother, ParameterChange.apply, getElem?_erase]
          | some new =>
            by_cases hsame : old = new
            · simp [hkey, hsame]
            · simp [hkey, hother, hsame, ParameterChange.apply, getElem?_insert]
    have hsplit : (id :: ids).filterMap
        (ParameterChange.between previousById currentById) =
          (ParameterChange.between previousById currentById id).toList ++ ids.filterMap
              (ParameterChange.between previousById currentById) := by
      cases hchange : ParameterChange.between previousById currentById id with
      | none =>
        rw [List.filterMap_cons_none hchange]
        rfl
      | some change =>
        rw [List.filterMap_cons_some hchange]
        rfl
    rw [hsplit, List.foldl_append, ih, hstep]
    simp only [mem_cons]
    by_cases hids : key ∈ ids
    · by_cases hchanged : previousById[key]? = currentById[key]?
      · simp [hids, hchanged]
      · simp [hids, hchanged]
    · simp [hids]

theorem foldl_apply_parameterIds (previousById currentById : ValuesById) :
    ((parameterIds previousById currentById).toList.filterMap
        (ParameterChange.between previousById currentById)).foldl
      ParameterChange.apply previousById = currentById := by
  apply ext_getElem?
  intro key
  rw [foldl_apply_getElem?]
  split
  · rfl
  · next hkey =>
      by_contra hchanged
      apply hkey
      refine ⟨?_, hchanged⟩
      rw [Std.ExtTreeSet.mem_toList, parameterIds, Std.ExtTreeSet.mem_ofList,
        List.contains_iff_mem, mem_append, Std.ExtTreeMap.mem_keys,
        Std.ExtTreeMap.mem_keys, mem_iff_isSome_getElem?, mem_iff_isSome_getElem?]
      cases hafter : currentById[key]? with
      | some new => exact .inl rfl
      | none =>
        cases hbefore : previousById[key]? with
        | some old => exact .inr rfl
        | none => exact absurd (hbefore.trans hafter.symm) hchanged

variable {set : ParameterSet}

theorem valuesById_getElem? (h : set.ValidSubjects) (value : ParameterValue) :
    set.valuesById[value.parameterId]? = some value ↔ value ∈ set.values := by
  rw [valuesById, KeyedRows.toMap_getElem? h.distinct, Option.map_id,
    id, KeyedRows.find?_eq_some h.distinct]
  exact and_iff_left rfl

theorem diffFrom_applies [ContentHash] {previous : ParameterSet}
    {changes : List ParameterChange} (h : set.diffFrom previous = .ok changes) :
    changes.foldl ParameterChange.apply previous.valuesById = set.valuesById ∧
      ∀ value, set.valuesById[value.parameterId]? = some value ↔
        value ∈ set.values := by
  simp only [diffFrom, bind_eq_ok, pure_eq_ok] at h
  obtain ⟨_, hvalidate, _, -, _, -, _, -, _, -, _, -, _, -, rfl⟩ := h
  exact ⟨foldl_apply_parameterIds _ _,
    valuesById_getElem? (validate_eq_ok.mp hvalidate).1.2⟩

end ParameterSet

/-! ## Approvals bind one revision -/

namespace ParameterSample

@[reducible] def contentHash : ContentHash :=
  ⟨fun bytes =>
    if bytes.length < 230 then
      "0000000000000000000000000000000000000000000000000000000000000000"
    else
      "1111111111111111111111111111111111111111111111111111111111111111"⟩

attribute [local instance] contentHash

def parameter (value : Decimal) : ParameterValue where
  parameterId := "speed"
  value := value
  minimum := .zero
  maximum := ⟨10, by decide, by decide⟩
  control := .standard
  approval := none

def first : ParameterSet where
  parameterSetId := "set-1"
  revision := "r1"
  previousRevision := none
  previousParameterSetFingerprint := none
  values := [parameter .ulp]

def second : ParameterSet where
  parameterSetId := "set-1"
  revision := "r2"
  previousRevision := some "r1"
  previousParameterSetFingerprint := some
    "0000000000000000000000000000000000000000000000000000000000000000"
  values := [parameter .twoUlps]

theorem noCollision : first.NoCollision second := by
  unfold ParameterSet.NoCollision
  decide +kernel

theorem first_ne_second : ¬first.SameSubject second := by
  intro h
  exact absurd h.revision (by decide)

end ParameterSample

end Follon.Operations
