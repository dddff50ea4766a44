import Follon.Foundation.KeyedRows
import Follon.Operations.Journal

/-!
# Parameter revisions

A revision of bounded parameters.  What a two-person approval binds is a hash
over labelled lines: the lineage of the revision, then five lines a parameter
in the order of their identities.
-/

namespace Follon.Operations

open Foundation Domain

inductive ParameterControl
  | standard
  | twoPerson
  deriving DecidableEq

def ParameterControl.asStr : ParameterControl → String
  | .standard => "STANDARD"
  | .twoPerson => "TWO_PERSON"

structure ParameterApproval where
  (approvalId requestedBy approvedBy approvedAt approvalSubjectHash : String)
  (authorizationPolicyHash approvalEvidenceHash : String)
  deriving DecidableEq

structure ParameterValue where
  parameterId : String
  (value minimum maximum : Decimal)
  control : ParameterControl
  approval : Option ParameterApproval
  deriving DecidableEq

structure ParameterSet where
  (parameterSetId revision : String)
  (previousRevision previousParameterSetFingerprint : Option String)
  values : List ParameterValue

/-! ## Lines -/

namespace ParameterValue

def subjectRows (value : ParameterValue) : List (String × String) :=
  [("id", value.parameterId), ("value", value.value.display),
    ("minimum", value.minimum.display), ("maximum", value.maximum.display),
    ("control", value.control.asStr)]

def OutsideBounds (value : ParameterValue) : Prop :=
  value.maximum < value.minimum ∨ value.value < value.minimum ∨
    value.maximum < value.value

instance (value : ParameterValue) : Decidable value.OutsideBounds :=
  inferInstanceAs (Decidable (_ ∨ _ ∨ _))

end ParameterValue

def ParameterApproval.rows (approval : ParameterApproval) : List (String × String) :=
  [("approval_id", approval.approvalId), ("requested_by", approval.requestedBy),
    ("approved_by", approval.approvedBy),
    ("approved_at", approval.approvedAt),
    ("approval_subject_hash", approval.approvalSubjectHash),
    ("authorization_policy_hash", approval.authorizationPolicyHash),
    ("approval_evidence_hash", approval.approvalEvidenceHash)]

def ParameterValue.rows (value : ParameterValue) : List (String × String) :=
  value.subjectRows ++ (value.approval.map ParameterApproval.rows).getD []

namespace ParameterSet

def lineageRows (set : ParameterSet) : List (String × String) :=
  [("parameter_set_id", set.parameterSetId), ("revision", set.revision),
    ("previous_revision", set.previousRevision.getD ""),
    ("previous_parameter_set_fingerprint", set.previousParameterSetFingerprint.getD "")]

/-- `values.sort_by(|left, right| left.parameter_id.cmp(&right.parameter_id))` -/
def sortedValues (set : ParameterSet) : List ParameterValue :=
  set.values.insertionSort fun left right =>
    left.parameterId ≤ right.parameterId

/-! ## Checks -/

/-- The checks `validate` and `approval_subject_fingerprint` begin with; they
differ in one text. -/
def validateLineage (message : String) (set : ParameterSet) : Result Unit := do
  validateCanonicalId "parameter_set_id" set.parameterSetId
  validateCanonicalId "parameter revision" set.revision
  checkAll (validateCanonicalId "parameter previous_revision")
    set.previousRevision.toList
  refuseIf (set.revision = "" ∨ set.previousRevision.any
        (fun previous => previous = "" ∨ previous = set.revision) ∨
      set.previousRevision.isSome ≠ set.previousParameterSetFingerprint.isSome ∨
      set.values = [])
    message
  checkAll (validateSha256 "parameter previous_parameter_set_fingerprint")
    set.previousParameterSetFingerprint.toList

def checkSubject (ids : OrderedSet String) (value : ParameterValue) :
    Result (OrderedSet String) := do
  validateCanonicalId "parameter_id" value.parameterId
  refuseIf (value.parameterId ∈ ids ∨ value.OutsideBounds)
    "parameter approval subject has duplicate IDs or invalid bounds"
  pure (ids.insert value.parameterId)

def approvalSubjectFingerprint [ContentHash] (set : ParameterSet) : Result String := do
  set.validateLineage
    ("parameter approval subject needs a valid revision lineage and at " ++
      "least one value")
  let _ ← set.sortedValues.foldlM checkSubject ∅
  pure (sha256Hex (labelledLines (set.lineageRows ++
      set.sortedValues.flatMap ParameterValue.subjectRows)))

def validateApproval (approvalSubjectHash : String)
    (approval : ParameterApproval) : Result Unit := do
  validateCanonicalId "parameter approval_id" approval.approvalId
  validateCanonicalId "parameter requester" approval.requestedBy
  validateCanonicalId "parameter approver" approval.approvedBy
  validateUtcTimestamp "parameter approved_at" approval.approvedAt
  validateSha256 "parameter approval_subject_hash"
    approval.approvalSubjectHash
  validateSha256 "parameter authorization_policy_hash"
    approval.authorizationPolicyHash
  validateSha256 "parameter approval_evidence_hash"
    approval.approvalEvidenceHash
  refuseIf (approval.requestedBy = approval.approvedBy)
    "two-person parameter approval requires different people"
  refuseIf (approval.approvalSubjectHash ≠ approvalSubjectHash)
    ("two-person approval is not bound to this exact parameter revision: " ++
      "expected " ++ approvalSubjectHash)

def validateControl (approvalSubjectHash : String) (value : ParameterValue) :
    Result Unit :=
  match value.control, value.approval with
  | .standard, none => .ok ()
  | .standard, some _ =>
    .error ⟨"standard parameter " ++ value.parameterId ++ " must not carry an approval"⟩
  | .twoPerson, some approval => validateApproval approvalSubjectHash approval
  | .twoPerson, none =>
    .error ⟨"risk-sensitive parameter " ++ value.parameterId ++
      " requires two-person approval"⟩

def checkValue (approvalSubjectHash : String) (ids : OrderedSet String)
    (value : ParameterValue) : Result (OrderedSet String) := do
  validateCanonicalId "parameter_id" value.parameterId
  refuseIf (value.parameterId ∈ ids) "duplicate parameter_id"
  refuseIf value.OutsideBounds
    ("parameter " ++ value.parameterId ++ " is outside its inclusive bounds")
  validateControl approvalSubjectHash value
  pure (ids.insert value.parameterId)

def validate [ContentHash] (set : ParameterSet) : Result Unit := do
  set.validateLineage
    ("parameter set needs a revision, a distinct predecessor revision and " ++
      "fingerprint when present, and at least one value")
  let approvalSubjectHash ← set.approvalSubjectFingerprint
  let _ ← set.values.foldlM (checkValue approvalSubjectHash) ∅
  pure ()

def fingerprint [ContentHash] (set : ParameterSet) : Result String := do
  set.validate
  pure (sha256Hex (labelledLines
    (set.lineageRows ++ set.sortedValues.flatMap ParameterValue.rows)))

end ParameterSet

/-! ## Differences -/

inductive ParameterChangeKind
  | added
  | removed
  | modified
  deriving DecidableEq

structure ParameterChange where
  parameterId : String
  kind : ParameterChangeKind
  (before after : Option ParameterValue)
  deriving DecidableEq

abbrev ValuesById : Type :=
  OrderedMap String ParameterValue

def ParameterChange.between (previousById currentById : ValuesById)
    (parameterId : String) : Option ParameterChange :=
  let before := previousById[parameterId]?
  let after := currentById[parameterId]?
  match before, after with
  | none, some _ => some { parameterId, kind := .added, before, after }
  | some _, none => some { parameterId, kind := .removed, before, after }
  | some old, some new =>
    if old ≠ new then
      some { parameterId, kind := .modified, before, after }
    else
      none
  | none, none => none

namespace ParameterSet

def valuesById (set : ParameterSet) : ValuesById :=
  KeyedRows.toMap ParameterValue.parameterId id set.values

def parameterIds (previousById currentById : ValuesById) : OrderedSet String :=
  Std.ExtTreeSet.ofList (currentById.keys ++ previousById.keys) compare

def diffFrom [ContentHash] (set previous : ParameterSet) :
    Result (List ParameterChange) := do
  set.validate
  previous.validate
  refuseIf (set.parameterSetId ≠ previous.parameterSetId)
    "parameter revisions must belong to the same parameter_set_id"
  refuseIf (set.revision = previous.revision)
    "parameter revisions must have different revision labels"
  refuseIf (set.previousRevision ≠ some previous.revision)
    ("target parameter revision must declare the supplied source revision " ++
      "as its predecessor")
  let previousFingerprint ← previous.fingerprint
  refuseIf (set.previousParameterSetFingerprint ≠ some previousFingerprint)
    ("target parameter revision must bind the supplied source parameter " ++
      "fingerprint")
  pure ((parameterIds previous.valuesById set.valuesById).toList.filterMap
    (ParameterChange.between previous.valuesById set.valuesById))

end ParameterSet

end Follon.Operations
