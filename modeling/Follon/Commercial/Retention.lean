import Follon.Foundation.Digest
import Follon.Domain.Identity
import Mathlib.Data.List.Sort

/-!
# Data inventory and retention plans

The files of a tenant under retention, and the two planners that name the
files to delete.  The file system is a parameter; a file is where its path
leads once the links on the way are followed.
-/

namespace Follon.Commercial

open Foundation Domain

def retentionPlanSchemaVersion : Nat := 1

def validateSha256 (name value : String) : Result Unit :=
  refuseIf (isDigest value = false) (name ++ " must be lowercase SHA-256 hex")

/-! ## Files -/

inductive FileType where
  | file
  | directory
  | symlink
  | other
  deriving DecidableEq

structure FileSystem where
  symlinkMetadata : String → Result FileType
  canonicalize : String → Result String
  length : String → Result Nat
  read : String → Result (List UInt8)

inductive PathComponent where
  | rootDir
  | curDir
  | parentDir
  | normal (name : String)
  deriving DecidableEq

def pieceComponent : String → Option PathComponent
  | "" => none
  | "." => none
  | ".." => some .parentDir
  | name => some (.normal name)

/-- `Path::components`: repeated slashes and a `.` inside the path are passed
over. -/
def pathComponents (path : String) : List PathComponent :=
  match splitAtChar '/' [] path.toList with
  | "" :: rest =>
    if path.isEmpty then [] else .rootDir :: rest.filterMap pieceComponent
  | "." :: rest => .curDir :: rest.filterMap pieceComponent
  | pieces => pieces.filterMap pieceComponent

def PathComponent.isNormal : PathComponent → Bool
  | .normal _ => true
  | _ => false

def joinPath (root relative : String) : String :=
  if root.isEmpty ∨ root.toList.getLast? = some '/' then root ++ relative
  else root ++ "/" ++ relative

def validateRelativePath (value : String) : Result String := do
  refuseIf (value.isEmpty ∨ 4096 < value.utf8ByteSize ∨
      '\x00' ∈ value.toList ∨ '\\' ∈ value.toList)
    "relative path is empty, too long, or contains a NUL"
  refuseIf ((pathComponents value).all PathComponent.isNormal = false)
    "path must be a normal root-relative file path without traversal"
  pure value

namespace FileSystem

def validatedDataRoot (fs : FileSystem) (path : String) : Result String := do
  let fileType ← fs.symlinkMetadata path
  refuseIf (fileType ≠ .directory)
    "data/artifact root must be an existing non-symlink directory"
  fs.canonicalize path

def resolveAssetPath (fs : FileSystem) (root relativePath : String) : Result String := do
  let relative ← validateRelativePath relativePath
  let candidate := joinPath root relative
  let fileType ← fs.symlinkMetadata candidate
  refuseIf (fileType ≠ .file)
    ("retention/release candidate must be an existing regular non-symlink " ++ "file")
  let resolved ← fs.canonicalize candidate
  refuseIf ((pathComponents root).isPrefixOf (pathComponents resolved) = false)
    "retention/release candidate resolves outside its configured root"
  pure resolved

def sha256File [ContentHash] (fs : FileSystem) (path : String) : Result String := do
  let bytes ← fs.read path
  pure (ContentHash.hexDigest bytes)

def assetFile (fs : FileSystem) (dataRoot relativePath : String) : Result String := do
  let root ← fs.validatedDataRoot dataRoot
  fs.resolveAssetPath root relativePath

end FileSystem

/-! ## Assets and requests -/

inductive DataClassification where
  | customerContent
  | operationalMetadata
  | marketData
  | auditEvidence
  deriving DecidableEq

structure DataAsset where
  (assetId tenantId relativePath : String)
  classification : DataClassification
  (createdAt retainUntil : String)
  subjectHashes : List String
  legalHold : Bool
  deriving DecidableEq

def checkSubjectHashes : List String → List String → Result Unit
  | _, [] => pure ()
  | seen, hash :: rest => do
    validateSha256 "data asset subject hash" hash
    refuseIf (hash ∈ seen) "data asset subject hashes must be unique"
    checkSubjectHashes (hash :: seen) rest

def DataAsset.validate (asset : DataAsset) : Result Unit := do
  validateCanonicalId "data asset_id" asset.assetId
  validateCanonicalId "data asset tenant_id" asset.tenantId
  let _ ← validateRelativePath asset.relativePath
  validateUtcTimestamp "data asset created_at" asset.createdAt
  validateUtcTimestamp "data asset retain_until" asset.retainUntil
  refuseIf (asset.retainUntil < asset.createdAt)
    "data asset retain_until cannot precede created_at"
  checkSubjectHashes [] asset.subjectHashes

inductive PrivacyRequestKind where
  | access
  | erasure
  deriving DecidableEq

structure PrivacyRequest where
  (requestId tenantId subjectHash : String)
  kind : PrivacyRequestKind
  requestedAt : String
  deriving DecidableEq

def PrivacyRequest.validate (request : PrivacyRequest) : Result Unit := do
  validateCanonicalId "privacy request_id" request.requestId
  validateCanonicalId "privacy tenant_id" request.tenantId
  validateSha256 "privacy subject_hash" request.subjectHash
  validateUtcTimestamp "privacy requested_at" request.requestedAt

/-! ## Plans -/

inductive DeletionReason where
  | retentionExpired
  | privacyErasure
  deriving DecidableEq

structure RetentionCandidate where
  (assetId relativePath : String)
  classification : DataClassification
  reason : DeletionReason
  expectedHash : String
  expectedBytes : Nat
  deriving DecidableEq

structure RetentionPlan where
  retentionPlanSchemaVersion : Nat
  tenantId : String
  privacyRequestId : Option String
  asOf : String
  candidates : List RetentionCandidate
  withheldAssetIds : List String
  deriving DecidableEq

def checkCandidates : List String → List String → List RetentionCandidate →
    Result (List String)
  | ids, _, [] => pure ids
  | ids, paths, candidate :: rest => do
    validateCanonicalId "retention candidate asset_id" candidate.assetId
    let _ ← validateRelativePath candidate.relativePath
    validateSha256 "retention candidate expected_hash" candidate.expectedHash
    refuseIf (candidate.assetId ∈ ids ∨ candidate.relativePath ∈ paths ∨
        ids.head?.any (fun previous => candidate.assetId ≤ previous) = true)
      ("retention candidates must have unique paths and strictly sorted " ++ "asset IDs")
    checkCandidates (candidate.assetId :: ids)
      (candidate.relativePath :: paths) rest

def checkWithheld (candidateIds : List String) : List String → List String → Result Unit
  | _, [] => pure ()
  | seen, assetId :: rest => do
    validateCanonicalId "retention withheld asset_id" assetId
    refuseIf (assetId ∈ seen ∨ assetId ∈ candidateIds)
      "retention withheld asset IDs must be unique and not candidates"
    checkWithheld candidateIds (assetId :: seen) rest

def checkRequestId : Option String → Result Unit
  | some requestId =>
    validateCanonicalId "retention plan privacy_request_id" requestId
  | none => pure ()

def RetentionPlan.validate (plan : RetentionPlan) : Result Unit := do
  refuseIf (plan.retentionPlanSchemaVersion ≠ Commercial.retentionPlanSchemaVersion)
    "unsupported retention plan schema version"
  validateCanonicalId "retention plan tenant_id" plan.tenantId
  checkRequestId plan.privacyRequestId
  validateUtcTimestamp "retention plan as_of" plan.asOf
  let candidateIds ← checkCandidates [] [] plan.candidates
  checkWithheld candidateIds [] plan.withheldAssetIds

/-! ## Planning -/

section
variable [ContentHash]

def candidateFromAsset (fs : FileSystem) (root : String) (asset : DataAsset)
    (reason : DeletionReason) : Result RetentionCandidate := do
  let path ← fs.resolveAssetPath root asset.relativePath
  let expectedBytes ← fs.length path
  let expectedHash ← fs.sha256File path
  pure
    { assetId := asset.assetId, relativePath := asset.relativePath
      classification := asset.classification
      reason, expectedHash, expectedBytes }

/-- What a planner looks at: the assets it selects, those of them it withholds
and those of the rest it plans to delete. -/
structure DeletionRule where
  (selects withholds due : DataAsset → Bool)
  reason : DeletionReason

namespace DeletionRule

def deletes (rule : DeletionRule) (asset : DataAsset) : Bool :=
  rule.selects asset && !rule.withholds asset && rule.due asset

def consider (rule : DeletionRule) (fs : FileSystem) (root : String)
    (found : List RetentionCandidate × List String) (asset : DataAsset) :
    Result (List RetentionCandidate × List String) := do
  asset.validate
  if rule.withholds asset then
    pure (found.1, found.2 ++ [asset.assetId])
  else if rule.due asset then do
    let candidate ← candidateFromAsset fs root asset rule.reason
    pure (found.1 ++ [candidate], found.2)
  else
    pure found

def plan (rule : DeletionRule) (fs : FileSystem) (root : String)
    (assets : List DataAsset) (tenantId : String)
    (privacyRequestId : Option String) (asOf : String) : Result RetentionPlan := do
  let (candidates, withheld) ← (assets.filter rule.selects).foldlM
    (rule.consider fs root) ([], [])
  let plan : RetentionPlan :=
    { retentionPlanSchemaVersion := Commercial.retentionPlanSchemaVersion
      tenantId, privacyRequestId, asOf
      candidates := candidates.insertionSort fun left right =>
        left.assetId ≤ right.assetId
      withheldAssetIds := withheld.insertionSort (· ≤ ·) }
  plan.validate
  pure plan

end DeletionRule

def expiredRetention (tenantId asOf : String) : DeletionRule where
  selects asset := asset.tenantId == tenantId
  withholds asset := asset.legalHold
  due asset := asset.retainUntil ≤ asOf
  reason := .retentionExpired

def planExpiredRetention (fs : FileSystem) (dataRoot : String)
    (assets : List DataAsset) (tenantId asOf : String) : Result RetentionPlan := do
  validateCanonicalId "retention tenant_id" tenantId
  validateUtcTimestamp "retention as_of" asOf
  let root ← fs.validatedDataRoot dataRoot
  (expiredRetention tenantId asOf).plan fs root assets tenantId none asOf

def privacyErasure (request : PrivacyRequest) : DeletionRule where
  selects asset := asset.tenantId == request.tenantId &&
    asset.subjectHashes.any (· == request.subjectHash)
  withholds asset :=
    asset.legalHold || asset.classification == .auditEvidence
  due asset := asset.classification == .customerContent
  reason := .privacyErasure

def planPrivacyErasure (fs : FileSystem) (dataRoot : String)
    (assets : List DataAsset) (request : PrivacyRequest) (asOf : String) :
    Result RetentionPlan := do
  request.validate
  validateUtcTimestamp "privacy erasure as_of" asOf
  refuseIf (request.kind ≠ .erasure)
    "privacy erasure planning requires an ERASURE request"
  refuseIf (asOf < request.requestedAt)
    "privacy erasure as_of cannot precede the request"
  let root ← fs.validatedDataRoot dataRoot
  (privacyErasure request).plan fs root assets request.tenantId
    (some request.requestId) asOf

end

end Follon.Commercial
