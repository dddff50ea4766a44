import Follon.ControlPlane.Bundle
import Follon.Domain.Identity

/-!
# Strategy capsules

A capsule is a directory of an archive, its lock, the configuration and the
receipt of one evaluation, and a manifest that binds them by their digests.
-/

namespace Follon.ControlPlane

open Foundation Domain

def capsuleManifestFile : String := "capsule-manifest.json"

def capsuleBundleFile : String := "strategy-bundle.bin"

def capsuleLockFile : String := "dependency.lock"

def capsuleConfigurationFile : String := "configuration.json"

def capsuleReceiptFile : String := "evaluation-receipt.json"

def capsuleSignatureFile : String := "capsule-signature.json"

def capsuleSchemaVersion : UInt64 := 1

def capsuleSignatureSchemaVersion : UInt64 := 1

def maxDocumentBytes : Nat := 1024 * 1024

def manifestFields : List String :=
  ["bundle_sha256", "capsule_id", "capsule_schema_version",
    "configuration_sha256", "dependency_lockfile_sha256",
    "evaluation_receipt_id", "export_disposition", "packaged_at",
    "replay_instruction_command", "runtime_target", "strategy_id",
    "strategy_version"]

/-! ## The manifest -/

inductive CapsuleExportDisposition where
  | verifiedPortable
  | missingDependencyLock
  | unverifiedEvaluation
  | restrictedDatasetRights
  deriving DecidableEq

namespace CapsuleExportDisposition

def asStr : CapsuleExportDisposition → String
  | verifiedPortable => "VERIFIED_PORTABLE"
  | missingDependencyLock => "MISSING_DEPENDENCY_LOCK"
  | unverifiedEvaluation => "UNVERIFIED_EVALUATION"
  | restrictedDatasetRights => "RESTRICTED_DATASET_RIGHTS"

def parse (value : String) : Result CapsuleExportDisposition :=
  okOr "unknown capsule export disposition"
    ([verifiedPortable, missingDependencyLock, unverifiedEvaluation,
      restrictedDatasetRights].find? fun disposition =>
        disposition.asStr == value)

@[simp] theorem parse_asStr (disposition : CapsuleExportDisposition) :
    parse disposition.asStr = .ok disposition := by
  cases disposition <;> rfl

end CapsuleExportDisposition

structure StrategyCapsuleManifest where
  (capsuleId strategyId strategyVersion bundleSha256 : String)
  (configurationSha256 dependencyLockfileSha256 runtimeTarget : String)
  (evaluationReceiptId replayInstructionCommand : String)
  exportDisposition : CapsuleExportDisposition
  packagedAt : String
  deriving DecidableEq

def StrategyCapsuleManifest.members (manifest : StrategyCapsuleManifest) :
    List (String × Json) :=
  [("bundle_sha256", .str manifest.bundleSha256), ("capsule_id", .str manifest.capsuleId),
    ("capsule_schema_version", .num capsuleSchemaVersion.toNat),
    ("configuration_sha256", .str manifest.configurationSha256),
    ("dependency_lockfile_sha256", .str manifest.dependencyLockfileSha256),
    ("evaluation_receipt_id", .str manifest.evaluationReceiptId),
    ("export_disposition", .str manifest.exportDisposition.asStr),
    ("packaged_at", .str manifest.packagedAt),
    ("replay_instruction_command", .str manifest.replayInstructionCommand),
    ("runtime_target", .str manifest.runtimeTarget),
    ("strategy_id", .str manifest.strategyId),
    ("strategy_version", .str manifest.strategyVersion)]

section
variable (V : Type) [SerdeValue V]

def StrategyCapsuleManifest.toJson (manifest : StrategyCapsuleManifest) : List UInt8 :=
  SerdeValue.toVec (SerdeValue.ofJson (V := V) (.obj manifest.members))

def StrategyCapsuleManifest.parse (bytes : List UInt8) :
    Result StrategyCapsuleManifest := do
  let value : V ← canonicalJsonObject bytes "capsule manifest"
  let object ← okOr "capsule manifest is not an object"
    (SerdeValue.asObject value)
  requireExactJsonFields object manifestFields "capsule manifest"
  refuseIf ((SerdeValue.get object "capsule_schema_version").bind
      SerdeValue.asU64 ≠ some capsuleSchemaVersion)
    "unsupported capsule manifest schema version"
  let capsuleId ← stringField object "capsule_id" "capsule manifest"
  let strategyId ← stringField object "strategy_id" "capsule manifest"
  let strategyVersion ← stringField object "strategy_version"
    "capsule manifest"
  let bundleSha256 ← stringField object "bundle_sha256" "capsule manifest"
  let configurationSha256 ← stringField object "configuration_sha256"
    "capsule manifest"
  let dependencyLockfileSha256 ← stringField object
    "dependency_lockfile_sha256" "capsule manifest"
  let runtimeTarget ← stringField object "runtime_target" "capsule manifest"
  let evaluationReceiptId ← stringField object "evaluation_receipt_id"
    "capsule manifest"
  let replayInstructionCommand ← stringField object
    "replay_instruction_command" "capsule manifest"
  let disposition ← stringField object "export_disposition" "capsule manifest"
  let exportDisposition ← CapsuleExportDisposition.parse disposition
  let packagedAt ← stringField object "packaged_at" "capsule manifest"
  validateUtcTimestamp "capsule packaged_at" packagedAt
  pure
    { capsuleId, strategyId, strategyVersion, bundleSha256
      configurationSha256, dependencyLockfileSha256, runtimeTarget
      evaluationReceiptId, replayInstructionCommand, exportDisposition
      packagedAt }

end

/-! ## The contents -/

structure CapsuleContents where
  lock : StrategyBundleLock
  sources : List BundleSource
  (strategyId strategyVersion : String)
  (lockBytes bundle configuration receipt : List UInt8)
  deriving DecidableEq

namespace CapsuleContents

variable [ContentHash]

section
variable (V : Type) [SerdeValue V]

def parseDocument (bytes : List UInt8) (context : String) : Result V :=
  match SerdeValue.fromSlice bytes with
  | .ok value => .ok value
  | .error e => .error ⟨context ++ " is not JSON: " ++ e⟩

def new (lockBytes bundle configuration receipt : List UInt8) :
    Result CapsuleContents := do
  let lock ← StrategyBundleLock.parse V lockBytes
  let sources ← openStrategyBundle bundle lock
  let configurationValue ← parseDocument V configuration
    "capsule configuration"
  let strategy ← okOr "capsule configuration has no strategy object"
    ((SerdeValue.member configurationValue "strategy").bind SerdeValue.asObject)
  let strategyId ← stringField strategy "strategy_id" "configuration strategy"
  let strategyVersion ← stringField strategy "strategy_version"
    "configuration strategy"
  validateCanonicalId "strategy_id" strategyId
  let receiptValue ← parseDocument V receipt "evaluation receipt"
  refuseIf ((SerdeValue.member receiptValue "configuration_hash").bind
      SerdeValue.asStr ≠ some (ContentHash.hexDigest configuration))
    "evaluation receipt was not produced from this configuration"
  pure
    { lock, sources, strategyId, strategyVersion, lockBytes, bundle
      configuration, receipt }

end

def capsuleId (contents : CapsuleContents) : String :=
  "capsule." ++ contents.strategyId ++ "." ++
    String.ofList (contents.lock.strategyBundleHash.toList.take 16)

def evaluationReceiptId (contents : CapsuleContents) : String :=
  "evaluation." ++ ContentHash.hexDigest contents.receipt

def «seal» (contents : CapsuleContents) (packagedAt replayInstructionCommand : String)
    (reproducedReceipt : List UInt8) : Result StrategyCapsuleManifest := do
  validateUtcTimestamp "capsule packaged_at" packagedAt
  refuseIf ((trim replayInstructionCommand).isEmpty = true)
    "capsule replay instruction is required"
  refuseIf (reproducedReceipt ≠ contents.receipt)
    "capsule replay did not reproduce the evaluation receipt"
  pure
    { capsuleId := contents.capsuleId, strategyId := contents.strategyId
      strategyVersion := contents.strategyVersion
      bundleSha256 := ContentHash.hexDigest contents.bundle
      configurationSha256 := ContentHash.hexDigest contents.configuration
      dependencyLockfileSha256 := ContentHash.hexDigest contents.lockBytes
      runtimeTarget := contents.lock.runtime
      evaluationReceiptId := contents.evaluationReceiptId
      replayInstructionCommand
      exportDisposition := .verifiedPortable
      packagedAt }

def bindings (contents : CapsuleContents)
    (manifest : StrategyCapsuleManifest) : List (String × String × String) :=
  [("capsule_id", manifest.capsuleId, contents.capsuleId),
    ("strategy_id", manifest.strategyId, contents.strategyId),
    ("strategy_version", manifest.strategyVersion, contents.strategyVersion),
    ("bundle_sha256", manifest.bundleSha256, ContentHash.hexDigest contents.bundle),
    ("configuration_sha256", manifest.configurationSha256,
      ContentHash.hexDigest contents.configuration),
    ("dependency_lockfile_sha256", manifest.dependencyLockfileSha256,
      ContentHash.hexDigest contents.lockBytes),
    ("runtime_target", manifest.runtimeTarget, contents.lock.runtime),
    ("evaluation_receipt_id", manifest.evaluationReceiptId, contents.evaluationReceiptId)]

def checkBinding (binding : String × String × String) : Result Unit :=
  refuseIf (binding.2.1 ≠ binding.2.2)
    ("capsule manifest " ++ binding.1 ++ " does not match the capsule contents")

def checkManifest (contents : CapsuleContents)
    (manifest : StrategyCapsuleManifest) : Result Unit := do
  checkAll checkBinding (contents.bindings manifest)
  refuseIf (manifest.exportDisposition ≠ .verifiedPortable)
    ("a sealed capsule must carry the VERIFIED_PORTABLE disposition its " ++
      "replay earned")
  validateUtcTimestamp "capsule packaged_at" manifest.packagedAt

def writeSealed (V : Type) [SerdeValue V] (contents : CapsuleContents)
    (manifest : StrategyCapsuleManifest) : Result (List (String × List UInt8)) := do
  contents.checkManifest manifest
  pure
    [(capsuleBundleFile, contents.bundle), (capsuleLockFile, contents.lockBytes),
      (capsuleConfigurationFile, contents.configuration), (capsuleReceiptFile,
      contents.receipt), (capsuleManifestFile, manifest.toJson V)]

end CapsuleContents

/-! ## The signature -/

structure CapsuleSignature where
  (capsuleId manifestSha256 keyId signatureHex signedAt : String)
  deriving DecidableEq

def decodedHexLength (value : String) : Result Nat := do
  refuseIf (value.utf8ByteSize % 2 ≠ 0 ∨
      (value.toList.all fun c =>
        isAsciiDigit c || ('a' ≤ c && c ≤ 'f')) = false)
    "value must be lowercase hexadecimal"
  pure (value.utf8ByteSize / 2)

namespace CapsuleSignature

def parse (V : Type) [SerdeValue V] (bytes : List UInt8) : Result CapsuleSignature := do
  let value : V ← canonicalJsonObject bytes "capsule signature"
  let object ← okOr "capsule signature is not an object"
    (SerdeValue.asObject value)
  requireExactJsonFields object
    ["capsule_id", "capsule_signature_schema_version", "key_id",
      "manifest_sha256", "signature_hex", "signed_at"] "capsule signature"
  refuseIf ((SerdeValue.get object "capsule_signature_schema_version").bind
      SerdeValue.asU64 ≠ some capsuleSignatureSchemaVersion)
    "unsupported capsule signature schema version"
  let capsuleId ← stringField object "capsule_id" "capsule signature"
  let manifestSha256 ← stringField object "manifest_sha256"
    "capsule signature"
  let keyId ← stringField object "key_id" "capsule signature"
  let signatureHex ← stringField object "signature_hex" "capsule signature"
  let signedAt ← stringField object "signed_at" "capsule signature"
  validateCanonicalId "capsule signature key_id" keyId
  validateUtcTimestamp "capsule signed_at" signedAt
  refuseIf (isDigest manifestSha256 = false)
    "capsule signature manifest hash is not a lowercase SHA-256"
  let length ← decodedHexLength signatureHex
  refuseIf (length ≠ 64)
    "capsule signature must be a 64-byte Ed25519 signature"
  pure { capsuleId, manifestSha256, keyId, signatureHex, signedAt }

def checkBinding (V : Type) [SerdeValue V] [ContentHash]
    (signature : CapsuleSignature) (manifest : StrategyCapsuleManifest) : Result Unit :=
  refuseIf (signature.capsuleId ≠ manifest.capsuleId ∨
      signature.manifestSha256 ≠ ContentHash.hexDigest (manifest.toJson V))
    "capsule signature does not bind this capsule's manifest"

end CapsuleSignature

/-! ## Reading a capsule -/

structure SealedStrategyCapsule where
  manifest : StrategyCapsuleManifest
  contents : CapsuleContents
  signature : Option CapsuleSignature
  deriving DecidableEq

def readMember (entry : List UInt8 × DirectoryEntry) : Result (String × List UInt8) := do
  let name ← okOr "capsule member name is not UTF-8" (intoString entry.1)
  match entry.2 with
  | .file contents => pure (name, contents)
  | _ => .error ⟨"capsule member " ++ name ++ " is not a regular file"⟩

def sortNames (names : List String) : List String :=
  names.insertionSort fun left right => left ≤ right

def expectedMembers : List String :=
  sortNames [capsuleBundleFile, capsuleConfigurationFile, capsuleLockFile,
    capsuleManifestFile, capsuleReceiptFile]

def readLimited (members : List (String × List UInt8)) (name : String)
    (limit : Nat) : Result (List UInt8) := do
  let contents ← okOr "No such file or directory (os error 2)"
    (SerdeValue.get members name)
  refuseIf (limit < contents.length)
    ("capsule member " ++ name ++ " is too large")
  pure contents

section
variable (V : Type) [SerdeValue V] [ContentHash]

def readSignature (members : List (String × List UInt8))
    (manifest : StrategyCapsuleManifest) : Result (Option CapsuleSignature) :=
  if capsuleSignatureFile ∈ members.map (·.1) then do
    let bytes ← readLimited members capsuleSignatureFile maxDocumentBytes
    let signature ← CapsuleSignature.parse V bytes
    signature.checkBinding V manifest
    pure (some signature)
  else pure none

def readMembers (members : List (String × List UInt8)) :
    Result SealedStrategyCapsule := do
  refuseIf (sortNames ((members.map (·.1)).filter (· != capsuleSignatureFile))
      ≠ expectedMembers)
    "capsule must contain exactly its five members and an optional signature"
  let manifestBytes ← readLimited members capsuleManifestFile maxDocumentBytes
  let manifest ← StrategyCapsuleManifest.parse V manifestBytes
  let lockBytes ← readLimited members capsuleLockFile maxDocumentBytes
  let bundle ← readLimited members capsuleBundleFile maxBundleBytes
  let configuration ← readLimited members capsuleConfigurationFile
    maxDocumentBytes
  let receipt ← readLimited members capsuleReceiptFile maxDocumentBytes
  let contents ← CapsuleContents.new V lockBytes bundle configuration receipt
  contents.checkManifest manifest
  let signature ← readSignature V members manifest
  pure { manifest, contents, signature }

def readStrategyCapsule : DirectoryEntry → Result SealedStrategyCapsule
  | .directory entries => do
    let members ← collect readMember entries
    readMembers V members
  | _ => .error ⟨"capsule must be a non-symlink directory"⟩

end

end Follon.ControlPlane
