import Follon.Commercial.Retention
import Follon.Foundation.CanonicalForm

/-!
# Signed and confirmed documents

The retention plan, the release manifest, its detached signature, the trusted
key and the self-host configuration.  Each has its strict reader with its own
list of fields, its checks, and the writer of its canonical JSON.
-/

namespace Follon.Commercial

open Foundation Domain

def releaseManifestSchemaVersion : UInt32 := 1

def releaseSignatureSchemaVersion : UInt32 := 1

def selfHostConfigSchemaVersion : UInt32 := 1

def notStrict (subject detail : String) : PaperError :=
  ⟨subject ++ " is not valid strict JSON: " ++ detail⟩

/-! ## Retention plans -/

namespace DataClassification

def asStr : DataClassification → String
  | .customerContent => "CUSTOMER_CONTENT"
  | .operationalMetadata => "OPERATIONAL_METADATA"
  | .marketData => "MARKET_DATA"
  | .auditEvidence => "AUDIT_EVIDENCE"

def parse (value : String) : Result DataClassification :=
  match value with
  | "CUSTOMER_CONTENT" => .ok .customerContent
  | "OPERATIONAL_METADATA" => .ok .operationalMetadata
  | "MARKET_DATA" => .ok .marketData
  | "AUDIT_EVIDENCE" => .ok .auditEvidence
  | _ => .error ⟨"data classification is unsupported"⟩

end DataClassification

namespace DeletionReason

def asStr : DeletionReason → String
  | .retentionExpired => "RETENTION_EXPIRED"
  | .privacyErasure => "PRIVACY_ERASURE"

def parse (value : String) : Result DeletionReason :=
  match value with
  | "RETENTION_EXPIRED" => .ok .retentionExpired
  | "PRIVACY_ERASURE" => .ok .privacyErasure
  | _ => .error
      ⟨"deletion reason must be RETENTION_EXPIRED or PRIVACY_ERASURE"⟩

end DeletionReason

structure RetentionCandidateDocument where
  (assetId relativePath classification reason expectedHash : String)
  expectedBytes : UInt64

structure RetentionPlanDocument where
  retentionPlanSchemaVersion : UInt32
  tenantId : String
  privacyRequestId : Option String
  asOf : String
  candidates : List RetentionCandidateDocument
  withheldAssetIds : List String

def RetentionCandidateDocument.decode (json : Json) :
    Option RetentionCandidateDocument := do
  let members ← Json.strictMembers ["asset_id", "relative_path",
    "classification", "reason", "expected_hash", "expected_bytes"] json
  let assetId ← Json.readField Json.asText members "asset_id"
  let relativePath ← Json.readField Json.asText members "relative_path"
  let classification ← Json.readField Json.asText members "classification"
  let reason ← Json.readField Json.asText members "reason"
  let expectedHash ← Json.readField Json.asText members "expected_hash"
  let expectedBytes ← Json.readField Json.asU64 members "expected_bytes"
  pure
    { assetId, relativePath, classification, reason, expectedHash
      expectedBytes }

def RetentionPlanDocument.decode (json : Json) : Option RetentionPlanDocument := do
  let members ← Json.strictMembers ["retention_plan_schema_version",
    "tenant_id", "privacy_request_id", "as_of", "candidates",
    "withheld_asset_ids"] json
  let retentionPlanSchemaVersion ←
    Json.readField Json.asU32 members "retention_plan_schema_version"
  let tenantId ← Json.readField Json.asText members "tenant_id"
  let privacyRequestId ←
    Json.asOptionalText (Json.field members "privacy_request_id")
  let asOf ← Json.readField Json.asText members "as_of"
  let candidates ← Json.readField
    (Json.asList RetentionCandidateDocument.decode) members "candidates"
  let withheldAssetIds ← Json.readField (Json.asList Json.asText) members
    "withheld_asset_ids"
  pure
    { retentionPlanSchemaVersion, tenantId, privacyRequestId, asOf, candidates
      withheldAssetIds }

def RetentionCandidateDocument.candidate
    (document : RetentionCandidateDocument) : Result RetentionCandidate := do
  let classification ← DataClassification.parse document.classification
  let reason ← DeletionReason.parse document.reason
  pure
    { assetId := document.assetId, relativePath := document.relativePath
      classification, reason
      expectedHash := document.expectedHash
      expectedBytes := document.expectedBytes.toNat }

def RetentionPlanDocument.plan (document : RetentionPlanDocument) :
    Result RetentionPlan := do
  let candidates ←
    collect RetentionCandidateDocument.candidate document.candidates
  pure
    { retentionPlanSchemaVersion := document.retentionPlanSchemaVersion.toNat
      tenantId := document.tenantId
      privacyRequestId := document.privacyRequestId, asOf := document.asOf
      candidates
      withheldAssetIds := document.withheldAssetIds }

def RetentionCandidate.document (candidate : RetentionCandidate) : Json :=
  .obj
    [("asset_id", .str candidate.assetId),
      ("classification", .str candidate.classification.asStr),
      ("expected_bytes", .num candidate.expectedBytes),
      ("expected_hash", .str candidate.expectedHash),
      ("reason", .str candidate.reason.asStr),
      ("relative_path", .str candidate.relativePath)]

def optionalJsonString : Option String → Json
  | some value => .str value
  | none => .null

def RetentionPlan.document (plan : RetentionPlan) : Json :=
  .obj
    [("as_of", .str plan.asOf),
      ("candidates", .arr (plan.candidates.map RetentionCandidate.document)),
      ("privacy_request_id", optionalJsonString plan.privacyRequestId),
      ("retention_plan_schema_version", .num plan.retentionPlanSchemaVersion),
      ("tenant_id", .str plan.tenantId),
      ("withheld_asset_ids", .arr (plan.withheldAssetIds.map Json.str))]

def RetentionPlan.form :
    CanonicalForm RetentionPlanDocument RetentionPlan PaperError where
  decode := RetentionPlanDocument.decode
  convert := RetentionPlanDocument.plan
  validate := RetentionPlan.validate
  document := RetentionPlan.document
  notRead := notStrict "retention plan"
  notCanonical := ⟨"retention plan must use canonical JSON serialization"⟩

/-! ## Release manifests -/

structure ReleaseArtifact where
  (artifactId relativePath sha256 : String)
  bytes : UInt64

structure ReleaseManifest where
  releaseManifestSchemaVersion : UInt32
  (releaseId version createdAt sourceRevision sbomSha256 : String)
  artifacts : List ReleaseArtifact

def isVersionChar (c : Char) : Bool :=
  isAsciiDigit c || ('a' ≤ c && c ≤ 'z') || ('A' ≤ c && c ≤ 'Z') ||
    c == '.' || c == '-' || c == '+'

def isLowerHexChar (c : Char) : Bool := isAsciiDigit c || ('a' ≤ c && c ≤ 'f')

def checkArtifacts : List String → List String → List ReleaseArtifact → Result Unit
  | _, _, [] => pure ()
  | ids, paths, artifact :: rest => do
    validateCanonicalId "release artifact_id" artifact.artifactId
    let _ ← validateRelativePath artifact.relativePath
    validateSha256 "release artifact sha256" artifact.sha256
    refuseIf (artifact.bytes = 0 ∨ artifact.artifactId ∈ ids ∨
        artifact.relativePath ∈ paths ∨
        ids.head?.any (fun last => artifact.artifactId ≤ last) = true)
      ("release artifacts need positive bytes, unique paths, and strict " ++
        "artifact-ID order")
    checkArtifacts (artifact.artifactId :: ids)
      (artifact.relativePath :: paths) rest

namespace ReleaseManifest

def validate (manifest : ReleaseManifest) : Result Unit := do
  refuseIf (manifest.releaseManifestSchemaVersion ≠
      Commercial.releaseManifestSchemaVersion)
    "unsupported release manifest schema version"
  validateCanonicalId "release_id" manifest.releaseId
  validateUtcTimestamp "release created_at" manifest.createdAt
  refuseIf (manifest.version = "" ∨ 128 < manifest.version.utf8ByteSize ∨
      manifest.version.toList.all isVersionChar = false ∨
      ¬(manifest.sourceRevision.utf8ByteSize = 40 ∨
        manifest.sourceRevision.utf8ByteSize = 64) ∨
      manifest.sourceRevision.toList.all isLowerHexChar = false)
    "release version or source_revision is invalid"
  validateSha256 "release sbom_sha256" manifest.sbomSha256
  refuseIf (manifest.artifacts.isEmpty = true)
    "release manifest requires at least one artifact"
  checkArtifacts [] [] manifest.artifacts

def artifactOf (json : Json) : Option ReleaseArtifact := do
  let members ← Json.strictMembers
    ["artifact_id", "relative_path", "sha256", "bytes"] json
  let artifactId ← Json.readField Json.asText members "artifact_id"
  let relativePath ← Json.readField Json.asText members "relative_path"
  let sha256 ← Json.readField Json.asText members "sha256"
  let bytes ← Json.readField Json.asU64 members "bytes"
  pure { artifactId, relativePath, sha256, bytes }

def decode (json : Json) : Option ReleaseManifest := do
  let members ← Json.strictMembers ["release_manifest_schema_version",
    "release_id", "version", "created_at", "source_revision", "sbom_sha256",
    "artifacts"] json
  let releaseManifestSchemaVersion ←
    Json.readField Json.asU32 members "release_manifest_schema_version"
  let releaseId ← Json.readField Json.asText members "release_id"
  let version ← Json.readField Json.asText members "version"
  let createdAt ← Json.readField Json.asText members "created_at"
  let sourceRevision ← Json.readField Json.asText members "source_revision"
  let sbomSha256 ← Json.readField Json.asText members "sbom_sha256"
  let artifacts ←
    Json.readField (Json.asList artifactOf) members "artifacts"
  pure
    { releaseManifestSchemaVersion, releaseId, version, createdAt
      sourceRevision, sbomSha256, artifacts }

end ReleaseManifest

def ReleaseArtifact.document (artifact : ReleaseArtifact) : Json :=
  .obj
    [("artifact_id", .str artifact.artifactId), ("bytes", .num artifact.bytes.toNat),
      ("relative_path", .str artifact.relativePath),
      ("sha256", .str artifact.sha256)]

def ReleaseManifest.document (manifest : ReleaseManifest) : Json :=
  .obj
    [("artifacts", .arr (manifest.artifacts.map ReleaseArtifact.document)),
      ("created_at", .str manifest.createdAt),
      ("release_id", .str manifest.releaseId),
      ("release_manifest_schema_version",
        .num manifest.releaseManifestSchemaVersion.toNat),
      ("sbom_sha256", .str manifest.sbomSha256),
      ("source_revision", .str manifest.sourceRevision),
      ("version", .str manifest.version)]

def ReleaseManifest.form : CanonicalForm ReleaseManifest ReleaseManifest PaperError where
  decode := ReleaseManifest.decode
  convert := .ok
  validate := ReleaseManifest.validate
  document := ReleaseManifest.document
  notRead := notStrict "release manifest"
  notCanonical :=
    ⟨"release manifest must use its canonical JSON serialization"⟩

/-! ## Signatures and keys -/

def hexValue (c : Char) : Nat :=
  if isAsciiDigit c then c.toNat - 48 else c.toNat - 87

def hexPairs : List Char → List UInt8
  | high :: low :: rest =>
    UInt8.ofNat (16 * hexValue high + hexValue low) :: hexPairs rest
  | _ => []

def decodeHex (label value : String) : Result (List UInt8) := do
  refuseIf (value.utf8ByteSize % 2 ≠ 0 ∨ value.toList.all isLowerHexChar = false)
    (label ++ " must be lowercase hexadecimal")
  pure (hexPairs value.toList)

structure ReleaseSignature where
  releaseSignatureSchemaVersion : UInt32
  (releaseId manifestHash keyId signatureHex signedAt : String)

namespace ReleaseSignature

def validate (signature : ReleaseSignature) : Result Unit := do
  refuseIf (signature.releaseSignatureSchemaVersion ≠
      Commercial.releaseSignatureSchemaVersion)
    "unsupported release signature schema version"
  validateCanonicalId "release signature release_id" signature.releaseId
  validateCanonicalId "release signature key_id" signature.keyId
  validateSha256 "release signature manifest_hash" signature.manifestHash
  validateUtcTimestamp "release signed_at" signature.signedAt
  let bytes ← decodeHex "release signature" signature.signatureHex
  refuseIf (bytes.length ≠ 64)
    "release signature must be an Ed25519 64-byte lowercase hex value"

def decode (json : Json) : Option ReleaseSignature := do
  let members ← Json.strictMembers ["release_signature_schema_version",
    "release_id", "manifest_hash", "key_id", "signature_hex", "signed_at"] json
  let releaseSignatureSchemaVersion ←
    Json.readField Json.asU32 members "release_signature_schema_version"
  let releaseId ← Json.readField Json.asText members "release_id"
  let manifestHash ← Json.readField Json.asText members "manifest_hash"
  let keyId ← Json.readField Json.asText members "key_id"
  let signatureHex ← Json.readField Json.asText members "signature_hex"
  let signedAt ← Json.readField Json.asText members "signed_at"
  pure
    { releaseSignatureSchemaVersion, releaseId, manifestHash, keyId
      signatureHex, signedAt }

def document (signature : ReleaseSignature) : Json :=
  .obj
    [("key_id", .str signature.keyId), ("manifest_hash", .str signature.manifestHash),
      ("release_id", .str signature.releaseId),
      ("release_signature_schema_version",
        .num signature.releaseSignatureSchemaVersion.toNat),
      ("signature_hex", .str signature.signatureHex),
      ("signed_at", .str signature.signedAt)]

def form : CanonicalForm ReleaseSignature ReleaseSignature PaperError where
  decode := decode
  convert := .ok
  validate := validate
  document := document
  notRead := notStrict "release signature"
  notCanonical :=
    ⟨"release signature must use its canonical JSON serialization"⟩

end ReleaseSignature

structure TrustedReleaseKey where
  (keyId publicKeyHex : String)

namespace TrustedReleaseKey

def validate (key : TrustedReleaseKey) : Result Unit := do
  validateCanonicalId "trusted release key_id" key.keyId
  let bytes ← decodeHex "trusted release public key" key.publicKeyHex
  refuseIf (bytes.length ≠ 32)
    "trusted release public key must be 32-byte lowercase hex"

def decode (json : Json) : Option TrustedReleaseKey := do
  let members ← Json.strictMembers ["key_id", "public_key_hex"] json
  let keyId ← Json.readField Json.asText members "key_id"
  let publicKeyHex ← Json.readField Json.asText members "public_key_hex"
  pure { keyId, publicKeyHex }

def document (key : TrustedReleaseKey) : Json :=
  .obj [("key_id", .str key.keyId), ("public_key_hex", .str key.publicKeyHex)]

def form : CanonicalForm TrustedReleaseKey TrustedReleaseKey PaperError where
  decode := decode
  convert := .ok
  validate := validate
  document := document
  notRead := notStrict "trusted release key"
  notCanonical :=
    ⟨"trusted release key must use its canonical JSON serialization"⟩

end TrustedReleaseKey

/-! ## Self-host configurations -/

structure SelfHostConfig where
  selfHostConfigSchemaVersion : UInt32
  (instanceId tenantId storageRelativePath ledgerRelativePath : String)
  (retentionPolicyId releaseManifestHash releaseSignatureHash : String)
  (trustedReleaseKeyId secretProviderKind bindAddress : String)

namespace SelfHostConfig

def validate (config : SelfHostConfig) : Result Unit := do
  refuseIf (config.selfHostConfigSchemaVersion ≠ Commercial.selfHostConfigSchemaVersion)
    "unsupported self-host configuration schema version"
  validateCanonicalId "self-host instance_id" config.instanceId
  validateCanonicalId "self-host tenant_id" config.tenantId
  validateCanonicalId "self-host retention_policy_id" config.retentionPolicyId
  validateCanonicalId "self-host trusted_release_key_id"
    config.trustedReleaseKeyId
  validateCanonicalId "self-host secret_provider_kind"
    config.secretProviderKind
  let _ ← validateRelativePath config.storageRelativePath
  let _ ← validateRelativePath config.ledgerRelativePath
  refuseIf (config.storageRelativePath = config.ledgerRelativePath)
    "self-host storage and ledger paths must be distinct"
  validateSha256 "self-host release_manifest_hash" config.releaseManifestHash
  validateSha256 "self-host release_signature_hash" config.releaseSignatureHash
  refuseIf (config.secretProviderKind ≠ "managed_command" ∨
      config.bindAddress ∉ ["127.0.0.1", "::1"])
    ("self-host deployment requires managed_command secrets and a loopback " ++
      "bind address")

def decode (json : Json) : Option SelfHostConfig := do
  let members ← Json.strictMembers ["self_host_config_schema_version",
    "instance_id", "tenant_id", "storage_relative_path",
    "ledger_relative_path", "retention_policy_id", "release_manifest_hash",
    "release_signature_hash", "trusted_release_key_id", "secret_provider_kind",
    "bind_address"] json
  let selfHostConfigSchemaVersion ←
    Json.readField Json.asU32 members "self_host_config_schema_version"
  let instanceId ← Json.readField Json.asText members "instance_id"
  let tenantId ← Json.readField Json.asText members "tenant_id"
  let storageRelativePath ←
    Json.readField Json.asText members "storage_relative_path"
  let ledgerRelativePath ←
    Json.readField Json.asText members "ledger_relative_path"
  let retentionPolicyId ←
    Json.readField Json.asText members "retention_policy_id"
  let releaseManifestHash ←
    Json.readField Json.asText members "release_manifest_hash"
  let releaseSignatureHash ←
    Json.readField Json.asText members "release_signature_hash"
  let trustedReleaseKeyId ←
    Json.readField Json.asText members "trusted_release_key_id"
  let secretProviderKind ←
    Json.readField Json.asText members "secret_provider_kind"
  let bindAddress ← Json.readField Json.asText members "bind_address"
  pure
    { selfHostConfigSchemaVersion, instanceId, tenantId, storageRelativePath
      ledgerRelativePath, retentionPolicyId, releaseManifestHash
      releaseSignatureHash, trustedReleaseKeyId, secretProviderKind
      bindAddress }

def document (config : SelfHostConfig) : Json :=
  .obj
    [("bind_address", .str config.bindAddress), ("instance_id", .str config.instanceId),
      ("ledger_relative_path", .str config.ledgerRelativePath),
      ("release_manifest_hash", .str config.releaseManifestHash),
      ("release_signature_hash", .str config.releaseSignatureHash),
      ("retention_policy_id", .str config.retentionPolicyId),
      ("secret_provider_kind", .str config.secretProviderKind),
      ("self_host_config_schema_version",
        .num config.selfHostConfigSchemaVersion.toNat),
      ("storage_relative_path", .str config.storageRelativePath),
      ("tenant_id", .str config.tenantId),
      ("trusted_release_key_id", .str config.trustedReleaseKeyId)]

def form : CanonicalForm SelfHostConfig SelfHostConfig PaperError where
  decode := decode
  convert := .ok
  validate := validate
  document := document
  notRead := notStrict "self-host configuration"
  notCanonical :=
    ⟨"self-host configuration must use canonical JSON serialization"⟩

end SelfHostConfig

end Follon.Commercial
