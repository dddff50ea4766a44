import Follon.Commercial.Documents

/-!
# One encoding a document

The five readers agree with the five writers: a valid document is read back
from what is written of it, and nothing else is accepted for it.
-/

namespace Follon.Commercial

open Foundation Domain

/-! ## Retention plans -/

@[simp] theorem DataClassification.parse_asStr (value : DataClassification) :
    DataClassification.parse value.asStr = .ok value := by
  cases value <;> rfl

@[simp] theorem DeletionReason.parse_asStr (value : DeletionReason) :
    DeletionReason.parse value.asStr = .ok value := by
  cases value <;> rfl

def RetentionCandidate.Fits (candidate : RetentionCandidate) : Prop :=
  candidate.expectedBytes < 2 ^ 64

def RetentionPlan.Fits (plan : RetentionPlan) : Prop :=
  ∀ candidate ∈ plan.candidates, candidate.Fits

def RetentionCandidate.toDocument (candidate : RetentionCandidate) :
    RetentionCandidateDocument where
  assetId := candidate.assetId
  relativePath := candidate.relativePath
  classification := candidate.classification.asStr
  reason := candidate.reason.asStr
  expectedHash := candidate.expectedHash
  expectedBytes := UInt64.ofNat candidate.expectedBytes

def RetentionPlan.toDocument (plan : RetentionPlan) : RetentionPlanDocument where
  retentionPlanSchemaVersion := UInt32.ofNat plan.retentionPlanSchemaVersion
  tenantId := plan.tenantId
  privacyRequestId := plan.privacyRequestId
  asOf := plan.asOf
  candidates := plan.candidates.map RetentionCandidate.toDocument
  withheldAssetIds := plan.withheldAssetIds

variable {candidate : RetentionCandidate}

theorem RetentionCandidate.decode_document (h : candidate.Fits)
    : RetentionCandidateDocument.decode candidate.document =
      some candidate.toDocument := by
  have hbytes : Json.asU64 (.num candidate.expectedBytes) =
      some (UInt64.ofNat candidate.expectedBytes) := by
    unfold RetentionCandidate.Fits at h
    rw [Json.asU64, if_pos (by omega), Int.toNat_natCast]
  simp only [RetentionCandidateDocument.decode, bind_eq_bind,
    bind_eq_some_iff]
  exact ⟨_, Json.strictMembers_obj (by simp) (by simp), candidate.assetId,
    by simp, candidate.relativePath, by simp, candidate.classification.asStr,
    by simp, candidate.reason.asStr, by simp, candidate.expectedHash, by simp,
    UInt64.ofNat candidate.expectedBytes, by simp [hbytes], rfl⟩

theorem RetentionCandidate.candidate_toDocument (h : candidate.Fits)
    : candidate.toDocument.candidate = .ok candidate := by
  simp only [RetentionCandidateDocument.candidate, RetentionCandidate.toDocument,
    DataClassification.parse_asStr, DeletionReason.parse_asStr,
    UInt64.toNat_ofNat_of_lt' h]
  rfl

@[simp] theorem asOptionalText_optionalJsonString (value : Option String) :
    Json.asOptionalText (some (optionalJsonString value)) = some value := by
  cases value <;> rfl

theorem RetentionPlan.validate_version {plan : RetentionPlan}
    (h : plan.validate = .ok ()) : plan.retentionPlanSchemaVersion = 1 := by
  simp only [RetentionPlan.validate, bind_eq_ok, refuseIf_eq_ok, ne_eq,
    not_not] at h
  obtain ⟨-, hversion, -⟩ := h
  exact hversion

theorem RetentionPlan.nested_document (plan : RetentionPlan) :
    plan.document.Nested 127 := by
  refine .obj ?_
  simp only [forall_mem_cons, not_mem_nil, false_implies, implies_true, and_true]
  refine ⟨.str _, Json.nested_map (fun _ => Json.nested_record rfl) _, ?_,
    .num _, .str _, Json.nested_map (fun text => .str text) _⟩
  cases plan.privacyRequestId with
  | none => exact .null
  | some value => exact .str value

theorem RetentionPlan.form_lawful : RetentionPlan.form.Lawful RetentionPlan.Fits where
  nested := RetentionPlan.nested_document
  reads plan hfits hvalid := by
    have hversion := RetentionPlan.validate_version hvalid
    refine ⟨plan.toDocument, ?_, ?_⟩
    · change RetentionPlanDocument.decode plan.document = _
      have hcandidates := @Json.asList_map _ _ RetentionCandidateDocument.decode
        RetentionCandidate.document RetentionCandidate.toDocument
        plan.candidates fun candidate hmem =>
          RetentionCandidate.decode_document (hfits candidate hmem)
      have hwithheld := @Json.asList_map _ _ Json.asText Json.str id
        plan.withheldAssetIds fun _ _ => rfl
      rw [List.map_id] at hwithheld
      have hnumber : Json.asU32 (.num plan.retentionPlanSchemaVersion) =
          some (UInt32.ofNat plan.retentionPlanSchemaVersion) := by
        rw [hversion]
        rfl
      have hrequest : Json.asOptionalText (Json.field
          [("as_of", Json.str plan.asOf), ("candidates",
              .arr (plan.candidates.map RetentionCandidate.document)),
            ("privacy_request_id", optionalJsonString plan.privacyRequestId),
            ("retention_plan_schema_version",
              .num plan.retentionPlanSchemaVersion),
            ("tenant_id", .str plan.tenantId),
            ("withheld_asset_ids",
              .arr (plan.withheldAssetIds.map Json.str))]
          "privacy_request_id") = some plan.privacyRequestId := by
        rw [Json.field_cons_ne (by decide), Json.field_cons_ne (by decide),
          Json.field_cons_self, asOptionalText_optionalJsonString]
      simp only [RetentionPlanDocument.decode, bind_eq_bind,
        bind_eq_some_iff]
      exact ⟨_, Json.strictMembers_obj (by simp) (by simp),
        UInt32.ofNat plan.retentionPlanSchemaVersion, by simp [hnumber],
        plan.tenantId, by simp, plan.privacyRequestId, hrequest, plan.asOf,
        by simp, plan.candidates.map RetentionCandidate.toDocument,
        by simp [hcandidates], plan.withheldAssetIds, by simp [hwithheld],
        rfl⟩
    · change plan.toDocument.plan = _
      have hcandidates := @collect_map _ _ RetentionCandidateDocument.candidate
        RetentionCandidate.toDocument plan.candidates fun candidate hmem =>
          RetentionCandidate.candidate_toDocument (hfits candidate hmem)
      simp only [RetentionPlanDocument.plan, RetentionPlan.toDocument,
        hcandidates, hversion]
      obtain ⟨version, tenantId, requestId, asOf, candidates, withheld⟩ := plan
      change version = 1 at hversion
      rw [hversion]
      rfl

/-! ## Releases -/

theorem ReleaseArtifact.artifactOf_document (artifact : ReleaseArtifact) :
    ReleaseManifest.artifactOf artifact.document = some artifact := by
  simp only [ReleaseManifest.artifactOf, bind_eq_bind, bind_eq_some_iff]
  exact ⟨_, Json.strictMembers_obj (by simp) (by simp), artifact.artifactId, by
    simp, artifact.relativePath, by simp, artifact.sha256, by simp,
    artifact.bytes, by simp, rfl⟩

theorem ReleaseManifest.form_lawful : ReleaseManifest.form.Lawful fun _ => True where
  nested manifest := by
    refine .obj ?_
    simp only [forall_mem_cons, not_mem_nil, false_implies, implies_true, and_true]
    exact ⟨Json.nested_map (fun _ => Json.nested_record rfl) _, .str _, .str _,
      .num _, .str _, .str _, .str _⟩
  reads manifest _ _ := by
    refine ⟨manifest, ?_, rfl⟩
    change ReleaseManifest.decode manifest.document = _
    have hartifacts := @Json.asList_map _ _ ReleaseManifest.artifactOf
      ReleaseArtifact.document id manifest.artifacts
      fun artifact _ => ReleaseArtifact.artifactOf_document artifact
    rw [List.map_id] at hartifacts
    simp only [ReleaseManifest.decode, bind_eq_bind, bind_eq_some_iff]
    exact ⟨_, Json.strictMembers_obj (by simp) (by simp),
      manifest.releaseManifestSchemaVersion, by simp, manifest.releaseId, by
      simp, manifest.version, by simp, manifest.createdAt, by simp,
      manifest.sourceRevision, by simp, manifest.sbomSha256, by simp,
      manifest.artifacts, by simp [hartifacts], rfl⟩

theorem ReleaseSignature.form_lawful : ReleaseSignature.form.Lawful fun _ => True where
  nested _ := Json.nested_record rfl
  reads signature _ _ := by
    refine ⟨signature, ?_, rfl⟩
    change ReleaseSignature.decode signature.document = _
    simp only [ReleaseSignature.decode, bind_eq_bind, bind_eq_some_iff]
    exact ⟨_, Json.strictMembers_obj (by simp) (by simp),
      signature.releaseSignatureSchemaVersion, by simp, signature.releaseId, by
      simp, signature.manifestHash, by simp, signature.keyId, by simp,
      signature.signatureHex, by simp, signature.signedAt, by simp, rfl⟩

theorem TrustedReleaseKey.form_lawful : TrustedReleaseKey.form.Lawful fun _ => True where
  nested _ := Json.nested_record rfl
  reads key _ _ := by
    refine ⟨key, ?_, rfl⟩
    change TrustedReleaseKey.decode key.document = _
    simp only [TrustedReleaseKey.decode, bind_eq_bind, bind_eq_some_iff]
    exact ⟨_, Json.strictMembers_obj (by simp) (by simp), key.keyId, by simp,
      key.publicKeyHex, by simp, rfl⟩

theorem SelfHostConfig.form_lawful : SelfHostConfig.form.Lawful fun _ => True where
  nested _ := Json.nested_record rfl
  reads config _ _ := by
    refine ⟨config, ?_, rfl⟩
    change SelfHostConfig.decode config.document = _
    simp only [SelfHostConfig.decode, bind_eq_bind, bind_eq_some_iff]
    exact ⟨_, Json.strictMembers_obj (by simp) (by simp),
      config.selfHostConfigSchemaVersion, by simp, config.instanceId, by simp,
      config.tenantId, by simp, config.storageRelativePath, by simp,
      config.ledgerRelativePath, by simp, config.retentionPolicyId, by simp,
      config.releaseManifestHash, by simp, config.releaseSignatureHash, by
      simp, config.trustedReleaseKeyId, by simp, config.secretProviderKind, by
      simp, config.bindAddress, by simp, rfl⟩

/-! ## All documents -/

/-- Every signed or confirmed document has one encoding. -/
theorem documents_one_encoding [JsonText] [ContentHash] (hreads : JsonText.ReadsCompact) :
    RetentionPlan.form.OneEncoding RetentionPlan.Fits ∧
      (ReleaseManifest.form.OneEncoding fun _ => True) ∧
      (ReleaseSignature.form.OneEncoding fun _ => True) ∧
      (TrustedReleaseKey.form.OneEncoding fun _ => True) ∧
      SelfHostConfig.form.OneEncoding fun _ => True :=
  ⟨RetentionPlan.form_lawful.oneEncoding hreads,
    ReleaseManifest.form_lawful.oneEncoding hreads,
    ReleaseSignature.form_lawful.oneEncoding hreads,
    TrustedReleaseKey.form_lawful.oneEncoding hreads,
    SelfHostConfig.form_lawful.oneEncoding hreads⟩

namespace DocumentSample

@[reducible] def treeReader : JsonText where
  tree := Json.read
  refusal _ := "expected value at line 1 column 1"

attribute [local instance] treeReader

theorem readsCompact : JsonText.ReadsCompact := by
  intro value hnested
  exact Json.read_print Json.spells_compactChar hnested

def key : TrustedReleaseKey where
  keyId := "key-1"
  publicKeyHex :=
    "0000000000000000000000000000000000000000000000000000000000000000"

@[reducible] def contentHash : ContentHash := ⟨fun _ => key.publicKeyHex⟩

attribute [local instance] contentHash

/-- A key file is read as the key it was written from. -/
theorem documents_one_encoding_key : TrustedReleaseKey.form.parseCanonical
      (TrustedReleaseKey.form.canonicalJson key) = .ok key :=
  (documents_one_encoding readsCompact).2.2.2.1.roundTrip key trivial
    (by decide +kernel)

end DocumentSample

end Follon.Commercial
