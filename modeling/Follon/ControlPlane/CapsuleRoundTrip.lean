import Follon.ControlPlane.BundleIdentity
import Follon.ControlPlane.Capsule

/-!
# Sealed capsules read back

Every check of a reader was made of the contents that were sealed, but for the
sizes: a writer has no limit, and a reader refuses a member beyond its own.
-/

namespace Follon.ControlPlane

open Foundation Domain

/-! ## The manifest reads back -/

section
variable {V : Type} [SerdeValue V]

theorem get_eq_some {α : Type} {members : List (String × α)} {name : String}
    {a : α} (hnodup : (members.map (·.1)).Nodup) :
    SerdeValue.get members name = some a ↔ (name, a) ∈ members := by
  induction members with
  | nil => simp [SerdeValue.get]
  | cons member rest ih =>
    rw [map_cons, nodup_cons] at hnodup
    obtain ⟨hfresh, hnodup⟩ := hnodup
    have hrest := ih hnodup
    rw [SerdeValue.get] at hrest ⊢
    by_cases hname : member.1 = name
    · rw [List.find?_cons_of_pos (by simpa using hname)]
      subst hname
      simp only [Option.map_some, Option.some.injEq, mem_cons]
      constructor
      · rintro rfl
        exact .inl rfl
      · rintro (hsame | hmem)
        · rw [← hsame]
        · exact absurd (mem_map_of_mem hmem) hfresh
    · rw [List.find?_cons_of_neg (by simpa using hname), hrest,
        mem_cons]
      constructor
      · exact .inr
      · rintro (rfl | hmem)
        · exact absurd rfl hname
        · exact hmem

structure StrategyCapsuleManifest.Complete
    (manifest : StrategyCapsuleManifest) : Prop where
  texts : ∀ field value, (field, .str value) ∈ manifest.members → value ≠ ""
  packagedAt : isUtcTimestamp manifest.packagedAt = true

theorem StrategyCapsuleManifest.members_sorted (manifest : StrategyCapsuleManifest) :
    (manifest.members.map (·.1)).Pairwise (· < ·) := by
  change manifestFields.Pairwise (· < ·)
  decide

theorem StrategyCapsuleManifest.plain (manifest : StrategyCapsuleManifest) :
    (Json.obj manifest.members).Plain ∧
      (Json.obj manifest.members).Nested 127 := by
  constructor
  · apply Json.Plain.obj manifest.members_sorted
    simp only [members, forall_mem_cons, not_mem_nil, false_implies,
      implies_true, and_true]
    exact ⟨.str _, .str _, .num (by decide), .str _, .str _, .str _, .str _,
      .str _, .str _, .str _, .str _, .str _⟩
  · apply Json.Nested.obj
    simp only [members, forall_mem_cons, not_mem_nil, false_implies,
      implies_true, and_true]
    exact ⟨.str _, .str _, .num _, .str _, .str _, .str _, .str _, .str _,
      .str _, .str _, .str _, .str _⟩

theorem StrategyCapsuleManifest.parse_toJson
    {manifest : StrategyCapsuleManifest} (h : manifest.Complete)
    (hserde : SerdeValue.Lawful V) :
    StrategyCapsuleManifest.parse V (manifest.toJson V) = .ok manifest := by
  obtain ⟨hplain, hnested⟩ := manifest.plain
  have hsorted := manifest.members_sorted
  have htext (field value context : String)
      (hmember : (field, .str value) ∈ manifest.members) :
      stringField (manifest.members.map fun member =>
        (member.1, SerdeValue.ofJson (V := V) member.2)) field context
        = .ok value :=
    stringField_of_mem hmember hsorted (h.texts field value hmember) hserde
  have hversion : (SerdeValue.get (manifest.members.map fun member =>
      (member.1, SerdeValue.ofJson (V := V) member.2))
        "capsule_schema_version").bind SerdeValue.asU64
      = some capsuleSchemaVersion := by
    have hmember : ("capsule_schema_version",
        Json.num capsuleSchemaVersion.toNat) ∈ manifest.members := by
      simp [members]
    rw [SerdeValue.get_map hmember hsorted]
    exact hserde.asU64_num _
  rw [toJson, hserde.toVec_ofJson _ hplain, parse,
    canonicalJsonObject_of_plain hplain hnested hserde]
  simp only [bind_eq_ok, okOr_eq_ok, refuseIf_eq_ok, Except.ok.injEq]
  refine ⟨_, rfl, _, hserde.asObject_obj _ hplain, (),
    requireExactJsonFields_of_names (by rfl) hsorted _, (),
    not_not.mpr hversion, manifest.capsuleId, htext _ _ _ (by simp [members]),
    manifest.strategyId, htext _ _ _ (by simp [members]),
    manifest.strategyVersion, htext _ _ _ (by simp [members]),
    manifest.bundleSha256, htext _ _ _ (by simp [members]),
    manifest.configurationSha256, htext _ _ _ (by simp [members]),
    manifest.dependencyLockfileSha256, htext _ _ _ (by simp [members]),
    manifest.runtimeTarget, htext _ _ _ (by simp [members]),
    manifest.evaluationReceiptId, htext _ _ _ (by simp [members]),
    manifest.replayInstructionCommand, htext _ _ _ (by simp [members]),
    manifest.exportDisposition.asStr, htext _ _ _ (by simp [members]),
    manifest.exportDisposition, CapsuleExportDisposition.parse_asStr _,
    manifest.packagedAt, htext _ _ _ (by simp [members]), (),
    validateUtcTimestamp_eq_ok.mpr h.packagedAt, rfl⟩

end

/-! ## Directories -/

def listed (member : String × List UInt8) : List UInt8 × DirectoryEntry :=
  (member.1.toUTF8.toList, .file member.2)

theorem readMember_listed (member : String × List UInt8) :
    readMember (listed member) = .ok member := by
  simp only [readMember, listed, bind_eq_ok, okOr_eq_ok]
  exact ⟨member.1, fromUTF8_utf8 member.1, rfl⟩

theorem sortNames_perm {names names' : List String} (h : names.Perm names') :
    sortNames names = sortNames names' := by
  apply List.Perm.eq_of_pairwise' (r := fun left right : String => left ≤ right)
  · exact pairwise_insertionSort _ _
  · exact pairwise_insertionSort _ _
  · exact (perm_insertionSort _ names).trans
      (h.trans (perm_insertionSort _ names').symm)

theorem readLimited_eq_ok {members : List (String × List UInt8)}
    {name : String} {limit : Nat} {contents : List UInt8}
    (hnodup : (members.map (·.1)).Nodup)
    (hmember : (name, contents) ∈ members) {found : List UInt8} :
    readLimited members name limit = .ok found ↔
      contents.length ≤ limit ∧ contents = found := by
  simp only [readLimited, bind_eq_ok, okOr_eq_ok, refuseIf_eq_ok, exists_const,
    pure_eq_ok, Nat.not_lt, (get_eq_some hnodup).mpr hmember, Option.some.injEq]
  constructor
  · rintro ⟨_, rfl, hsize, rfl⟩
    exact ⟨hsize, rfl⟩
  · rintro ⟨hsize, rfl⟩
    exact ⟨_, rfl, hsize, rfl⟩

/-! ## Sealing -/

section
variable {V : Type} [SerdeValue V] [ContentHash]

variable {packagedAt command : String} {reproduced : List UInt8}

theorem CapsuleContents.checkManifest_of_seal {contents : CapsuleContents}
    {manifest : StrategyCapsuleManifest}
    (h : contents.«seal» packagedAt command reproduced = .ok manifest) :
    contents.checkManifest manifest = .ok () := by
  simp only [«seal», bind_eq_ok, validateUtcTimestamp_eq_ok, refuseIf_eq_ok,
    exists_const] at h
  obtain ⟨hpackaged, _, _, h⟩ := h
  obtain rfl := Except.ok.inj h
  simp only [checkManifest, bind_eq_ok, checkAll_eq_ok, refuseIf_eq_ok,
    exists_const, validateUtcTimestamp_eq_ok]
  refine ⟨?_, by simp, hpackaged⟩
  simp [bindings, checkBinding, refuseIf]

omit [ContentHash] in
theorem stringField_ne_empty {object : List (String × V)} {field context value : String}
    (h : stringField object field context = .ok value) : value ≠ "" := by
  simp only [stringField, okOr_eq_ok, filter_eq_some_iff] at h
  simpa using h.2

theorem CapsuleContents.new_texts {lockBytes bundle configuration
    receipt : List UInt8} {contents : CapsuleContents}
    (h : CapsuleContents.new V lockBytes bundle configuration receipt
      = .ok contents) : contents.strategyId ≠ "" ∧ contents.strategyVersion ≠ "" ∧
      contents.lock.runtime ≠ "" ∧ contents.lockBytes = lockBytes ∧
      contents.bundle = bundle ∧ contents.configuration = configuration ∧
      contents.receipt = receipt := by
  simp only [new, bind_eq_ok] at h
  obtain ⟨lock, hlock, _, _, _, _, _, _, _, hid, _, hversion, _, _, _, _, _, _, h⟩ := h
  obtain rfl := Except.ok.inj h
  refine ⟨stringField_ne_empty hid, stringField_ne_empty hversion, ?_, rfl, rfl, rfl, rfl⟩
  have hbar := isRuntime_bar (StrategyBundleLock.parse_sound hlock).runtime
  intro hempty
  rw [hempty] at hbar
  contradiction

omit [ContentHash] in
theorem append_ne_empty {left : String} (h : left ≠ "") (right : String) :
    left ++ right ≠ "" := by
  intro hempty
  exact h (String.append_eq_empty_iff.mp hempty).1

theorem CapsuleContents.seal_complete (hhash : PrintsDigests)
    {contents : CapsuleContents} (hid : contents.strategyId ≠ "")
    (hversion : contents.strategyVersion ≠ "") (hruntime : contents.lock.runtime ≠ "")
    {manifest : StrategyCapsuleManifest}
    (h : contents.«seal» packagedAt command reproduced = .ok manifest) :
    manifest.Complete := by
  simp only [«seal», bind_eq_ok, validateUtcTimestamp_eq_ok, refuseIf_eq_ok,
    exists_const] at h
  obtain ⟨hpackaged, hcommand, _, h⟩ := h
  obtain rfl := Except.ok.inj h
  have hcommand' : command ≠ "" := by
    rintro rfl
    exact hcommand (by decide)
  have hstamp : packagedAt ≠ "" := by
    rintro rfl
    exact absurd hpackaged (by decide)
  refine ⟨?_, hpackaged⟩
  intro field value hmember
  simp only [StrategyCapsuleManifest.members, mem_cons, Prod.mk.injEq,
    Json.str.injEq, not_mem_nil, or_false, reduceCtorEq, and_false,
    false_or] at hmember
  obtain ⟨_, rfl⟩ | ⟨_, rfl⟩ | ⟨_, rfl⟩ | ⟨_, rfl⟩ | ⟨_, rfl⟩ | ⟨_, rfl⟩ |
    ⟨_, rfl⟩ | ⟨_, rfl⟩ | ⟨_, rfl⟩ | ⟨_, rfl⟩ | ⟨_, rfl⟩ := hmember
  · exact hexDigest_ne_empty hhash _
  · rw [capsuleId, String.append_assoc, String.append_assoc]
    exact append_ne_empty (by decide) _
  · exact hexDigest_ne_empty hhash _
  · exact hexDigest_ne_empty hhash _
  · exact append_ne_empty (by decide) _
  · decide
  · exact hstamp
  · exact hcommand'
  · exact hruntime
  · exact hid
  · exact hversion

structure CapsuleContents.WithinLimits (V : Type) [SerdeValue V]
    (contents : CapsuleContents) (manifest : StrategyCapsuleManifest) :
    Prop where
  manifest : (manifest.toJson V).length ≤ maxDocumentBytes
  lock : contents.lockBytes.length ≤ maxDocumentBytes
  bundle : contents.bundle.length ≤ maxBundleBytes
  configuration : contents.configuration.length ≤ maxDocumentBytes
  receipt : contents.receipt.length ≤ maxDocumentBytes

theorem manifest_within {members : List (String × List UInt8)}
    (hnodup : (members.map (·.1)).Nodup) {bytes : List UInt8}
    (hmember : (capsuleManifestFile, bytes) ∈ members) {capsule : SealedStrategyCapsule}
    (h : readStrategyCapsule V (.directory (members.map listed))
      = .ok capsule) : bytes.length ≤ maxDocumentBytes := by
  rw [readStrategyCapsule,
    collect_map fun member _ => readMember_listed member] at h
  change readMembers V members = _ at h
  simp only [readMembers, bind_eq_ok,
    readLimited_eq_ok hnodup hmember] at h
  obtain ⟨_, _, _, ⟨hsize, _⟩, _⟩ := h
  exact hsize

/-- Every sealed capsule can be written, and in whatever order its directory is
listed it reads back as it was sealed if and only if no member is beyond the
limit of the reader. -/
theorem sealed_capsule_reads_back_iff (hserde : SerdeValue.Lawful V)
    (hhash : PrintsDigests) {lockBytes bundle configuration receipt : List UInt8}
    {contents : CapsuleContents}
    (hnew : CapsuleContents.new V lockBytes bundle configuration receipt
      = .ok contents) {packagedAt command : String} {reproduced : List UInt8}
    {manifest : StrategyCapsuleManifest}
    (hseal : contents.«seal» packagedAt command reproduced = .ok manifest) :
    ∃ written, contents.writeSealed V manifest = .ok written ∧
      ∀ members : List (String × List UInt8), members.Perm written →
        (readStrategyCapsule V (.directory (members.map listed))
            = .ok { manifest, contents, signature := none } ↔
          contents.WithinLimits V manifest) := by
  have hcheck := CapsuleContents.checkManifest_of_seal hseal
  obtain ⟨hid, hversion, hruntime, hlock, hbundle, hconfiguration, hreceipt⟩ :=
    CapsuleContents.new_texts hnew
  have hcomplete := CapsuleContents.seal_complete hhash hid hversion hruntime
    hseal
  have hparse := StrategyCapsuleManifest.parse_toJson hcomplete hserde
  refine ⟨_, by rw [CapsuleContents.writeSealed, hcheck]; rfl, ?_⟩
  intro members hperm
  have hnames : (members.map (·.1)).Perm [capsuleBundleFile, capsuleLockFile,
      capsuleConfigurationFile, capsuleReceiptFile, capsuleManifestFile] :=
    hperm.map (·.1)
  have hnodup : (members.map (·.1)).Nodup := hnames.nodup_iff.mpr (by decide)
  have hunsigned : capsuleSignatureFile ∉ members.map (·.1) := by
    rw [hnames.mem_iff]
    decide
  have hexpected : sortNames ((members.map (·.1)).filter
      (· != capsuleSignatureFile)) = expectedMembers := by
    rw [sortNames_perm (hnames.filter _)]
    decide
  have hread (name : String) (contents : List UInt8) (limit : Nat)
      (hmember : (name, contents) ∈ members) (found : List UInt8) :
      readLimited members name limit = .ok found ↔
        contents.length ≤ limit ∧ contents = found :=
    readLimited_eq_ok hnodup hmember
  rw [readStrategyCapsule, collect_map fun member _ => readMember_listed member]
  change readMembers V members = _ ↔ _
  simp only [readMembers, bind_eq_ok, refuseIf_eq_ok, exists_const, not_not,
    readSignature, if_neg hunsigned,
    hread capsuleManifestFile (manifest.toJson V) maxDocumentBytes
      (hperm.mem_iff.mpr (by simp)),
    hread capsuleLockFile contents.lockBytes maxDocumentBytes
      (hperm.mem_iff.mpr (by simp)),
    hread capsuleBundleFile contents.bundle maxBundleBytes
      (hperm.mem_iff.mpr (by simp)),
    hread capsuleConfigurationFile contents.configuration maxDocumentBytes
      (hperm.mem_iff.mpr (by simp)),
    hread capsuleReceiptFile contents.receipt maxDocumentBytes
      (hperm.mem_iff.mpr (by simp))]
  constructor
  · rintro ⟨_, _, ⟨hmanifest, rfl⟩, _, _, _, ⟨hlock, rfl⟩, _, ⟨hbundle, rfl⟩, _,
      ⟨hconfiguration, rfl⟩, _, ⟨hreceipt, rfl⟩, _⟩
    exact ⟨hmanifest, hlock, hbundle, hconfiguration, hreceipt⟩
  · intro h
    refine ⟨hexpected, _, ⟨h.manifest, rfl⟩, manifest, hparse, _,
      ⟨h.lock, rfl⟩, _, ⟨h.bundle, rfl⟩, _, ⟨h.configuration, rfl⟩, _,
      ⟨h.receipt, rfl⟩, contents, ?_, (), hcheck, none, rfl, rfl⟩
    rw [hlock, hbundle, hconfiguration, hreceipt]
    exact hnew

end

namespace CapsuleRun

open BundleRun

attribute [local instance] recordedDigests Json.integers

def archive : List UInt8 := frameBundle [strategyFile] [sdkFile] runtime

def lockBytes : List UInt8 :=
  (StrategySdk.lockDocument [("strategy", [strategyFile]), ("sdk", [sdkFile])]
    "strategy.py" "Demo" runtime (ContentHash.hexDigest archive)).toBytes

def configurationDocument : Json :=
  .obj [("strategy", .obj
    [("strategy_id", .str "strategy.demo"), ("strategy_version", .str "1.0.0")])]

def receiptDocument : Json :=
  .obj [("configuration_hash",
    .str (ContentHash.hexDigest configurationDocument.toBytes))]

def contents : CapsuleContents where
  lock := lockOf [strategyFile] [sdkFile] "strategy.py" "Demo" runtime
    (ContentHash.hexDigest archive)
  sources := [strategyFile.inNamespace "strategy", sdkFile.inNamespace "sdk"]
  strategyId := "strategy.demo"
  strategyVersion := "1.0.0"
  lockBytes := lockBytes
  bundle := archive
  configuration := configurationDocument.toBytes
  receipt := receiptDocument.toBytes

theorem lockable {source : SourceFile} (hpath : isBundlePath source.path = true)
    (hlength : source.contents.length < 256 ^ 8) : Lockable [source] where
  nonempty := by simp
  ascending := List.pairwise_singleton _ _
  paths := by simpa using hpath
  fits := by simpa using ⟨length_path_le hpath, hlength⟩

theorem request : LockRequest [strategyFile] [sdkFile] "strategy.py" "Demo"
    runtime (ContentHash.hexDigest archive) where
  sources := lockable (by decide) (by decide)
  sdkSources := lockable (by decide) (by decide)
  listed := by decide
  identifier := by decide
  valid := by decide
  digest := printsDigests _

theorem new_contents :
    CapsuleContents.new Json lockBytes archive configurationDocument.toBytes
      receiptDocument.toBytes = .ok contents := by
  have hlock : StrategyBundleLock.parse Json lockBytes = .ok contents.lock :=
    request.parse Json.integers_lawful printsDigests
  have hfits : ∀ source ∈ [strategyFile] ++ [sdkFile], source.Fits := by
    intro source hsource
    obtain hmem | hmem := mem_append.mp hsource
    · exact request.sources.fits source hmem
    · exact request.sdkSources.fits source hmem
  have hruntime : runtime.toUTF8.toList.length < 256 ^ 4 := by
    rw [length_utf8]
    decide
  have hopen : openStrategyBundle archive contents.lock
      = .ok contents.sources :=
    (openStrategyBundle_eq_ok rfl).mpr
      ⟨rfl, hruntime, _, _, hfits, rfl, rfl, rfl, rfl⟩
  have hconfiguration : SerdeValue.fromSlice (V := Json)
      configurationDocument.toBytes = .ok configurationDocument := by
    apply Json.fromBytes_toBytes
    apply Json.Nested.obj
    rw [List.forall_mem_singleton]
    apply Json.Nested.obj
    simpa using ⟨.str _, .str _⟩
  have hreceipt : SerdeValue.fromSlice (V := Json) receiptDocument.toBytes
      = .ok receiptDocument :=
    Json.fromBytes_toBytes (.obj (by simpa using .str _))
  have hstrategy : (SerdeValue.member configurationDocument "strategy").bind
      SerdeValue.asObject = some [("strategy_id", Json.str "strategy.demo"),
        ("strategy_version", .str "1.0.0")] := rfl
  have hid : stringField [("strategy_id", Json.str "strategy.demo"),
      ("strategy_version", .str "1.0.0")] "strategy_id"
        "configuration strategy" = .ok "strategy.demo" := rfl
  have hversion : stringField [("strategy_id", Json.str "strategy.demo"),
      ("strategy_version", .str "1.0.0")] "strategy_version"
        "configuration strategy" = .ok "1.0.0" := rfl
  have hbound : (SerdeValue.member receiptDocument "configuration_hash").bind
      SerdeValue.asStr
      = some (ContentHash.hexDigest configurationDocument.toBytes) := rfl
  simp only [CapsuleContents.new, CapsuleContents.parseDocument, hlock, hopen,
    hconfiguration, hreceipt, bind_eq_ok, okOr_eq_ok, refuseIf_eq_ok, Except.ok.injEq,
    exists_eq_left', hstrategy, Option.some.injEq, hid, hversion, hbound,
    not_true_eq_false, ne_eq, not_false_eq_true, exists_const, validateCanonicalId_eq_ok]
  exact ⟨by decide, trivial, rfl⟩

def manifest (command : String) : StrategyCapsuleManifest where
  capsuleId := contents.capsuleId
  strategyId := contents.strategyId
  strategyVersion := contents.strategyVersion
  bundleSha256 := ContentHash.hexDigest archive
  configurationSha256 := ContentHash.hexDigest contents.configuration
  dependencyLockfileSha256 := ContentHash.hexDigest lockBytes
  runtimeTarget := runtime
  evaluationReceiptId := contents.evaluationReceiptId
  replayInstructionCommand := command
  exportDisposition := .verifiedPortable
  packagedAt := "2026-01-01T00:00:00Z"

theorem seal_contents {command : String} (h : (trim command).isEmpty = false) :
    contents.«seal» "2026-01-01T00:00:00Z" command contents.receipt
      = .ok (manifest command) := by
  simp only [CapsuleContents.«seal», bind_eq_ok, validateUtcTimestamp_eq_ok,
    refuseIf_eq_ok, exists_const, ne_eq, not_not]
  exact ⟨by decide, by simpa using h, trivial, rfl⟩

/-- A small capsule reads back if and only if it is within the limits. -/
theorem small_capsule_reads_back :
    ∃ written, contents.writeSealed Json (manifest "replay") = .ok written ∧
      ∀ members : List (String × List UInt8), members.Perm written →
        (readStrategyCapsule Json (.directory (members.map listed))
            = .ok { manifest := manifest "replay", contents
                    signature := none } ↔
          contents.WithinLimits Json (manifest "replay")) :=
  sealed_capsule_reads_back_iff Json.integers_lawful printsDigests new_contents
    (seal_contents (by decide))

def instruction (n : Nat) : String := String.ofList (List.replicate n 'a')

theorem trim_instruction {n : Nat} (h : 0 < n) :
    (trim (instruction n)).isEmpty = false := by
  have hdrop : (List.replicate n 'a').dropWhile isWhiteSpace
      = List.replicate n 'a' := by
    cases n with
    | zero => rfl
    | succ n =>
      rw [List.replicate_succ, List.dropWhile_cons_of_neg (by decide)]
  have htrim : trim (instruction n) = instruction n := by
    rw [trim, trimChars, instruction, toList_ofList, hdrop,
      List.reverse_replicate, hdrop, List.reverse_replicate]
  rw [htrim, String.isEmpty_eq_false_iff]
  intro hempty
  have hlength := congrArg (·.toList.length) hempty
  simp only [instruction, toList_ofList, List.length_replicate,
    String.toList_empty, List.length_nil] at hlength
  omega

theorem length_manifest (n : Nat) :
    n < ((manifest (instruction n)).toJson Json).length := by
  have hmember : ("replay_instruction_command", Json.str (instruction n)) ∈
      (manifest (instruction n)).members := by
    simp [StrategyCapsuleManifest.members, manifest]
  have hlength := Json.length_lt_toBytes hmember
  rw [instruction, toList_ofList, List.length_replicate] at hlength
  exact hlength

/-- A capsule with a replay instruction of 1 MiB is sealed and written, and is
never read. -/
theorem long_instruction_unreadable :
    CapsuleContents.new Json lockBytes archive configurationDocument.toBytes
        receiptDocument.toBytes = .ok contents ∧
      contents.«seal» "2026-01-01T00:00:00Z" (instruction maxDocumentBytes)
          contents.receipt = .ok (manifest (instruction maxDocumentBytes)) ∧
      ∃ written, contents.writeSealed Json
          (manifest (instruction maxDocumentBytes)) = .ok written ∧
        ∀ capsule, readStrategyCapsule Json (.directory (written.map listed))
          ≠ .ok capsule := by
  have hseal := seal_contents (trim_instruction
    (show 0 < maxDocumentBytes by decide))
  refine ⟨new_contents, hseal, _, by
    rw [CapsuleContents.writeSealed, CapsuleContents.checkManifest_of_seal hseal]
    rfl, ?_⟩
  intro capsule h
  have hmember : (capsuleManifestFile,
        (manifest (instruction maxDocumentBytes)).toJson Json) ∈
      [(capsuleBundleFile, contents.bundle), (capsuleLockFile, contents.lockBytes),
        (capsuleConfigurationFile, contents.configuration),
        (capsuleReceiptFile, contents.receipt),
        (capsuleManifestFile,
          (manifest (instruction maxDocumentBytes)).toJson Json)] := by
    simp
  have hwithin := manifest_within (by
    change ([capsuleBundleFile, capsuleLockFile, capsuleConfigurationFile,
      capsuleReceiptFile, capsuleManifestFile] : List String).Nodup
    decide) hmember h
  exact absurd (length_manifest maxDocumentBytes) (Nat.not_lt.mpr hwithin)

end CapsuleRun

end Follon.ControlPlane
