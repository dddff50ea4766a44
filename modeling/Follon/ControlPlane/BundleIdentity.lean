import Follon.ControlPlane.BundleReadings
import Follon.ControlPlane.SourceTrees

/-!
# The lock of a bundle opens its archive

What the SDK hashes is the stream of the sorted sources, its lock is read as
written, and the stream opened under that lock is the sources again.
-/

namespace Follon.ControlPlane

open Foundation Domain

/-! ## Documents read back -/

section
variable {V : Type} [SerdeValue V]

variable {members : List (String × Json)}

theorem stringField_of_mem {field value context : String}
    (hmember : (field, .str value) ∈ members)
    (hsorted : (members.map (·.1)).Pairwise (· < ·)) (hvalue : value ≠ "")
    (hserde : SerdeValue.Lawful V) : stringField (members.map fun member =>
      (member.1, SerdeValue.ofJson (V := V) member.2)) field context
      = .ok value := by
  rw [stringField, SerdeValue.get_map hmember hsorted, bind_some,
    hserde.asStr_str, Option.filter_some_pos]
  · rfl
  · simpa using hvalue

theorem canonicalJsonObject_of_plain {value : Json} (hplain : value.Plain)
    (hnested : value.Nested 127) (hserde : SerdeValue.Lawful V) (context : String) :
    canonicalJsonObject value.toBytes context
      = .ok (SerdeValue.ofJson (V := V) value) := by
  rw [canonicalJsonObject, hserde.fromSlice_toBytes value hplain hnested]
  simp only [bind_eq_ok, refuseIf_eq_ok]
  exact ⟨(), not_not.mpr (hserde.toVec_ofJson value hplain), rfl⟩

theorem requireExactJsonFields_of_names {expected : List String}
    (hnames : members.map (·.1) = expected)
    (hsorted : expected.Pairwise (· < ·)) (context : String) :
    requireExactJsonFields (members.map fun member =>
      (member.1, SerdeValue.ofJson (V := V) member.2)) expected context
      = .ok () := by
  apply refuseIf_eq_ok.mpr
  subst hnames
  simp only [List.length_map, ne_eq, not_true_eq_false, false_or,
    not_eq_true, List.any_eq_false]
  intro field hfield
  obtain ⟨⟨_, value⟩, hmember, rfl⟩ := mem_map.mp hfield
  rw [SerdeValue.get_map hmember hsorted]
  simp

end

/-! ## The hashed stream -/

namespace StrategySdk

theorem updateFramed_eq_ok {width : Nat} {hashed value updated : List UInt8} :
    updateFramed width hashed value = .ok updated ↔
      value.length < 256 ^ width ∧ hashed ++ framed width value = updated := by
  simp only [updateFramed, toBytes, bind_eq_ok, refuseIf_eq_ok, exists_const,
    pure_eq_ok, Nat.not_le, framed]
  constructor
  · rintro ⟨_, ⟨hlength, rfl⟩, rfl⟩
    exact ⟨hlength, by rw [append_assoc]⟩
  · rintro ⟨hlength, rfl⟩
    exact ⟨_, ⟨hlength, rfl⟩, by rw [append_assoc]⟩

variable {sources : List SourceFile}

theorem foldlM_updateFile (h : ∀ source ∈ sources, source.Fits) (hashed : List UInt8) :
    sources.foldlM updateFile hashed
      = .ok (hashed ++ sources.flatMap frameSource) := by
  induction sources generalizing hashed with
  | nil => simp [pure, Except.pure]
  | cons source rest ih =>
    obtain ⟨hfits, hrest⟩ := forall_mem_cons.mp h
    have hfile : updateFile hashed source
        = .ok (hashed ++ frameSource source) := by
      simp only [updateFile, bind_eq_ok, updateFramed_eq_ok]
      exact ⟨_, ⟨hfits.path, rfl⟩, hfits.contents,
        by rw [append_assoc, frameSource]⟩
    rw [foldlM_cons, hfile]
    change rest.foldlM updateFile _ = _
    rw [ih hrest, flatMap_cons, append_assoc]

theorem updateNamespace_of_fits {name : String}
    (hname : name.toUTF8.toList.length < 256 ^ 4)
    (h : ∀ source ∈ sources, source.Fits) (hashed : List UInt8) :
    updateNamespace hashed (name, sources)
      = .ok (hashed ++ frameNamespace name sources) := by
  simp only [updateNamespace, bind_eq_ok, updateFramed_eq_ok]
  refine ⟨_, ⟨hname, rfl⟩, ?_⟩
  rw [foldlM_updateFile h, frameNamespace, append_assoc]

theorem bundleStream_eq {strategy sdk : List SourceFile} {runtime : String}
    (h : ∀ source ∈ strategy ++ sdk, source.Fits)
    (hruntime : runtime.toUTF8.toList.length < 256 ^ 4) :
    bundleStream [("strategy", strategy), ("sdk", sdk)] runtime
      = .ok (frameBundle strategy sdk runtime) := by
  have hnames : ("strategy" : String).toUTF8.toList.length < 256 ^ 4 ∧
      ("sdk" : String).toUTF8.toList.length < 256 ^ 4 := by
    rw [length_utf8, length_utf8]
    decide
  obtain ⟨hstrategy, hsdk⟩ := List.forall_mem_append.mp h
  simp only [bundleStream, foldlM_cons, List.foldlM_nil, bind_eq_ok,
    updateNamespace_of_fits hnames.1 hstrategy, updateNamespace_of_fits hnames.2 hsdk,
    updateFramed_eq_ok, Except.ok.injEq, pure, Except.pure]
  exact ⟨_, ⟨_, rfl, _, rfl, rfl⟩, hruntime, rfl⟩

/-! ## The lock as it is written -/

def isPrintable (c : Char) : Bool := ' ' ≤ c && c ≤ '~'

theorem asciiChar_eq {c : Char} (h : isPrintable c = true) :
    asciiChar c = Json.compactChar c := by
  simp only [isPrintable, and_eq_true, decide_eq_true_eq] at h
  have hlow : ¬c.toNat < 0x20 := not_lt.mpr h.1
  have hcontrol : c ≠ '\n' ∧ c ≠ '\r' ∧ c ≠ '\t' ∧ c ≠ Char.ofNat 12 ∧
      c ≠ Char.ofNat 8 := by
    refine ⟨?_, ?_, ?_, ?_, ?_⟩
    all_goals
      rintro rfl
      exact hlow (by decide)
  obtain ⟨hline, hreturn, htab, hfeed, hback⟩ := hcontrol
  simp only [asciiChar, Json.compactChar, if_neg hline, if_neg hreturn,
    if_neg htab, if_neg hfeed, if_neg hback, if_pos h, if_neg hlow]

end StrategySdk

/-! ## The lock as it is read -/

variable {path : String}

theorem isBundlePath_ne_empty (h : isBundlePath path = true) : path ≠ "" := by
  rintro rfl
  contradiction

section
variable {V : Type} [SerdeValue V] [ContentHash]

omit [SerdeValue V] in
theorem hexDigest_ne_empty (hhash : PrintsDigests) (bytes : List UInt8) :
    ContentHash.hexDigest bytes ≠ "" := by
  intro hempty
  have hdigest := hhash bytes
  rw [hempty] at hdigest
  contradiction

structure Lockable (sources : List SourceFile) : Prop where
  nonempty : sources ≠ []
  ascending : (sources.map (·.path)).Pairwise (· < ·)
  paths : ∀ source ∈ sources, isBundlePath source.path = true
  fits : ∀ source ∈ sources, source.Fits

variable {source : SourceFile} {previous : Option LockedFile} {name : String}

omit [SerdeValue V] in
theorem fileDocument_plain (hfits : source.Fits) :
    (StrategySdk.fileDocument source).Plain := by
  apply Json.Plain.obj
  · exact (by decide : (["bytes", "path", "sha256"] : List String).Pairwise
      (· < ·))
  · simp only [forall_mem_cons, not_mem_nil, false_implies, implies_true, and_true]
    have hlength := hfits.contents
    exact ⟨.num (by omega), .str _, .str _⟩

theorem parseLockedFile_document (hserde : SerdeValue.Lawful V)
    (hhash : PrintsDigests) (hfits : source.Fits)
    (hpath : isBundlePath source.path = true)
    (hprevious : ∀ file, previous = some file → file.path < source.path) :
    parseLockedFile previous
        (SerdeValue.ofJson (V := V) (StrategySdk.fileDocument source))
      = .ok source.locked := by
  have hsorted : (["bytes", "path", "sha256"] : List String).Pairwise
      (· < ·) := by decide
  have hbytes : (UInt64.ofNat source.contents.length).toNat
      = source.contents.length :=
    UInt64.toNat_ofNat_of_lt' (by simpa using hfits.contents)
  have hascending : ¬(previous.any fun previous =>
      decide (source.path ≤ previous.path)) = true := by
    cases previous with
    | none => simp
    | some file => simpa using hprevious file rfl
  simp only [parseLockedFile, bind_eq_ok, okOr_eq_ok, refuseIf_eq_ok,
    validateBundlePath, exists_const, not_eq_false]
  refine ⟨_, hserde.asObject_obj _ (fileDocument_plain hfits), (),
    requireExactJsonFields_of_names (by rfl) hsorted _, source.path,
    stringField_of_mem (by simp) hsorted (isBundlePath_ne_empty hpath) hserde,
    hpath, hascending, UInt64.ofNat source.contents.length, ?_,
    ContentHash.hexDigest source.contents,
    stringField_of_mem (by simp) hsorted (hexDigest_ne_empty hhash _) hserde,
    hhash _, rfl⟩
  have hmember : ("bytes", Json.num source.contents.length) ∈
      [("bytes", Json.num source.contents.length), ("path", .str source.path),
        ("sha256", .str (ContentHash.hexDigest source.contents))] :=
    mem_cons_self
  rw [SerdeValue.get_map hmember hsorted, bind_some, ← hbytes]
  rw [UInt64.ofNat_toNat]
  exact hserde.asU64_num _

variable {sources strategy sdk : List SourceFile}
  {entry className bundleHash : String}

theorem parseLockedFiles_documents (hserde : SerdeValue.Lawful V)
    (hhash : PrintsDigests) (hascending : (sources.map (·.path)).Pairwise (· < ·))
    (hpaths : ∀ source ∈ sources, isBundlePath source.path = true)
    (hfits : ∀ source ∈ sources, source.Fits) (hprevious : ∀ file, previous = some file →
      ∀ source ∈ sources, file.path < source.path) :
    parseLockedFiles previous (sources.map fun source =>
        SerdeValue.ofJson (V := V) (StrategySdk.fileDocument source))
      = .ok (sources.map (·.locked)) := by
  induction sources generalizing previous with
  | nil => rfl
  | cons source rest ih =>
    rw [map_cons, pairwise_cons] at hascending
    obtain ⟨hfirst, hascending⟩ := hascending
    obtain ⟨hpath, hpaths⟩ := forall_mem_cons.mp hpaths
    obtain ⟨hfit, hfits⟩ := forall_mem_cons.mp hfits
    have hrest : ∀ file, some source.locked = some file →
        ∀ source ∈ rest, file.path < source.path := by
      rintro file hfile next hnext
      obtain rfl := Option.some.inj hfile
      exact hfirst next.path (mem_map_of_mem hnext)
    simp only [map_cons, parseLockedFiles, bind_eq_ok]
    exact ⟨source.locked, parseLockedFile_document hserde hhash hfit hpath
        fun file hfile => hprevious file hfile source mem_cons_self,
      _, ih hascending hpaths hfits hrest, rfl⟩

omit [SerdeValue V] in
theorem namespaceDocument_plain (h : Lockable sources) :
    (StrategySdk.namespaceDocument (name, sources)).Plain := by
  apply Json.Plain.obj
  · exact (by decide : (["files", "name"] : List String).Pairwise (· < ·))
  · simp only [forall_mem_cons, not_mem_nil, false_implies, implies_true, and_true]
    refine ⟨.arr ?_, .str _⟩
    intro item hitem
    obtain ⟨source, hsource, rfl⟩ := mem_map.mp hitem
    exact fileDocument_plain (h.fits source hsource)

theorem parseNamespace_document (hserde : SerdeValue.Lawful V)
    (hhash : PrintsDigests) (hname : name ≠ "") (h : Lockable sources)
    : parseNamespace (SerdeValue.ofJson (V := V)
        (StrategySdk.namespaceDocument (name, sources))) name
      = .ok ⟨name, sources.map (·.locked)⟩ := by
  have hsorted : (["files", "name"] : List String).Pairwise (· < ·) := by
    decide
  simp only [parseNamespace, bind_eq_ok, okOr_eq_ok, refuseIf_eq_ok,
    exists_const, not_not]
  refine ⟨_, hserde.asObject_obj _ (namespaceDocument_plain h), (),
    requireExactJsonFields_of_names (by rfl) hsorted _, name,
    stringField_of_mem (by simp) hsorted hname hserde, rfl,
    (sources.map StrategySdk.fileDocument).map SerdeValue.ofJson, ?_, _, ?_,
    rfl⟩
  · have hmember : ("files", Json.arr (sources.map StrategySdk.fileDocument)) ∈
        [("files", Json.arr (sources.map StrategySdk.fileDocument)),
          ("name", .str name)] := mem_cons_self
    rw [SerdeValue.get_map hmember hsorted, bind_some,
      hserde.asArray_arr, Option.filter_some_pos]
    simpa using h.nonempty
  · rw [map_map]
    exact parseLockedFiles_documents hserde hhash h.ascending h.paths h.fits
      (by simp)

def lockOf (strategy sdk : List SourceFile)
    (entry className runtime bundleHash : String) : StrategyBundleLock where
  runtime
  entryPoint := { strategyFile := entry, className }
  namespaces :=
    [{ name := "strategy", files := strategy.map (·.locked) },
      { name := "sdk", files := sdk.map (·.locked) }]
  strategyBundleHash := bundleHash

structure LockRequest (strategy sdk : List SourceFile)
    (entry className runtime bundleHash : String) : Prop where
  sources : Lockable strategy
  sdkSources : Lockable sdk
  listed : entry ∈ strategy.map (·.path)
  identifier : isPythonIdentifier className = true
  valid : isRuntime runtime = true
  digest : isDigest bundleHash = true

omit [SerdeValue V] in
theorem LockRequest.plain {runtime : String}
    (h : LockRequest strategy sdk entry className runtime bundleHash) :
    (StrategySdk.lockDocument [("strategy", strategy), ("sdk", sdk)] entry
      className runtime bundleHash).Plain := by
  apply Json.Plain.obj
  · exact (by decide : (["bundle_format", "entry_point",
      "lock_schema_version", "namespaces", "runtime",
      "strategy_bundle_hash"] : List String).Pairwise (· < ·))
  · simp only [forall_mem_cons, not_mem_nil, false_implies, implies_true, and_true]
    refine ⟨.str _, .obj ?_ ?_, .num (by decide), .arr ?_, .str _, .str _⟩
    · exact (by decide : (["class_name", "strategy_file"] : List
        String).Pairwise (· < ·))
    · simp only [forall_mem_cons, not_mem_nil, false_implies, implies_true, and_true]
      exact ⟨.str _, .str _⟩
    · simp only [map_cons, map_nil, forall_mem_cons,
        not_mem_nil, false_implies, implies_true, and_true]
      exact ⟨namespaceDocument_plain h.sources, namespaceDocument_plain h.sdkSources⟩

omit [SerdeValue V] in
theorem lockDocument_nested (strategy sdk : List SourceFile)
    (entry className runtime bundleHash : String) :
    (StrategySdk.lockDocument [("strategy", strategy), ("sdk", sdk)] entry
      className runtime bundleHash).Nested 127 := by
  have hfile (source : SourceFile) :
      (StrategySdk.fileDocument source).Nested 123 :=
    Json.nested_record rfl
  have hnamespace (name : String) (sources : List SourceFile) :
      (StrategySdk.namespaceDocument (name, sources)).Nested 125 := by
    apply Json.Nested.obj
    simp only [forall_mem_cons, not_mem_nil, false_implies, implies_true, and_true]
    exact ⟨Json.nested_map hfile sources, .str _⟩
  apply Json.Nested.obj
  simp only [forall_mem_cons, not_mem_nil, false_implies, implies_true, and_true]
  refine ⟨.str _, Json.nested_record rfl, .num _, .arr ?_, .str _, .str _⟩
  simp only [map_cons, map_nil, forall_mem_cons,
    not_mem_nil, false_implies, implies_true, and_true]
  exact ⟨hnamespace _ _, hnamespace _ _⟩

theorem parseEntryPoint_document (hserde : SerdeValue.Lawful V) {runtime : String}
    (h : LockRequest strategy sdk entry className runtime bundleHash) :
    parseEntryPoint (some (SerdeValue.ofJson (V := V) (.obj
        [("class_name", .str className), ("strategy_file", .str entry)])))
        (lockOf strategy sdk entry className runtime bundleHash).namespaces
      = .ok { strategyFile := entry, className } := by
  have hsorted : (["class_name", "strategy_file"] : List String).Pairwise
      (· < ·) := by decide
  have hplain : (Json.obj [("class_name", .str className),
      ("strategy_file", .str entry)]).Plain := by
    refine .obj hsorted ?_
    simp only [forall_mem_cons, not_mem_nil, false_implies, implies_true, and_true]
    exact ⟨.str _, .str _⟩
  have hentry : entry ≠ "" := by
    obtain ⟨source, hsource, rfl⟩ := mem_map.mp h.listed
    exact isBundlePath_ne_empty (h.sources.paths source hsource)
  have hclass : className ≠ "" := by
    rintro rfl
    exact absurd h.identifier (by decide)
  have hlisted : entry ∈ (strategy.map (·.locked)).map (·.path) := by
    rw [map_map]
    exact h.listed
  simp only [parseEntryPoint, bind_eq_ok, okOr_eq_ok, refuseIf_eq_ok,
    exists_const, not_not, bind_some, not_eq_false]
  exact ⟨_, hserde.asObject_obj _ hplain, (),
    requireExactJsonFields_of_names (by rfl) hsorted _, entry,
    stringField_of_mem (by simp) hsorted hentry hserde, className,
    stringField_of_mem (by simp) hsorted hclass hserde, hlisted,
    h.identifier, rfl⟩

theorem LockRequest.parse (hserde : SerdeValue.Lawful V)
    (hhash : PrintsDigests) {runtime : String}
    (h : LockRequest strategy sdk entry className runtime bundleHash) :
    StrategyBundleLock.parse V
        (StrategySdk.lockDocument [("strategy", strategy), ("sdk", sdk)] entry
          className runtime bundleHash).toBytes
      = .ok (lockOf strategy sdk entry className runtime bundleHash) := by
  have hsorted : (["bundle_format", "entry_point", "lock_schema_version",
      "namespaces", "runtime", "strategy_bundle_hash"] : List
        String).Pairwise (· < ·) := by decide
  have hplain := h.plain
  have hruntime : runtime ≠ "" := by
    rintro rfl
    exact absurd h.valid (by decide)
  have hdigest : bundleHash ≠ "" := by
    rintro rfl
    exact absurd h.digest (by decide)
  have hmembers (field : String) (value : Json)
      (hmember : (field, value) ∈ [("bundle_format", Json.str strategyBundleFormat),
        ("entry_point", .obj
          [("class_name", .str className), ("strategy_file", .str entry)]),
        ("lock_schema_version", .num lockSchemaVersion.toNat),
        ("namespaces", .arr ([("strategy", strategy), ("sdk", sdk)].map
          StrategySdk.namespaceDocument)),
        ("runtime", .str runtime), ("strategy_bundle_hash", .str bundleHash)]) :=
    hmember
  rw [StrategyBundleLock.parse, canonicalJsonObject_of_plain hplain
    (lockDocument_nested ..) hserde]
  simp only [bind_eq_ok, okOr_eq_ok, refuseIf_eq_ok, Except.ok.injEq,
    validateRuntime, exists_const, not_not, not_eq_false]
  refine ⟨_, rfl, _, hserde.asObject_obj _ hplain, (),
    requireExactJsonFields_of_names (by rfl) hsorted _, ?_, strategyBundleFormat,
    stringField_of_mem (by simp) hsorted (by decide) hserde, rfl, runtime,
    stringField_of_mem (by simp) hsorted hruntime hserde, h.valid,
    bundleHash, stringField_of_mem (by simp) hsorted hdigest hserde,
    h.digest,
    [("strategy", strategy), ("sdk", sdk)].map fun files =>
      SerdeValue.ofJson (StrategySdk.namespaceDocument files), ?_,
    (lockOf strategy sdk entry className runtime bundleHash).namespaces, ?_,
    { strategyFile := entry, className }, ?_, rfl⟩
  · rw [SerdeValue.get_map (hmembers "lock_schema_version"
      (.num lockSchemaVersion.toNat) (by simp)) hsorted]
    exact hserde.asU64_num _
  · rw [SerdeValue.get_map (hmembers "namespaces"
        (.arr ([("strategy", strategy), ("sdk", sdk)].map
          StrategySdk.namespaceDocument)) (by simp)) hsorted,
      bind_some, hserde.asArray_arr, map_map]
    rfl
  · simp only [map_cons, map_nil, bundleNamespaces, parseNamespaces, bind_eq_ok]
    exact ⟨_, parseNamespace_document hserde hhash (by decide) h.sources, _,
      ⟨_, parseNamespace_document hserde hhash (by decide) h.sdkSources, _,
        rfl, rfl⟩, rfl⟩
  · rw [SerdeValue.get_map (hmembers "entry_point" (.obj
      [("class_name", .str className), ("strategy_file", .str entry)])
      (by simp)) hsorted]
    exact parseEntryPoint_document hserde h

end

/-! ## Printable locks -/

open StrategySdk (isPrintable)

variable {value : String}

theorem isClassName_eq : StrategySdk.isClassName value = isPythonIdentifier value := by
  unfold StrategySdk.isClassName isPythonIdentifier
  have hrest (c : Char) : (('a' ≤ c && c ≤ 'z') || ('A' ≤ c && c ≤ 'Z') ||
      isAsciiDigit c || c == '_') = (isAsciiAlphanumeric c || c == '_') := by
    rw [Bool.eq_iff_iff]
    simp only [isAsciiAlphanumeric, or_eq_true]
    tauto
  have hletter (c : Char) : (('A' ≤ c && c ≤ 'Z') || ('a' ≤ c && c ≤ 'z'))
      = (('a' ≤ c && c ≤ 'z') || ('A' ≤ c && c ≤ 'Z')) := Bool.or_comm ..
  cases value.toList with
  | nil => rfl
  | cons first rest => simp only [hletter, hrest]

theorem isPrintable_of_alphanumeric {c : Char}
    (h : isAsciiAlphanumeric c = true) : isPrintable c = true := by
  simp only [isAsciiAlphanumeric, isAsciiDigit, isPrintable, or_eq_true,
    and_eq_true, decide_eq_true_eq] at h ⊢
  obtain (h | h) | h := h
  · exact ⟨le_trans (by decide) h.1, le_trans h.2 (by decide)⟩
  · exact ⟨le_trans (by decide) h.1, le_trans h.2 (by decide)⟩
  · exact ⟨le_trans (by decide) h.1, le_trans h.2 (by decide)⟩

theorem isPrintable_className (h : isPythonIdentifier value = true) :
    value.toList.all isPrintable = true := by
  rw [all_eq_true]
  intro c hc
  simp only [isPythonIdentifier] at h
  split at h
  · contradiction
  · rename_i first rest htext
    rw [htext] at hc
    simp only [and_eq_true, or_eq_true, all_eq_true,
      decide_eq_true_eq, beq_iff_eq] at h
    obtain ⟨hfirst, hrest⟩ := h
    obtain rfl | hc := mem_cons.mp hc
    · obtain hletter | rfl := hfirst
      · apply isPrintable_of_alphanumeric
        simp only [isAsciiAlphanumeric, or_eq_true, and_eq_true,
          decide_eq_true_eq]
        tauto
      · decide
    · obtain hletter | rfl := hrest c hc
      · exact isPrintable_of_alphanumeric hletter
      · decide

theorem all_of_splitAtChar {separator : Char} {text : String}
    {p : Char → Bool} (hseparator : p separator = true)
    (h : ∀ piece ∈ splitAtChar separator [] text.toList,
      piece.toList.all p = true) : text.toList.all p = true := by
  rw [all_eq_true]
  intro c hc
  obtain rfl | ⟨piece, hpiece, hmem⟩ :=
    mem_splitAtChar separator text.toList [] (.inr hc)
  · exact hseparator
  · exact all_eq_true.mp (h piece hpiece) c hmem

theorem isPrintable_path (h : isBundlePath path = true) :
    path.toList.all isPrintable = true := by
  simp only [isBundlePath, and_eq_true] at h
  have hslash : isPrintable '/' = true := by
    decide
  apply all_of_splitAtChar hslash
  intro piece hpiece
  have hcomponent := all_eq_true.mp h.2 piece hpiece
  simp only [isPathComponent, and_eq_true] at hcomponent
  rw [all_eq_true]
  intro c hc
  have hchar := all_eq_true.mp hcomponent.2 c hc
  simp only [isPathChar, or_eq_true, beq_iff_eq] at hchar
  obtain ((hletter | rfl) | rfl) | rfl := hchar
  · exact isPrintable_of_alphanumeric hletter
  all_goals decide

theorem isPrintable_runtime {runtime : String} (h : isRuntime runtime = true) :
    runtime.toList.all isPrintable = true := by
  simp only [isRuntime, and_eq_true] at h
  have hbar : isPrintable '|' = true := by
    decide
  apply all_of_splitAtChar hbar
  intro piece hpiece
  have hpart := all_eq_true.mp h.2 piece hpiece
  simp only [isRuntimePart, and_eq_true] at hpart
  rw [all_eq_true]
  intro c hc
  have hchar := all_eq_true.mp hpart.2 c hc
  simp only [isAsciiGraphic, isPrintable, and_eq_true,
    decide_eq_true_eq] at hchar ⊢
  exact ⟨le_trans (by decide) hchar.1.1, hchar.1.2⟩

theorem isPrintable_digest (h : isDigest value = true) :
    value.toList.all isPrintable = true := by
  simp only [isDigest, and_eq_true] at h
  rw [all_eq_true]
  intro c hc
  have hchar := all_eq_true.mp h.2 c hc
  simp only [isAsciiDigit, isPrintable, or_eq_true, and_eq_true,
    decide_eq_true_eq] at hchar ⊢
  obtain hchar | hchar := hchar
  · exact ⟨le_trans (by decide) hchar.1, le_trans hchar.2 (by decide)⟩
  · exact ⟨le_trans (by decide) hchar.1, le_trans hchar.2 (by decide)⟩

section
variable [ContentHash]

variable {sources : List SourceFile}

theorem namespaceDocument_printable (hhash : PrintsDigests) {name : String}
    (hname : name.toList.all isPrintable = true) (h : Lockable sources) :
    Json.all isPrintable (StrategySdk.namespaceDocument (name, sources))
      = true := by
  have hfiles : Json.all isPrintable
      (.arr (sources.map StrategySdk.fileDocument)) = true := by
    rw [Json.all_arr, all_eq_true]
    intro document hdocument
    obtain ⟨source, hsource, rfl⟩ := mem_map.mp hdocument
    rw [StrategySdk.fileDocument, Json.all_obj]
    simp only [List.all_cons, List.all_nil, Json.all,
      isPrintable_path (h.paths source hsource), isPrintable_digest (hhash _),
      Bool.and_true]
    decide
  rw [Json.all] at hfiles
  simp only [StrategySdk.namespaceDocument, Json.all, Json.allMembers, hfiles,
    hname, Bool.and_true]
  decide

variable {strategy sdk : List SourceFile}

theorem LockRequest.print (hhash : PrintsDigests)
    {entry className runtime bundleHash : String}
    (h : LockRequest strategy sdk entry className runtime bundleHash) :
    Json.print StrategySdk.asciiChar (StrategySdk.lockDocument
        [("strategy", strategy), ("sdk", sdk)] entry className runtime
          bundleHash)
      = Json.print Json.compactChar (StrategySdk.lockDocument
        [("strategy", strategy), ("sdk", sdk)] entry className runtime
          bundleHash) := by
  have hentry : entry.toList.all isPrintable = true := by
    obtain ⟨source, hsource, rfl⟩ := mem_map.mp h.listed
    exact isPrintable_path (h.sources.paths source hsource)
  have hnames : ("strategy" : String).toList.all isPrintable = true ∧
      ("sdk" : String).toList.all isPrintable = true ∧
      strategyBundleFormat.toList.all isPrintable = true := by
    decide
  apply Json.print_congr (p := isPrintable) _ fun c hc =>
    StrategySdk.asciiChar_eq hc
  simp only [StrategySdk.lockDocument, Json.all, Json.allMembers, Json.allItems,
    map_cons, map_nil, namespaceDocument_printable hhash hnames.1 h.sources,
    namespaceDocument_printable hhash hnames.2.1 h.sdkSources, hnames.2.2, hentry,
    isPrintable_className h.identifier, isPrintable_runtime h.valid,
    isPrintable_digest h.digest, Bool.and_true]
  decide

/-! ## One identity -/

omit [ContentHash] in
theorem length_path_le {path : String} (h : isBundlePath path = true) :
    path.toUTF8.toList.length < 256 ^ 4 := by
  simp only [isBundlePath, and_eq_true, decide_eq_true_eq] at h
  rw [length_utf8]
  omega

omit [ContentHash] in
theorem fits_of_length {runtime : String}
    (hpaths : ∀ source ∈ strategy ++ sdk, isBundlePath source.path = true)
    (hsize : (frameBundle strategy sdk runtime).length ≤ maxBundleBytes) :
    (∀ source ∈ strategy ++ sdk, source.Fits) ∧
      runtime.toUTF8.toList.length < 256 ^ 4 := by
  simp only [frameBundle, framed, length_append, maxBundleBytes] at hsize
  constructor
  · intro source hsource
    refine ⟨length_path_le (hpaths source hsource), ?_⟩
    obtain hmem | hmem := mem_append.mp hsource
    · have hle := length_contents_le "strategy" hmem
      omega
    · have hle := length_contents_le "sdk" hmem
      omega
  · omega

omit [ContentHash] in
theorem mem_sortSources {source : SourceFile} :
    source ∈ sortSources sources ↔ source ∈ sources :=
  (perm_insertionSort
    (fun left right : SourceFile => left.path ≤ right.path) sources).mem_iff

omit [ContentHash] in
theorem SourceTree.lockable {root : DirectoryEntry} (h : SourceTree root sources)
    (hfits : ∀ source ∈ sortSources sources, source.Fits) :
    Lockable (sortSources sources) where
  nonempty := by
    obtain ⟨source, hsource⟩ := List.exists_mem_of_ne_nil _ h.nonempty
    exact List.ne_nil_of_mem (mem_sortSources.mpr hsource)
  ascending := sortSources_ascending h.paths_nodup
  paths := fun source hsource => h.paths source (mem_sortSources.mp hsource)
  fits := hfits

/-- The SDK hashes exactly the archive that is built, and the builder builds it
when every name in the trees has a UTF-8 reading and refuses the trees
otherwise; the lock the SDK writes is accepted, and the archive opens under it
to the sources of the trees. -/
theorem sdk_bundle_is_archive {V : Type} [SerdeValue V]
    (hserde : SerdeValue.Lawful V) (hhash : PrintsDigests)
    {strategyRoot sdkRoot : DirectoryEntry} {strategy sdk : List SourceFile}
    {runtime : String} (hstrategy : SourceTree strategyRoot strategy)
    (hsdk : SourceTree sdkRoot sdk) (hruntime : isRuntime runtime = true)
    (hsize : (frameBundle (sortSources strategy) (sortSources sdk)
      runtime).length ≤ maxBundleBytes) :
    ∃ stream, (StrategySdk.sdkNamespaces strategyRoot sdkRoot >>=
          fun namespaces => StrategySdk.bundleStream namespaces runtime)
        = .ok stream ∧
      (∀ archive, buildStrategyBundle strategyRoot sdkRoot runtime = .ok archive ↔
        strategyRoot.IsUtf8 ∧ sdkRoot.IsUtf8 ∧ archive = stream) ∧
      ∀ entry ∈ strategy.map (·.path), ∀ className,
        StrategySdk.isClassName className = true →
        ∃ document lock, StrategySdk.strategyBundleLock strategyRoot sdkRoot
            entry className runtime = .ok document ∧
          StrategyBundleLock.parse V document = .ok lock ∧
          openStrategyBundle stream lock
            = .ok ((sortSources strategy).map (·.inNamespace "strategy") ++
                (sortSources sdk).map (·.inNamespace "sdk")) := by
  have hpaths : ∀ source ∈ sortSources strategy ++ sortSources sdk,
      isBundlePath source.path = true := by
    intro source hsource
    obtain hmem | hmem := mem_append.mp hsource
    · exact hstrategy.paths source (mem_sortSources.mp hmem)
    · exact hsdk.paths source (mem_sortSources.mp hmem)
  obtain ⟨hfits, hlength⟩ := fits_of_length hpaths hsize
  obtain ⟨hleft, hright⟩ := List.forall_mem_append.mp hfits
  have hnamespaces : StrategySdk.sdkNamespaces strategyRoot sdkRoot
      = .ok [("strategy", sortSources strategy), ("sdk", sortSources sdk)] := by
    simp only [StrategySdk.sdkNamespaces, bind_eq_ok, hstrategy.sourceFiles,
      hsdk.sourceFiles]
    exact ⟨_, rfl, _, rfl, rfl⟩
  have hstream := StrategySdk.bundleStream_eq hfits hlength
  refine ⟨frameBundle (sortSources strategy) (sortSources sdk) runtime,
    bind_eq_ok.mpr ⟨_, hnamespaces, hstream⟩, ?_, ?_⟩
  · intro archive
    rw [buildStrategyBundle_eq_ok]
    simp only [hstrategy.bundleSources_eq_ok, hsdk.bundleSources_eq_ok]
    constructor
    · rintro ⟨_, _, ⟨hutf8, rfl⟩, ⟨hutf8', rfl⟩, _, _, _, _, rfl⟩
      exact ⟨hutf8, hutf8', rfl⟩
    · rintro ⟨hutf8, hutf8', rfl⟩
      refine ⟨_, _, ⟨hutf8, rfl⟩, ⟨hutf8', rfl⟩, hruntime, hlength, ?_, ?_, rfl⟩
      · exact fun source hsource => (hfits source hsource).path
      · rw [frameBundle, length_append] at hsize
        exact le_trans (Nat.le_add_right _ _) hsize
  · intro entry hentry className hclass
    have hrequest : LockRequest (sortSources strategy) (sortSources sdk) entry
        className runtime (ContentHash.hexDigest
          (frameBundle (sortSources strategy) (sortSources sdk) runtime)) :=
      { sources := hstrategy.lockable hleft, sdkSources := hsdk.lockable hright
        listed := by
          obtain ⟨source, hsource, rfl⟩ := mem_map.mp hentry
          exact mem_map_of_mem (mem_sortSources.mpr hsource)
        identifier := isClassName_eq ▸ hclass
        valid := hruntime
        digest := hhash _ }
    refine ⟨_, _, ?_, hrequest.parse hserde hhash, ?_⟩
    · simp only [StrategySdk.strategyBundleLock, StrategySdk.bundleDigest,
        bind_eq_ok, refuseIf_eq_ok, exists_const, not_not, not_eq_false]
      refine ⟨_, hnamespaces, hrequest.listed, hclass, _, ⟨_, hstream, rfl⟩, ?_⟩
      rw [hrequest.print hhash]
      rfl
    · exact (openStrategyBundle_eq_ok rfl).mpr ⟨rfl, hlength, _, _, hfits, rfl,
        rfl, rfl, rfl⟩

end

namespace BundleRun

def strategyFile : SourceFile where
  path := "strategy.py"
  contents := [0x70, 0x61, 0x73, 0x73, 0x0a]

def sdkFile : SourceFile where
  path := "__init__.py"
  contents := []

def entryName (name : String) : List UInt8 := name.toUTF8.toList

def strategyTree : DirectoryEntry :=
  .directory [(entryName "strategy.py", .file strategyFile.contents)]

def sdkTree : DirectoryEntry :=
  .directory [(entryName "__init__.py", .file sdkFile.contents)]

def unreadableTree : DirectoryEntry :=
  .directory
    [(entryName "strategy.py", .file strategyFile.contents), ([0xff], .file [])]

def runtime : String := "cpython|3.12.10|linux"

/-- The digests of the files, of their archive, its lock, a configuration and
the receipt of its evaluation. -/
@[reducible] def recordedDigests : ContentHash where
  hexDigest bytes :=
    match bytes.length with
    | 0 => "e3b0c44298fc1c149afbf4c8996fb92427ae41e4649b934ca495991b7852b855"
    | 5 => "9f56e761d79bfdb34304a012586cb04d16b435ef6130091a97702e559260a2f2"
    | 71 => "a8844c11847098930b17c8dcb588e06aa2704ac00edf0f2fe5b400e635e52296"
    | 89 => "80173d65ee0f00383d10f5b2c9a637dd93edc3eb6db36a538d9405008c446e1b"
    | 121 => "c63c8c200b62aa95f03c24ca6085d1ddfaba16529d74d5e1ca9b560239e9c41e"
    | 547 => "d753ef239d50790fa7bbcfe3a5360c8765a36a70e79ad5fc41c74aae66cd327e"
    | _ => "0000000000000000000000000000000000000000000000000000000000000000"

attribute [local instance] recordedDigests Json.integers

open StrategySdk (rglob matchesPython asPosix)

theorem printsDigests : PrintsDigests := by
  intro bytes
  unfold ContentHash.hexDigest recordedDigests
  dsimp only
  split
  all_goals decide

theorem isEntryName_strategy : IsEntryName (entryName "strategy.py") := by
  constructor <;> rw [entryName, toList_eq_data] <;> decide

theorem isEntryName_sdk : IsEntryName (entryName "__init__.py") := by
  constructor <;> rw [entryName, toList_eq_data] <;> decide

theorem found_file {name : String} (hname : endsWithText ".py" name = true)
    (contents : List UInt8) :
    StrategySdk.globEntry (some "") (entryName name) (.file contents)
      = [SourceFile.found ⟨name, contents⟩] := by
  have htext : intoString (entryName name) = some name := fromUTF8_utf8 name
  simp only [StrategySdk.globEntry, matchesPython, asPosix, htext, hname, if_true]
  rfl

theorem strategyTree_sources : SourceTree strategyTree [strategyFile] where
  tree := .directory (by simp) (by simpa using isEntryName_strategy)
    (by simpa using DirectoryEntry.IsTree.file _)
  files := by
    refine ⟨_, rfl, ?_⟩
    rw [rglob, found_file (by decide)]
    rfl
  nonempty := by simp
  paths := by
    simp only [mem_singleton, forall_eq]
    decide

theorem sdkTree_sources : SourceTree sdkTree [sdkFile] where
  tree := .directory (by simp) (by simpa using isEntryName_sdk)
    (by simpa using DirectoryEntry.IsTree.file _)
  files := by
    refine ⟨_, rfl, ?_⟩
    rw [rglob, found_file (by decide)]
    rfl
  nonempty := by simp
  paths := by
    simp only [mem_singleton, forall_eq]
    decide

theorem unreadableTree_sources : SourceTree unreadableTree [strategyFile] where
  tree := by
    have hdata : IsEntryName [0xff] := ⟨by decide, by decide⟩
    have hname : ¬entryName "strategy.py" = [0xff] := by
      rw [entryName, toList_eq_data]
      decide
    apply DirectoryEntry.IsTree.directory
    · simpa using hname
    · simpa using ⟨isEntryName_strategy, hdata⟩
    · simpa using ⟨DirectoryEntry.IsTree.file _, DirectoryEntry.IsTree.file _⟩
  files := by
    refine ⟨_, rfl, ?_⟩
    rw [rglob, found_file (by decide)]
    rfl
  nonempty := by simp
  paths := by
    simp only [mem_singleton, forall_eq]
    decide

theorem length_archive : (frameBundle (sortSources [strategyFile]) (sortSources [sdkFile])
      runtime).length ≤ maxBundleBytes := by
  simp only [sortSources, List.insertionSort_cons, List.insertionSort_nil,
    List.orderedInsert_nil, frameBundle, frameNamespace, bundleHeader, flatMap_cons,
    List.flatMap_nil, frameSource, framed, length_append, length_toBigEndian, length_utf8]
  decide

/-- The bundle of one file in each tree. -/
theorem bundle_is_archive : ∃ stream, (StrategySdk.sdkNamespaces strategyTree sdkTree >>=
          fun namespaces => StrategySdk.bundleStream namespaces runtime)
        = .ok stream ∧
      (∀ archive, buildStrategyBundle strategyTree sdkTree runtime = .ok archive ↔
        strategyTree.IsUtf8 ∧ sdkTree.IsUtf8 ∧ archive = stream) ∧
      ∀ entry ∈ [strategyFile].map (·.path), ∀ className,
        StrategySdk.isClassName className = true →
        ∃ document lock, StrategySdk.strategyBundleLock strategyTree sdkTree
            entry className runtime = .ok document ∧
          StrategyBundleLock.parse Json document = .ok lock ∧
          openStrategyBundle stream lock
            = .ok ((sortSources [strategyFile]).map (·.inNamespace "strategy")
                ++ (sortSources [sdkFile]).map (·.inNamespace "sdk")) :=
  sdk_bundle_is_archive Json.integers_lawful printsDigests strategyTree_sources
    sdkTree_sources (by decide) length_archive

/-- A tree with a data file that has no UTF-8 name is hashed by the SDK and
refused by the builder. -/
theorem unreadable_name_refused :
    SourceTree unreadableTree [strategyFile] ∧ SourceTree sdkTree [sdkFile] ∧
      isRuntime runtime = true ∧
      (frameBundle (sortSources [strategyFile]) (sortSources [sdkFile])
        runtime).length ≤ maxBundleBytes ∧
      StrategySdk.sourceFiles unreadableTree = .ok [strategyFile] ∧
      ∀ archive,
        buildStrategyBundle unreadableTree sdkTree runtime ≠ .ok archive := by
  refine ⟨unreadableTree_sources, sdkTree_sources, by decide, length_archive,
    unreadableTree_sources.sourceFiles, ?_⟩
  intro archive h
  obtain ⟨strategy, _, hstrategy, _⟩ := buildStrategyBundle_eq_ok.mp h
  have hutf8 := (unreadableTree_sources.bundleSources_eq_ok.mp hstrategy).1
  rw [unreadableTree, DirectoryEntry.isUtf8_directory] at hutf8
  have hname := (hutf8 ([0xff], .file []) (by simp)).1
  exact absurd hname (by decide)

end BundleRun

end Follon.ControlPlane
