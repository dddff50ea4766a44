import Follon.ControlPlane.Bundle

/-!
# The one reading of an archive

The framing of an archive carries no counts.  A namespace name and a runtime
are no source path, so where a namespace ends can be told from the bytes, and
an archive has one runtime and one list of files in each namespace.
-/

namespace Follon.ControlPlane

open Foundation Domain

@[simp] theorem okOr_eq_ok {α : Type} {message : String} {found : Option α}
    {a : α} : okOr message found = .ok a ↔ found = some a := by
  cases found <;> simp [okOr]

/-! ## Framing sources -/

structure SourceFile.Fits (source : SourceFile) : Prop where
  path : source.path.toUTF8.toList.length < 256 ^ 4
  contents : source.contents.length < 256 ^ 8

def frameSource (source : SourceFile) : List UInt8 :=
  framed 4 source.path.toUTF8.toList ++ framed 8 source.contents

def frameNamespace (name : String) (sources : List SourceFile) : List UInt8 :=
  framed 4 name.toUTF8.toList ++ sources.flatMap frameSource

def frameBundle (strategy sdk : List SourceFile) (runtime : String) : List UInt8 :=
  bundleHeader ++ frameNamespace "strategy" strategy ++
    frameNamespace "sdk" sdk ++ framed 4 runtime.toUTF8.toList

variable {source : SourceFile} {rest rest' archive built : List UInt8}
  {sources : List SourceFile} {runtime : String}

theorem frameSource_append_inj {source' : SourceFile} (h : source.Fits)
    (h' : source'.Fits)
    (hbytes : frameSource source ++ rest = frameSource source' ++ rest') :
    source = source' ∧ rest = rest' := by
  simp only [frameSource, append_assoc] at hbytes
  obtain ⟨hpath, hbytes⟩ := framed_append_inj h.path h'.path hbytes
  obtain ⟨hcontents, hrest⟩ := framed_append_inj h.contents h'.contents hbytes
  refine ⟨?_, hrest⟩
  cases source
  cases source'
  exact (SourceFile.mk.injEq ..).mpr ⟨utf8_injective hpath, hcontents⟩

structure Terminates (text : String) : Prop where
  fits : text.toUTF8.toList.length < 256 ^ 4
  noPath : isBundlePath text = false

variable {text name : String} {strategy sdk : List SourceFile}
  {strategyRoot sdkRoot : DirectoryEntry}

theorem not_framed_of_terminates (ht : Terminates text) (h : source.Fits)
    (hpath : isBundlePath source.path = true)
    (hbytes : framed 4 text.toUTF8.toList ++ rest
      = frameSource source ++ rest') : False := by
  rw [frameSource, append_assoc] at hbytes
  obtain ⟨hsame, _⟩ := framed_append_inj ht.fits h.path hbytes
  have hnoPath := ht.noPath
  rw [utf8_injective hsame, hpath] at hnoPath
  contradiction

theorem sources_append_inj {sources' : List SourceFile} {text' : String}
    (ht : Terminates text) (ht' : Terminates text')
    (h : ∀ source ∈ sources, source.Fits ∧ isBundlePath source.path = true)
    (h' : ∀ source ∈ sources', source.Fits ∧ isBundlePath source.path = true)
    (hbytes : sources.flatMap frameSource ++ (framed 4 text.toUTF8.toList ++ rest)
      = sources'.flatMap frameSource ++ (framed 4 text'.toUTF8.toList ++ rest')) :
    sources = sources' ∧ text = text' ∧ rest = rest' := by
  induction sources generalizing sources' with
  | nil =>
    cases sources' with
    | nil =>
      obtain ⟨htext, hrest⟩ := framed_append_inj ht.fits ht'.fits hbytes
      exact ⟨rfl, utf8_injective htext, hrest⟩
    | cons source' more' =>
      obtain ⟨hfits, hpath⟩ := h' source' mem_cons_self
      rw [flatMap_cons, append_assoc] at hbytes
      exact (not_framed_of_terminates ht hfits hpath hbytes).elim
  | cons source more ih =>
    obtain ⟨⟨hfits, hpath⟩, hmore⟩ := forall_mem_cons.mp h
    cases sources' with
    | nil =>
      rw [flatMap_cons, append_assoc] at hbytes
      exact (not_framed_of_terminates ht' hfits hpath hbytes.symm).elim
    | cons source' more' =>
      obtain ⟨⟨hfits', _⟩, hmore'⟩ := forall_mem_cons.mp h'
      rw [flatMap_cons, flatMap_cons, append_assoc,
        append_assoc] at hbytes
      obtain ⟨rfl, hrests⟩ := frameSource_append_inj hfits hfits' hbytes
      obtain ⟨rfl, htext, hrest⟩ := ih hmore hmore' hrests
      exact ⟨rfl, htext, hrest⟩

/-! ## What ends a namespace -/

theorem terminates_sdk : Terminates "sdk" := by
  constructor
  · rw [length_utf8]
    decide
  · decide

theorem isBundlePath_plain {path : String} (h : isBundlePath path = true) :
    '|' ∉ path.toList := by
  simp only [isBundlePath, and_eq_true] at h
  intro hmem
  obtain hsame | ⟨part, hpart, hc⟩ :=
    mem_splitAtChar '/' path.toList [] (.inr hmem)
  · contradiction
  · have hcomponent := all_eq_true.mp h.2 part hpart
    simp only [isPathComponent, and_eq_true] at hcomponent
    exact absurd (all_eq_true.mp hcomponent.2 _ hc) (by decide)

theorem splitAtChar_of_not_mem {separator : Char} {text : List Char}
    (piece : List Char) (h : separator ∉ text) : splitAtChar separator piece text
      = [String.ofList (piece.reverse ++ text)] := by
  induction text generalizing piece with
  | nil => simp [splitAtChar]
  | cons c rest ih =>
    simp only [mem_cons, not_or] at h
    rw [splitAtChar, if_neg (Ne.symm h.1), ih _ h.2]
    simp

theorem isRuntime_bar (h : isRuntime runtime = true) : '|' ∈ runtime.toList := by
  by_contra hnone
  simp only [isRuntime, splitAtChar_of_not_mem [] hnone] at h
  simp at h

theorem terminates_runtime (h : isRuntime runtime = true)
    (hfits : runtime.toUTF8.toList.length < 256 ^ 4) : Terminates runtime := by
  refine ⟨hfits, ?_⟩
  by_contra hpath
  exact isBundlePath_plain (not_eq_false _ ▸ hpath) (isRuntime_bar h)

theorem frameBundle_inj {strategy' sdk' : List SourceFile} {runtime' : String}
    (hruntime : Terminates runtime) (hruntime' : Terminates runtime')
    (h : ∀ source ∈ strategy ++ sdk,
      source.Fits ∧ isBundlePath source.path = true) (h' : ∀ source ∈ strategy' ++ sdk',
      source.Fits ∧ isBundlePath source.path = true)
    (hbytes : frameBundle strategy sdk runtime = frameBundle strategy' sdk' runtime') :
    strategy = strategy' ∧ sdk = sdk' ∧ runtime = runtime' := by
  obtain ⟨hstrategy, hsdk⟩ := List.forall_mem_append.mp h
  obtain ⟨hstrategy', hsdk'⟩ := List.forall_mem_append.mp h'
  simp only [frameBundle, frameNamespace, append_assoc,
    List.append_cancel_left_eq] at hbytes
  obtain ⟨rfl, _, hbytes⟩ := sources_append_inj terminates_sdk terminates_sdk
    hstrategy hstrategy' hbytes
  rw [← append_nil (framed 4 runtime.toUTF8.toList),
    ← append_nil (framed 4 runtime'.toUTF8.toList)] at hbytes
  obtain ⟨rfl, rfl, _⟩ := sources_append_inj hruntime hruntime' hsdk hsdk'
    hbytes
  exact ⟨rfl, rfl, rfl⟩

/-! ## What an opened archive is -/

section
variable [ContentHash]

def SourceFile.locked (source : SourceFile) : LockedFile where
  path := source.path
  bytes := UInt64.ofNat source.contents.length
  sha256 := ContentHash.hexDigest source.contents

omit [ContentHash] in
def SourceFile.inNamespace (name : String) (source : SourceFile) : BundleSource where
  namespaceName := name
  path := source.path
  contents := source.contents

variable {bytes rest : List UInt8}

omit [ContentHash] in
theorem u32Framed_eq_ok {part : List UInt8} :
    ArchiveReader.u32Framed bytes = .ok (part, rest) ↔
      part.length < 256 ^ 4 ∧ bytes = framed 4 part ++ rest := by
  rw [← readFramed_eq_some]
  simp only [ArchiveReader.u32Framed, ArchiveReader.take, bind_eq_ok, okOr_eq_ok,
    Prod.exists, readFramed, bind_eq_bind, bind_eq_some_iff]

variable {name : String} {opened : List BundleSource}

theorem openFile_eq_ok {file : LockedFile} {opened : BundleSource} :
    openFile name file bytes = .ok (opened, rest) ↔
      ∃ source : SourceFile, source.Fits ∧ opened = source.inNamespace name ∧
        file = source.locked ∧ bytes = frameSource source ++ rest := by
  simp only [openFile, bind_eq_ok, Prod.exists, u32Framed_eq_ok, ArchiveReader.u64,
    ArchiveReader.take, okOr_eq_ok, takeBytes_eq_some, refuseIf_eq_ok, exists_const,
    not_not, pure_eq_ok, Prod.mk.injEq]
  constructor
  · rintro ⟨path, after, ⟨hpath, rfl⟩, rfl, length, after', ⟨size, after'', ⟨hsize,
      rfl⟩, rfl, rfl⟩, hbytes, contents, after''', ⟨hlength, rfl⟩, hdigest, rfl, rfl⟩
    have hlt := ofBigEndian_lt size
    rw [hsize] at hlt
    have hvalue : (UInt64.ofNat (ofBigEndian size)).toNat = ofBigEndian size :=
      UInt64.toNat_ofNat_of_lt' (by simpa using hlt)
    rw [hvalue] at hlength
    refine ⟨⟨file.path, contents⟩, ⟨hpath, ?_⟩, rfl, ?_, ?_⟩
    · rw [hlength]
      exact hlt
    · cases file
      simp only [SourceFile.locked, LockedFile.mk.injEq, true_and]
      exact ⟨by rw [hlength, hbytes], hdigest.symm⟩
    · rw [frameSource, framed, framed, hlength, ← hsize, toBigEndian_ofBigEndian]
      simp
  · rintro ⟨source, hfits, rfl, rfl, rfl⟩
    have hvalue : (UInt64.ofNat source.contents.length).toNat
        = source.contents.length :=
      UInt64.toNat_ofNat_of_lt' (by simpa using hfits.contents)
    refine ⟨_, framed 8 source.contents ++ rest, ⟨hfits.path, ?_⟩, rfl, _,
      source.contents ++ rest, ⟨toBigEndian 8 source.contents.length,
      source.contents ++ rest, ⟨length_toBigEndian _ _, ?_⟩, rfl, rfl⟩, ?_,
      source.contents, rest, ⟨?_, rfl⟩, rfl, rfl, rfl⟩
    · rw [frameSource, append_assoc]
    · rw [framed, append_assoc]
    · rw [ofBigEndian_toBigEndian hfits.contents]
      rfl
    · rw [ofBigEndian_toBigEndian hfits.contents, hvalue]

theorem openFiles_eq_ok {files : List LockedFile}
    : openFiles name files bytes = .ok (opened, rest) ↔
      ∃ sources : List SourceFile, (∀ source ∈ sources, source.Fits) ∧
        opened = sources.map (·.inNamespace name) ∧
        files = sources.map (·.locked) ∧
        bytes = sources.flatMap frameSource ++ rest := by
  induction files generalizing bytes rest opened with
  | nil =>
    simp only [openFiles, Except.ok.injEq, Prod.mk.injEq]
    constructor
    · rintro ⟨rfl, rfl⟩
      exact ⟨[], by simp, rfl, rfl, rfl⟩
    · rintro ⟨sources, _, rfl, hfiles, rfl⟩
      obtain rfl := List.map_eq_nil_iff.mp hfiles.symm
      exact ⟨rfl, rfl⟩
  | cons file files ih =>
    simp only [openFiles, bind_eq_ok, Prod.exists, openFile_eq_ok, ih, pure_eq_ok, Prod.mk.injEq]
    constructor
    · rintro ⟨_, after, ⟨source, hfits, rfl, rfl, rfl⟩, _, _,
        ⟨sources, hsources, rfl, rfl, rfl⟩, rfl, rfl⟩
      refine ⟨source :: sources, ?_, rfl, rfl, ?_⟩
      · exact forall_mem_cons.mpr ⟨hfits, hsources⟩
      · rw [flatMap_cons, append_assoc]
    · rintro ⟨sources, hsources, rfl, hfiles, rfl⟩
      cases sources with
      | nil => contradiction
      | cons source sources =>
        obtain ⟨hfits, hsources⟩ := forall_mem_cons.mp hsources
        simp only [map_cons, List.cons.injEq] at hfiles
        refine ⟨_, sources.flatMap frameSource ++ rest, ⟨source, hfits, rfl, hfiles.1,
          ?_⟩, _, rest, ⟨sources, hsources, rfl, hfiles.2, rfl⟩, rfl, rfl⟩
        rw [flatMap_cons, append_assoc]

/-- A lock of the two namespaces opens exactly the streams of the sources it
locks. -/
theorem openStrategyBundle_eq_ok {archive : List UInt8}
    {lock : StrategyBundleLock} {strategy sdk : List LockedFile}
    (hlock : lock.namespaces = [⟨"strategy", strategy⟩, ⟨"sdk", sdk⟩]) :
    openStrategyBundle archive lock = .ok opened ↔
      ContentHash.hexDigest archive = lock.strategyBundleHash ∧
        lock.runtime.toUTF8.toList.length < 256 ^ 4 ∧
        ∃ left right : List SourceFile, (∀ source ∈ left ++ right, source.Fits) ∧
          strategy = left.map (·.locked) ∧ sdk = right.map (·.locked) ∧
          opened = left.map (·.inNamespace "strategy") ++
            right.map (·.inNamespace "sdk") ∧
          archive = frameBundle left right lock.runtime := by
  have hnames : ("strategy" : String).toUTF8.toList.length < 256 ^ 4 ∧
      ("sdk" : String).toUTF8.toList.length < 256 ^ 4 := by
    rw [length_utf8, length_utf8]
    decide
  simp only [openStrategyBundle, hlock, bundleNamespaces, List.zip_cons_cons,
    List.zip_nil_left, openNamespaces, bind_eq_ok, Prod.exists, ArchiveReader.take,
    okOr_eq_ok, takeBytes_eq_some, u32Framed_eq_ok, openFiles_eq_ok, refuseIf_eq_ok,
    exists_const, not_not, pure_eq_ok, Except.ok.injEq, Prod.mk.injEq]
  constructor
  · rintro ⟨hhash, header, after, ⟨_, rfl⟩, rfl, _, _, ⟨_, _, ⟨_, rfl⟩, rfl, _, _, ⟨left,
      hleft, rfl, rfl, rfl⟩, _, _, ⟨_, _, ⟨_, rfl⟩, rfl, _, _, ⟨right, hright, rfl, rfl,
      rfl⟩, _, _, ⟨rfl, rfl⟩, rfl, rfl⟩, rfl, rfl⟩, _, _, ⟨hruntime, rfl⟩, rfl, rfl, rfl⟩
    refine ⟨hhash, hruntime, left, right, ?_, rfl, rfl, ?_, ?_⟩
    · exact List.forall_mem_append.mpr ⟨hleft, hright⟩
    · rw [append_nil]
    · simp only [frameBundle, frameNamespace, append_assoc, append_nil]
  · rintro ⟨hhash, hruntime, left, right, hfits, rfl, rfl, rfl, rfl⟩
    obtain ⟨hleft, hright⟩ := List.forall_mem_append.mp hfits
    refine ⟨hhash, bundleHeader,
      frameNamespace "strategy" left ++ (frameNamespace "sdk" right ++
        framed 4 lock.runtime.toUTF8.toList), ⟨rfl, ?_⟩, rfl, _,
      framed 4 lock.runtime.toUTF8.toList,
      ⟨_, left.flatMap frameSource ++ (frameNamespace "sdk" right ++
          framed 4 lock.runtime.toUTF8.toList), ⟨hnames.1, ?_⟩, rfl, _,
        frameNamespace "sdk" right ++ framed 4 lock.runtime.toUTF8.toList,
        ⟨left, hleft, rfl, rfl, rfl⟩, _, _,
        ⟨_, right.flatMap frameSource ++ framed 4 lock.runtime.toUTF8.toList,
          ⟨hnames.2, ?_⟩, rfl, _, _, ⟨right, hright, rfl, rfl, rfl⟩, [], _,
          ⟨rfl, rfl⟩, rfl, rfl⟩, rfl, rfl⟩,
      _, [], ⟨hruntime, ?_⟩, rfl, rfl, ?_⟩
    · simp only [frameBundle, append_assoc]
    · simp only [frameNamespace, append_assoc]
    · simp only [frameNamespace, append_assoc]
    · rw [append_nil]
    · rw [append_nil]

end

/-! ## What a lock is -/

/-- A lock has the two namespaces, its paths are source paths and its runtime
is one. -/
structure StrategyBundleLock.Sound (lock : StrategyBundleLock) : Prop where
  namespaces : ∃ strategy sdk : List LockedFile,
    lock.namespaces = [⟨"strategy", strategy⟩, ⟨"sdk", sdk⟩] ∧
      ∀ file ∈ strategy ++ sdk, isBundlePath file.path = true
  runtime : isRuntime lock.runtime = true

section
variable {V : Type} [SerdeValue V]

theorem parseLockedFiles_paths {previous : Option LockedFile} {raw : List V}
    {files : List LockedFile} (h : parseLockedFiles previous raw = .ok files) :
    ∀ file ∈ files, isBundlePath file.path = true := by
  induction raw generalizing previous files with
  | nil =>
    obtain rfl := Except.ok.inj h
    simp
  | cons value rest ih =>
    simp only [parseLockedFiles, bind_eq_ok] at h
    obtain ⟨file, hfile, files, hfiles, h⟩ := h
    obtain rfl := Except.ok.inj h
    simp only [parseLockedFile, validateBundlePath, bind_eq_ok,
      refuseIf_eq_ok, exists_const, not_eq_false] at hfile
    obtain ⟨_, _, _, _, path, _, hpath, _, _, _, _, _, _, hfile⟩ := hfile
    obtain rfl := Except.ok.inj hfile
    exact forall_mem_cons.mpr ⟨hpath, ih hfiles⟩

theorem parseNamespace_paths {raw : V} {name : String}
    {parsed : BundleNamespace} (h : parseNamespace raw name = .ok parsed) :
    parsed.name = name ∧
      ∀ file ∈ parsed.files, isBundlePath file.path = true := by
  simp only [parseNamespace, bind_eq_ok] at h
  obtain ⟨_, _, _, _, _, _, _, _, _, _, files, hfiles, h⟩ := h
  obtain rfl := Except.ok.inj h
  exact ⟨rfl, parseLockedFiles_paths hfiles⟩

theorem StrategyBundleLock.parse_sound {bytes : List UInt8}
    {lock : StrategyBundleLock} (h : StrategyBundleLock.parse V bytes = .ok lock) :
    lock.Sound := by
  simp only [parse, validateRuntime, bind_eq_ok, okOr_eq_ok, refuseIf_eq_ok,
    exists_const, not_eq_false, filter_eq_some_iff] at h
  obtain ⟨_, _, _, _, _, _, _, _, _, _, runtime, _, hruntime, _, _, _,
    rawNamespaces, ⟨_, hlength⟩, namespaces, hnamespaces, _, _, h⟩ := h
  obtain rfl := Except.ok.inj h
  refine ⟨?_, hruntime⟩
  obtain ⟨first, second, rfl⟩ := List.length_eq_two.mp (beq_iff_eq.mp hlength)
  simp only [bundleNamespaces, parseNamespaces, bind_eq_ok] at hnamespaces
  obtain ⟨strategy, hstrategy, _, ⟨sdk, hsdk, _, hnone, hone⟩, hboth⟩ :=
    hnamespaces
  obtain rfl := Except.ok.inj hnone
  obtain rfl := Except.ok.inj hone
  obtain rfl := Except.ok.inj hboth
  obtain ⟨hname, hpaths⟩ := parseNamespace_paths hstrategy
  obtain ⟨hname', hpaths'⟩ := parseNamespace_paths hsdk
  refine ⟨strategy.files, sdk.files, ?_, ?_⟩
  · rw [← hname, ← hname']
  · exact List.forall_mem_append.mpr ⟨hpaths, hpaths'⟩

end

/-! ## What a build is -/

theorem pushU32Framed_eq_ok {value : List UInt8} :
    pushU32Framed archive value = .ok built ↔
      value.length < 256 ^ 4 ∧ archive ++ framed 4 value = built := by
  simp only [pushU32Framed, bind_eq_ok, refuseIf_eq_ok, exists_const, pure_eq_ok, Nat.not_le]
  rfl

theorem pushSource_eq_ok : pushSource archive source = .ok built ↔
      source.path.toUTF8.toList.length < 256 ^ 4 ∧ archive ++ frameSource source = built ∧
        built.length ≤ maxBundleBytes := by
  simp only [pushSource, bind_eq_ok, pushU32Framed_eq_ok, refuseIf_eq_ok,
    exists_const, pure_eq_ok, Nat.not_lt]
  constructor
  · rintro ⟨_, ⟨hpath, rfl⟩, hsize, rfl⟩
    refine ⟨hpath, ?_, hsize⟩
    simp only [frameSource, framed, append_assoc]
  · rintro ⟨hpath, rfl, hsize⟩
    refine ⟨_, ⟨hpath, rfl⟩, ?_, ?_⟩
    · simpa only [frameSource, framed, append_assoc] using hsize
    · simp only [frameSource, framed, append_assoc]

theorem foldlM_pushSource : sources.foldlM pushSource archive = .ok built ↔
      archive ++ sources.flatMap frameSource = built ∧
        (∀ source ∈ sources, source.path.toUTF8.toList.length < 256 ^ 4) ∧
        (sources ≠ [] → built.length ≤ maxBundleBytes) := by
  induction sources generalizing archive with
  | nil => simp [pure, Except.pure]
  | cons source rest ih =>
    simp only [foldlM_cons, bind_eq_ok, pushSource_eq_ok, ih,
      flatMap_cons, forall_mem_cons]
    constructor
    · rintro ⟨_, ⟨hpath, rfl, hsize⟩, rfl, hpaths, hlimit⟩
      refine ⟨by rw [append_assoc], ⟨hpath, hpaths⟩, fun _ => ?_⟩
      cases rest with
      | nil => simpa using hsize
      | cons next more => exact hlimit (List.cons_ne_nil _ _)
    · rintro ⟨rfl, ⟨hpath, hpaths⟩, hlimit⟩
      have hall := hlimit (List.cons_ne_nil _ _)
      refine ⟨_, ⟨hpath, rfl, ?_⟩, by rw [append_assoc], hpaths,
        fun _ => hall⟩
      simp only [length_append] at hall ⊢
      omega

theorem bundleSources_ne_nil {root : DirectoryEntry}
    (h : bundleSources name root = .ok sources) : sources ≠ [] := by
  cases root with
  | directory entries =>
    simp only [bundleSources, bind_eq_ok, refuseIf_eq_ok, exists_const, pure_eq_ok] at h
    obtain ⟨collected, _, hne, rfl⟩ := h
    intro hnone
    apply hne
    have hperm := perm_insertionSort
      (fun left right : SourceFile => left.path ≤ right.path) collected
    rw [sortSources] at hnone
    rw [hnone] at hperm
    exact hperm.nil_eq.symm
  | file contents => contradiction
  | symlink toFile => contradiction
  | other => contradiction

/-- A bundle is built exactly from two trees of sources that fit, as their
stream. -/
theorem buildStrategyBundle_eq_ok :
    buildStrategyBundle strategyRoot sdkRoot runtime = .ok archive ↔
      ∃ strategy sdk, bundleSources "strategy" strategyRoot = .ok strategy ∧
        bundleSources "sdk" sdkRoot = .ok sdk ∧ isRuntime runtime = true ∧
        runtime.toUTF8.toList.length < 256 ^ 4 ∧
        (∀ source ∈ strategy ++ sdk, source.path.toUTF8.toList.length < 256 ^ 4) ∧
        (bundleHeader ++ frameNamespace "strategy" strategy ++
          frameNamespace "sdk" sdk).length ≤ maxBundleBytes ∧
        frameBundle strategy sdk runtime = archive := by
  have hnames : ("strategy" : String).toUTF8.toList.length < 256 ^ 4 ∧
      ("sdk" : String).toUTF8.toList.length < 256 ^ 4 := by
    rw [length_utf8, length_utf8]
    decide
  simp only [buildStrategyBundle, bundleNamespaces, List.zip_cons_cons,
    List.zip_nil_left, foldlM_cons, List.foldlM_nil, pushNamespace,
    validateRuntime, bind_eq_ok, refuseIf_eq_ok, exists_const, pushU32Framed_eq_ok,
    foldlM_pushSource, not_eq_false, pure_eq_ok]
  constructor
  · rintro ⟨hruntime, _, ⟨_, ⟨strategy, hstrategy, _, ⟨_, rfl⟩, rfl, hpaths, _⟩,
      _, ⟨sdk, hsdk, _, ⟨_, rfl⟩, rfl, hpaths', hlimit⟩, rfl⟩, hfits, rfl⟩
    refine ⟨strategy, sdk, hstrategy, hsdk, hruntime, hfits, ?_, ?_, ?_⟩
    · exact List.forall_mem_append.mpr ⟨hpaths, hpaths'⟩
    · have hsize := hlimit (bundleSources_ne_nil hsdk)
      simpa only [frameNamespace, append_assoc] using hsize
    · simp only [frameBundle, frameNamespace, append_assoc]
  · rintro ⟨strategy, sdk, hstrategy, hsdk, hruntime, hfits, hpaths, hsize, rfl⟩
    obtain ⟨hleft, hright⟩ := List.forall_mem_append.mp hpaths
    refine ⟨hruntime, _, ⟨_, ⟨strategy, hstrategy, _, ⟨hnames.1, rfl⟩, rfl,
      hleft, fun _ => ?_⟩, _, ⟨sdk, hsdk, _, ⟨hnames.2, rfl⟩, rfl, hright,
        fun _ => ?_⟩, rfl⟩, hfits, ?_⟩
    · simp only [frameNamespace, length_append] at hsize ⊢
      omega
    · simpa only [frameNamespace, append_assoc] using hsize
    · simp only [frameBundle, frameNamespace, append_assoc]

theorem length_contents_le (name : String) (h : source ∈ sources) :
    source.contents.length ≤ (frameNamespace name sources).length := by
  obtain ⟨before, after, rfl⟩ := List.append_of_mem h
  simp only [frameNamespace, frameSource, framed, List.flatMap_append,
    flatMap_cons, length_append]
  omega

theorem built_sources (hstrategy : bundleSources "strategy" strategyRoot = .ok strategy)
    (hsdk : bundleSources "sdk" sdkRoot = .ok sdk)
    (hpaths : ∀ source ∈ strategy ++ sdk, isBundlePath source.path = true)
    (h : buildStrategyBundle strategyRoot sdkRoot runtime = .ok archive) :
    Terminates runtime ∧ (∀ source ∈ strategy ++ sdk,
        source.Fits ∧ isBundlePath source.path = true) ∧
      frameBundle strategy sdk runtime = archive := by
  obtain ⟨left, right, hleft, hright, hruntime, hfits, hlengths, hlimit, rfl⟩ :=
    buildStrategyBundle_eq_ok.mp h
  obtain rfl := Except.ok.inj (hleft.symm.trans hstrategy)
  obtain rfl := Except.ok.inj (hright.symm.trans hsdk)
  refine ⟨terminates_runtime hruntime hfits, ?_, rfl⟩
  intro source hsource
  refine ⟨⟨hlengths source hsource, ?_⟩, hpaths source hsource⟩
  have hcontents : source.contents.length ≤ (frameNamespace "strategy" left ++
      frameNamespace "sdk" right).length := by
    obtain hmem | hmem := mem_append.mp hsource
    · have hle := length_contents_le "strategy" hmem
      rw [length_append]
      omega
    · have hle := length_contents_le "sdk" hmem
      rw [length_append]
      omega
  rw [append_assoc, length_append, maxBundleBytes] at hlimit
  omega

/-! ## One reading -/

def sourcesOf (name : String) (opened : List BundleSource) : List SourceFile :=
  (opened.filter (·.namespaceName == name)).map fun source =>
    { path := source.path, contents := source.contents }

theorem sourcesOf_append (name : String) (opened more : List BundleSource) :
    sourcesOf name (opened ++ more)
      = sourcesOf name opened ++ sourcesOf name more := by
  simp only [sourcesOf, filter_append, map_append]

theorem sourcesOf_inNamespace (name : String) (sources : List SourceFile) :
    sourcesOf name (sources.map (·.inNamespace name)) = sources := by
  induction sources with
  | nil => rfl
  | cons source rest ih =>
    rw [sourcesOf] at ih
    simp only [sourcesOf, map_cons, SourceFile.inNamespace,
      beq_self_eq_true, List.filter_cons_of_pos] at ih ⊢
    rw [ih]

theorem sourcesOf_other {other : String} (hne : other ≠ name)
    (sources : List SourceFile) :
    sourcesOf name (sources.map (·.inNamespace other)) = [] := by
  induction sources with
  | nil => rfl
  | cons source rest ih =>
    rw [sourcesOf] at ih
    rw [sourcesOf, map_cons, List.filter_cons_of_neg]
    · exact ih
    · simpa [SourceFile.inNamespace] using hne

section
variable [ContentHash]

/-- What an accepted lock opens is the stream of sources at source paths. -/
theorem StrategyBundleLock.Sound.opens {lock : StrategyBundleLock}
    (hlock : lock.Sound) {archive : List UInt8} {opened : List BundleSource}
    (h : openStrategyBundle archive lock = .ok opened) :
    Terminates lock.runtime ∧ ∃ strategy sdk : List SourceFile,
      (∀ source ∈ strategy ++ sdk, source.Fits ∧ isBundlePath source.path = true) ∧
      lock.namespaces = [⟨"strategy", strategy.map (·.locked)⟩,
        ⟨"sdk", sdk.map (·.locked)⟩] ∧
      opened = strategy.map (·.inNamespace "strategy") ++
        sdk.map (·.inNamespace "sdk") ∧
      archive = frameBundle strategy sdk lock.runtime := by
  obtain ⟨_, _, hnames, hpaths⟩ := hlock.namespaces
  obtain ⟨_, hsize, strategy, sdk, hfits, rfl, rfl, hopened, harchive⟩ :=
    (openStrategyBundle_eq_ok hnames).mp h
  refine ⟨terminates_runtime hlock.runtime hsize, strategy, sdk, ?_, hnames,
    hopened, harchive⟩
  intro source hsource
  refine ⟨hfits source hsource, ?_⟩
  rw [← map_append] at hpaths
  exact hpaths source.locked (mem_map_of_mem hsource)

/-- An archive has one reading whatever lock drives it, framing what is read
gives the archive back, and a build tells its sources and its runtime apart. -/
theorem archives_have_one_reading {V : Type} [SerdeValue V] :
    (∀ (archive bytes bytes' : List UInt8) (lock lock' : StrategyBundleLock)
      (opened opened' : List BundleSource),
      StrategyBundleLock.parse V bytes = .ok lock →
      StrategyBundleLock.parse V bytes' = .ok lock' →
      openStrategyBundle archive lock = .ok opened →
      openStrategyBundle archive lock' = .ok opened' →
        lock.runtime = lock'.runtime ∧ lock.namespaces = lock'.namespaces ∧
          opened = opened' ∧
          frameBundle (sourcesOf "strategy" opened) (sourcesOf "sdk" opened)
            lock.runtime = archive) ∧
      ∀ (strategyRoot sdkRoot strategyRoot' sdkRoot' : DirectoryEntry)
        (strategy sdk strategy' sdk' : List SourceFile)
        (runtime runtime' : String) (archive : List UInt8),
        bundleSources "strategy" strategyRoot = .ok strategy →
        bundleSources "sdk" sdkRoot = .ok sdk →
        bundleSources "strategy" strategyRoot' = .ok strategy' →
        bundleSources "sdk" sdkRoot' = .ok sdk' →
        (∀ source ∈ strategy ++ sdk, isBundlePath source.path = true) →
        (∀ source ∈ strategy' ++ sdk', isBundlePath source.path = true) →
        buildStrategyBundle strategyRoot sdkRoot runtime = .ok archive →
        buildStrategyBundle strategyRoot' sdkRoot' runtime' = .ok archive →
          strategy = strategy' ∧ sdk = sdk' ∧ runtime = runtime' := by
  constructor
  · intro archive bytes bytes' lock lock' opened opened' h h' hopen hopen'
    obtain ⟨hruntime, strategy, sdk, hsources, hnames, rfl, rfl⟩ :=
      (StrategyBundleLock.parse_sound h).opens hopen
    obtain ⟨hruntime', strategy', sdk', hsources', hnames', rfl, hbytes⟩ :=
      (StrategyBundleLock.parse_sound h').opens hopen'
    obtain ⟨rfl, rfl, hsame⟩ :=
      frameBundle_inj hruntime hruntime' hsources hsources' hbytes
    refine ⟨hsame, hnames.trans hnames'.symm, rfl, ?_⟩
    rw [sourcesOf_append, sourcesOf_append, sourcesOf_inNamespace,
      sourcesOf_inNamespace, sourcesOf_other (by decide),
      sourcesOf_other (by decide), append_nil, nil_append]
  · intro strategyRoot sdkRoot strategyRoot' sdkRoot' strategy sdk strategy'
      sdk' runtime runtime' archive hstrategy hsdk hstrategy' hsdk' hpaths
      hpaths' hbuild hbuild'
    have hread := built_sources hstrategy hsdk hpaths hbuild
    have hread' := built_sources hstrategy' hsdk' hpaths' hbuild'
    exact frameBundle_inj hread.1 hread'.1 hread.2.1 hread'.2.1
      (hread.2.2.trans hread'.2.2.symm)

end

end Follon.ControlPlane
