import Follon.ControlPlane.SdkBundle
import Mathlib.Data.List.Perm.Basic
import Mathlib.Data.Set.List

/-!
# Two walks over one tree

The builder and the SDK find the same Python files in a tree without links,
each under a path of its own, unless a name in it has no UTF-8 reading: then
the builder refuses the tree, and the SDK does not look at the name.
-/

namespace Follon.ControlPlane

open Foundation Domain
open StrategySdk (FoundFile globEntry rglob asPosix matchesPython)

/-! ## Trees -/

structure IsEntryName (name : List UInt8) : Prop where
  nonempty : name ≠ []
  noSlash : 0x2f ∉ name

/-- Regular files in directories, the names of a directory all different. -/
inductive DirectoryEntry.IsTree : DirectoryEntry → Prop
  | file (contents : List UInt8) : IsTree (.file contents)
  | directory {entries : List (List UInt8 × DirectoryEntry)}
      (distinct : (entries.map (·.1)).Nodup)
      (names : ∀ entry ∈ entries, IsEntryName entry.1)
      (h : ∀ entry ∈ entries, IsTree entry.2) : IsTree (.directory entries)

inductive DirectoryEntry.IsUtf8 : DirectoryEntry → Prop
  | file (contents : List UInt8) : IsUtf8 (.file contents)
  | directory {entries : List (List UInt8 × DirectoryEntry)}
      (names : ∀ entry ∈ entries, (intoString entry.1).isSome = true)
      (h : ∀ entry ∈ entries, IsUtf8 entry.2) : IsUtf8 (.directory entries)

variable {entries : List (List UInt8 × DirectoryEntry)}
  {sources : List SourceFile} {entry root : DirectoryEntry}
  {name : List UInt8} {text : String} {directory : Option String}

theorem DirectoryEntry.isUtf8_directory : (DirectoryEntry.directory entries).IsUtf8 ↔
      ∀ entry ∈ entries, (intoString entry.1).isSome = true ∧
        entry.2.IsUtf8 := by
  constructor
  · intro h entry hentry
    cases h with
    | directory names h => exact ⟨names entry hentry, h entry hentry⟩
  · intro h
    apply IsUtf8.directory
    · exact fun entry hentry => (h entry hentry).1
    · exact fun entry hentry => (h entry hentry).2

/-! ## The builder's walk -/

def SourceFile.found (source : SourceFile) : FoundFile where
  path := some source.path
  contents := source.contents
  isSymlink := false

theorem collectSources_of_entries {directory : String} (h : ∀ entry ∈ entries, ∀ sources,
      collectEntry directory entry.1 entry.2 = .ok sources ↔
        ((intoString entry.1).isSome = true ∧ entry.2.IsUtf8) ∧
          globEntry (some directory) entry.1 entry.2 = sources.map (·.found)) :
    collectSources directory entries = .ok sources ↔
      (DirectoryEntry.directory entries).IsUtf8 ∧
        rglob (some directory) entries = sources.map (·.found) := by
  rw [DirectoryEntry.isUtf8_directory]
  induction entries generalizing sources with
  | nil =>
    simp only [collectSources, rglob, not_mem_nil, false_implies,
      implies_true, true_and, Except.ok.injEq]
    rw [eq_comm, eq_comm (a := []), List.map_eq_nil_iff]
  | cons entry rest ih =>
    obtain ⟨hentry, hrest⟩ := forall_mem_cons.mp h
    simp only [collectSources, bind_eq_ok, hentry, ih hrest, rglob,
      forall_mem_cons, pure_eq_ok]
    constructor
    · rintro ⟨first, ⟨hutf8, hfirst⟩, more, ⟨hmore, hglob⟩, rfl⟩
      refine ⟨⟨hutf8, hmore⟩, ?_⟩
      rw [hfirst, hglob, map_append]
    · rintro ⟨⟨hutf8, hmore⟩, hglob⟩
      obtain ⟨first, more, rfl, hfirst, hglob⟩ :=
        List.map_eq_append_iff.mp hglob.symm
      exact ⟨first, ⟨hutf8, hfirst.symm⟩, more, ⟨hmore, hglob.symm⟩, rfl⟩

theorem collectEntry_eq_ok (h : entry.IsTree) (directory : String)
    (name : List UInt8) (sources : List SourceFile) :
    collectEntry directory name entry = .ok sources ↔
      ((intoString name).isSome = true ∧ entry.IsUtf8) ∧
        globEntry (some directory) name entry = sources.map (·.found) := by
  induction h generalizing directory name sources with
  | file contents =>
    have hutf8 : (DirectoryEntry.file contents).IsUtf8 := .file contents
    cases hname : intoString name with
    | none => simp [collectEntry, hname, okOr, bind, Except.bind]
    | some text =>
      simp only [collectEntry, globEntry, matchesPython, asPosix, hname,
        okOr, hutf8, bind, Except.bind, Option.bind, pure, Except.pure,
        Option.isSome_some, and_self, true_and, Except.ok.injEq]
      split
      · constructor
        · rintro rfl
          rfl
        · intro hfound
          obtain ⟨source, rfl, hsource⟩ :=
            List.map_eq_singleton_iff.mp hfound.symm
          cases source
          simp only [SourceFile.found, FoundFile.mk.injEq,
            Option.some.injEq] at hsource
          obtain ⟨rfl, rfl, _⟩ := hsource
          rfl
      · rw [eq_comm, eq_comm (a := []), List.map_eq_nil_iff]
  | directory distinct names h ih =>
    cases hname : intoString name with
    | none => simp [collectEntry, hname, okOr, bind, Except.bind]
    | some text =>
      simp only [collectEntry, globEntry, asPosix, hname, okOr, bind,
        Except.bind, Option.bind, pure, Option.isSome_some, true_and]
      exact collectSources_of_entries fun entry hentry sources =>
        ih entry hentry _ _ _

/-- The builder walks a tree exactly when its names have UTF-8 readings, and
finds what the SDK finds. -/
theorem collectSources_eq_ok (h : (DirectoryEntry.directory entries).IsTree)
    {directory : String} : collectSources directory entries = .ok sources ↔
      (DirectoryEntry.directory entries).IsUtf8 ∧
        rglob (some directory) entries = sources.map (·.found) := by
  cases h with
  | directory distinct names h =>
    exact collectSources_of_entries fun entry hentry sources =>
      collectEntry_eq_ok (h entry hentry) _ _ _

/-! ## Paths of different entries -/

theorem intoString_eq_some : intoString name = some text ↔ name = text.toUTF8.toList := by
  constructor
  · intro h
    rw [intoString, String.fromUTF8?] at h
    split at h
    · obtain rfl := Option.some.inj h
      rw [toList_eq_data]
      rfl
    · contradiction
  · rintro rfl
    exact fromUTF8_utf8 text

theorem IsEntryName.slash_not_mem (h : IsEntryName name)
    (htext : intoString name = some text) : '/' ∉ text.toList ∧ text ≠ "" := by
  obtain rfl := intoString_eq_some.mp htext
  constructor
  · intro hmem
    obtain ⟨before, after, hsplit⟩ := List.append_of_mem hmem
    have hparts : text = String.ofList before ++ ("/" ++ String.ofList after) :=
      String.ext (by simp [hsplit])
    apply h.noSlash
    rw [hparts, utf8_append, utf8_append]
    apply mem_append_right
    apply mem_append_left
    rw [toList_eq_data]
    decide
  · rintro rfl
    apply h.nonempty
    rw [toList_eq_data]
    rfl

def IsTail (tail : List Char) : Prop := tail = [] ∨ ∃ rest, tail = '/' :: rest

variable {tail tail' : List Char} {file : FoundFile} {path parent : String}

theorem append_tail_inj {name name' : List Char} (hname : '/' ∉ name)
    (hname' : '/' ∉ name') (htail : IsTail tail) (htail' : IsTail tail')
    (h : name ++ tail = name' ++ tail') : name = name' := by
  have htake : ∀ {name tail : List Char}, '/' ∉ name → IsTail tail →
      (name ++ tail).takeWhile (· != '/') = name := by
    intro name tail hname htail
    have hall : ∀ c ∈ name, (c != '/') = true := by
      intro c hc
      rw [bne_iff_ne]
      rintro rfl
      exact hname hc
    rw [List.takeWhile_append_of_pos hall]
    obtain rfl | ⟨rest, rfl⟩ := htail
    · simp
    · simp
  rw [← htake hname htail, h, htake hname' htail']

theorem mem_rglob : file ∈ rglob directory entries ↔
      ∃ entry ∈ entries, file ∈ globEntry directory entry.1 entry.2 := by
  induction entries with
  | nil => simp [rglob]
  | cons entry rest ih =>
    rw [rglob, mem_append, ih, List.exists_mem_cons_iff]

theorem asPosix_eq_some : asPosix directory name = some path ↔
      ∃ parent text, directory = some parent ∧ intoString name = some text ∧
        relativePath parent text = path := by
  simp only [asPosix, bind_eq_bind, bind_eq_some_iff, pure,
    Option.some.injEq]
  constructor
  · rintro ⟨parent, hparent, text, htext, hpath⟩
    exact ⟨parent, text, hparent, htext, hpath⟩
  · rintro ⟨parent, text, hparent, htext, hpath⟩
    exact ⟨parent, hparent, text, htext, hpath⟩

theorem relativePath_ne_empty (parent : String) (h : text ≠ "")
    : relativePath parent text ≠ "" := by
  unfold relativePath
  split
  · exact h
  · intro hempty
    exact h (String.append_eq_empty_iff.mp hempty).2

theorem relativePath_of_ne (h : parent ≠ "") (text : String) :
    (relativePath parent text).toList
      = parent.toList ++ '/' :: text.toList := by
  have hfalse : parent.isEmpty = false := by simpa using h
  simp [relativePath, hfalse]

theorem path_of_globEntry (h : entry.IsTree) (hname : IsEntryName name)
    (hfile : file ∈ globEntry directory name entry) (hpath : file.path = some path) :
    ∃ (parent text : String) (tail : List Char), directory = some parent ∧
      intoString name = some text ∧ IsTail tail ∧
        path.toList = (relativePath parent text).toList ++ tail := by
  induction h generalizing directory name path with
  | file contents =>
    simp only [globEntry] at hfile
    split at hfile
    · obtain rfl := mem_singleton.mp hfile
      obtain ⟨parent, text, hparent, htext, rfl⟩ := asPosix_eq_some.mp hpath
      exact ⟨parent, text, [], hparent, htext, .inl rfl, by simp⟩
    · contradiction
  | directory distinct names h ih =>
    obtain ⟨entry, hentry, hmem⟩ := mem_rglob.mp hfile
    obtain ⟨under, inner, tail, hunder, _, _, hsplit⟩ :=
      ih entry hentry (names entry hentry) hmem hpath
    obtain ⟨parent, text, hparent, htext, rfl⟩ :=
      asPosix_eq_some.mp hunder
    have hne := relativePath_ne_empty parent
      (hname.slash_not_mem htext).2
    refine ⟨parent, text, '/' :: (inner.toList ++ tail), hparent, htext,
      .inr ⟨_, rfl⟩, ?_⟩
    rw [hsplit, relativePath_of_ne hne]
    simp

/-! ## Every path once -/

def paths (files : List FoundFile) : List String := files.filterMap (·.path)

theorem paths_found (sources : List SourceFile) :
    paths (sources.map (·.found)) = sources.map (·.path) := by
  induction sources with
  | nil => rfl
  | cons source rest ih => exact congrArg (source.path :: ·) ih

theorem relativePath_append_inj {text' : String} (htext : '/' ∉ text.toList)
    (htext' : '/' ∉ text'.toList) (htail : IsTail tail) (htail' : IsTail tail')
    (h : (relativePath parent text).toList ++ tail
      = (relativePath parent text').toList ++ tail') : text = text' := by
  by_cases hparent : parent = ""
  · subst hparent
    exact String.ext (append_tail_inj htext htext' htail htail' h)
  · rw [relativePath_of_ne hparent, relativePath_of_ne hparent] at h
    simp only [append_assoc, List.append_cancel_left_eq,
      cons_append, List.cons.injEq, true_and] at h
    exact String.ext (append_tail_inj htext htext' htail htail' h)

theorem paths_rglob_of_entries (hdistinct : (entries.map (·.1)).Nodup)
    (hnames : ∀ entry ∈ entries, IsEntryName entry.1)
    (htrees : ∀ entry ∈ entries, entry.2.IsTree) (h : ∀ entry ∈ entries,
      (paths (globEntry directory entry.1 entry.2)).Nodup) :
    (paths (rglob directory entries)).Nodup := by
  induction entries with
  | nil => exact List.nodup_nil
  | cons entry rest ih =>
    rw [map_cons, nodup_cons] at hdistinct
    obtain ⟨hfresh, hdistinct⟩ := hdistinct
    obtain ⟨hname, hnames⟩ := forall_mem_cons.mp hnames
    obtain ⟨htree, htrees⟩ := forall_mem_cons.mp htrees
    obtain ⟨hentry, h⟩ := forall_mem_cons.mp h
    rw [rglob, paths, filterMap_append, List.nodup_append]
    refine ⟨hentry, ih hdistinct hnames htrees h, ?_⟩
    rintro path hmem _ hmem' rfl
    obtain ⟨file, hfile, hpath⟩ := List.mem_filterMap.mp hmem
    obtain ⟨file', hfile', hpath'⟩ := List.mem_filterMap.mp hmem'
    obtain ⟨entry', hentry', hfile'⟩ := mem_rglob.mp hfile'
    have hname' := hnames entry' hentry'
    obtain ⟨parent, text, tail, rfl, htext, htail, hsplit⟩ :=
      path_of_globEntry htree hname hfile hpath
    obtain ⟨parent', text', tail', hparent, htext', htail', hsplit'⟩ :=
      path_of_globEntry (htrees entry' hentry') hname' hfile' hpath'
    obtain rfl := Option.some.inj hparent
    have hnone := (hname.slash_not_mem htext).1
    have hnone' := (hname'.slash_not_mem htext').1
    obtain rfl := relativePath_append_inj hnone hnone' htail htail'
      (hsplit.symm.trans hsplit')
    apply hfresh
    rw [intoString_eq_some.mp htext, ← intoString_eq_some.mp htext']
    exact mem_map_of_mem hentry'

theorem paths_globEntry_nodup (h : entry.IsTree) (directory : Option String)
    (name : List UInt8) : (paths (globEntry directory name entry)).Nodup := by
  induction h generalizing directory name with
  | file contents =>
    simp only [globEntry]
    split
    · cases asPosix directory name <;> simp [paths]
    · exact List.nodup_nil
  | directory distinct names h ih =>
    exact paths_rglob_of_entries distinct names h fun entry hentry =>
      ih entry hentry _ _

theorem paths_rglob_nodup (h : (DirectoryEntry.directory entries).IsTree)
    (directory : Option String) : (paths (rglob directory entries)).Nodup := by
  cases h with
  | directory distinct names h =>
    exact paths_rglob_of_entries distinct names h fun entry hentry =>
      paths_globEntry_nodup (h entry hentry) _ _

/-! ## Archive order -/

theorem sortSources_ascending (h : (sources.map (·.path)).Nodup) :
    ((sortSources sources).map (·.path)).Pairwise (· < ·) := by
  have hperm := perm_insertionSort
    (fun left right : SourceFile => left.path ≤ right.path) sources
  have hnodup : ((sortSources sources).map (·.path)).Nodup :=
    (hperm.map _).nodup_iff.mpr h
  have hsorted : ((sortSources sources).map (·.path)).Pairwise (· ≤ ·) :=
    pairwise_map.mpr (pairwise_insertionSort
      (fun left right : SourceFile => left.path ≤ right.path) sources)
  apply (hsorted.and hnodup).imp
  intro path path' hboth
  exact lt_of_le_of_ne hboth.1 hboth.2

theorem sortSources_of_perm {sources' : List SourceFile}
    (hperm : sources.Perm sources') (h : (sources.map (·.path)).Nodup) :
    sortSources sources = sortSources sources' := by
  have h' : (sources'.map (·.path)).Nodup := (hperm.map _).nodup_iff.mp h
  have hsort (sources : List SourceFile) :
      (sortSources sources).Perm sources :=
    perm_insertionSort
      (fun left right : SourceFile => left.path ≤ right.path) sources
  have hall := (hsort sources).trans (hperm.trans (hsort sources').symm)
  have hasymm : ∀ left right : SourceFile, left ∈ sortSources sources →
      right ∈ sortSources sources' → left.path < right.path →
      right.path < left.path → left = right := by
    intro left right _ _ hlt hgt
    exact absurd (lt_trans hlt hgt) (lt_irrefl _)
  exact List.Perm.eq_of_pairwise hasymm
    (pairwise_map.mp (sortSources_ascending h))
    (pairwise_map.mp (sortSources_ascending h')) hall

/-! ## The sources of a root -/

/-- The Python files of a tree without links, at source paths. -/
structure SourceTree (root : DirectoryEntry) (sources : List SourceFile) :
    Prop where
  tree : root.IsTree
  files : ∃ entries, root = .directory entries ∧
    (rglob (some "") entries).Perm (sources.map (·.found))
  nonempty : sources ≠ []
  paths : ∀ source ∈ sources, isBundlePath source.path = true

theorem SourceTree.paths_nodup (h : SourceTree root sources) :
    (sources.map (·.path)).Nodup := by
  obtain ⟨entries, rfl, hperm⟩ := h.files
  rw [← paths_found]
  exact (hperm.filterMap _).nodup_iff.mp (paths_rglob_nodup h.tree _)

theorem found_injective : Function.Injective SourceFile.found := by
  intro source source' h
  cases source
  cases source'
  simp only [SourceFile.found, FoundFile.mk.injEq, Option.some.injEq] at h
  rw [h.1, h.2.1]

theorem SourceTree.listing (h : SourceTree root sources) :
    ∃ entries listing, root = .directory entries ∧ listing ≠ [] ∧
      rglob (some "") entries = listing.map (·.found) ∧
      sortSources listing = sortSources sources := by
  obtain ⟨entries, rfl, hperm⟩ := h.files
  have hrange : rglob (some "") entries ∈
      Set.range (List.map SourceFile.found) := by
    rw [Set.range_list_map]
    intro file hfile
    obtain ⟨source, _, hsource⟩ := mem_map.mp (hperm.mem_iff.mp hfile)
    exact ⟨source, hsource⟩
  obtain ⟨listing, hlisting⟩ := hrange
  rw [← hlisting] at hperm
  have hsame := (List.map_perm_map_iff found_injective).mp hperm
  refine ⟨entries, listing, rfl, ?_, hlisting.symm,
    (sortSources_of_perm hsame.symm h.paths_nodup).symm⟩
  rintro rfl
  exact h.nonempty hsame.nil_eq.symm

theorem SourceTree.sourceFiles (h : SourceTree root sources) :
    StrategySdk.sourceFiles root = .ok (sortSources sources) := by
  obtain ⟨entries, listing, rfl, hne, hglob, hsort⟩ := h.listing
  simp only [StrategySdk.sourceFiles, hglob, bind_eq_ok, refuseIf_eq_ok,
    exists_const, pure_eq_ok]
  refine ⟨by simpa using hne, by simp [SourceFile.found], listing, ?_, hsort⟩
  exact collect_map fun source _ => rfl

theorem SourceTree.bundleSources_eq_ok (h : SourceTree root sources)
    {name : String} {sorted : List SourceFile} : bundleSources name root = .ok sorted ↔
      root.IsUtf8 ∧ sorted = sortSources sources := by
  obtain ⟨entries, listing, rfl, hne, hglob, hsort⟩ := h.listing
  simp only [bundleSources, bind_eq_ok, collectSources_eq_ok h.tree, hglob,
    refuseIf_eq_ok, exists_const, pure_eq_ok]
  constructor
  · rintro ⟨collected, ⟨hutf8, hsame⟩, _, rfl⟩
    obtain rfl := List.map_injective_iff.mpr found_injective hsame
    exact ⟨hutf8, hsort⟩
  · rintro ⟨hutf8, rfl⟩
    exact ⟨listing, ⟨hutf8, rfl⟩, hne, hsort⟩

end Follon.ControlPlane
