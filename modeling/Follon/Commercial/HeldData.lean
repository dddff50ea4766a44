import Follon.Commercial.Retention
import Mathlib.Data.List.Pairwise

/-!
# Held files and deletion plans

A hold is attached to an asset, a deletion to a file.  A plan spares the held
files exactly when no file is listed twice in the inventory, once as due for
deletion and once as held, or twice as due under two spellings.
-/

namespace Follon.Commercial

open Foundation Domain

def FileSystem.SameFile (fs : FileSystem) (dataRoot path path' : String) : Prop :=
  ∃ file, fs.assetFile dataRoot path = .ok file ∧ fs.assetFile dataRoot path' = .ok file

instance (fs : FileSystem) (dataRoot path path' : String) :
    Decidable (fs.SameFile dataRoot path path') :=
  inferInstanceAs (Decidable (∃ file, fs.assetFile dataRoot path = .ok file ∧
    fs.assetFile dataRoot path' = .ok file))

theorem FileSystem.SameFile.symm {fs : FileSystem}
    {dataRoot path path' : String} (h : fs.SameFile dataRoot path path') :
    fs.SameFile dataRoot path' path := by
  obtain ⟨file, hpath, hpath'⟩ := h
  exact ⟨file, hpath', hpath⟩

structure RetentionPlan.SparesFiles (plan : RetentionPlan) (fs : FileSystem)
    (dataRoot : String) (assets : List DataAsset)
    (kept : DataAsset → Bool) : Prop where
  kept_spared : ∀ candidate ∈ plan.candidates, ∀ asset ∈ assets, kept asset = true →
      ¬fs.SameFile dataRoot candidate.relativePath asset.relativePath
  named_once : plan.candidates.Pairwise fun candidate candidate' =>
    ¬fs.SameFile dataRoot candidate.relativePath candidate'.relativePath

/-- No file is listed both as due for deletion and as kept, and none is listed
as due under two spellings. -/
structure DeletionRule.FilesApart (rule : DeletionRule) (fs : FileSystem)
    (dataRoot : String) (assets : List DataAsset)
    (kept : DataAsset → Bool) : Prop where
  from_kept : ∀ asset ∈ assets, rule.deletes asset = true →
    ∀ other ∈ assets, kept other = true →
      ¬fs.SameFile dataRoot asset.relativePath other.relativePath
  from_each_other : ∀ asset ∈ assets, rule.deletes asset = true →
    ∀ other ∈ assets, rule.deletes other = true →
      asset.relativePath ≠ other.relativePath →
      ¬fs.SameFile dataRoot asset.relativePath other.relativePath

/-! ## What a returned plan names -/

theorem checkCandidates_nodup {ids paths ids' : List String}
    {candidates : List RetentionCandidate}
    (h : checkCandidates ids paths candidates = .ok ids') :
    (candidates.map (·.relativePath)).Nodup ∧
      ∀ path ∈ candidates.map (·.relativePath), path ∉ paths := by
  induction candidates generalizing ids paths with
  | nil => simp
  | cons candidate rest ih =>
    simp only [checkCandidates, bind_eq_ok, refuseIf_eq_ok, not_or] at h
    obtain ⟨_, _, _, _, _, _, _, ⟨_, hfresh, _⟩, hrest⟩ := h
    have hbelow := ih hrest
    constructor
    · rw [map_cons, nodup_cons]
      constructor
      · intro hmem
        exact hbelow.2 _ hmem mem_cons_self
      · exact hbelow.1
    · intro path hpath
      rw [map_cons, mem_cons] at hpath
      cases hpath with
      | inl hpath => rwa [hpath]
      | inr hpath =>
        intro hmem
        exact hbelow.2 path hpath (mem_cons_of_mem _ hmem)

theorem RetentionPlan.validate_nodup {plan : RetentionPlan}
    (h : plan.validate = .ok ()) : (plan.candidates.map (·.relativePath)).Nodup := by
  simp only [RetentionPlan.validate, bind_eq_ok] at h
  obtain ⟨_, _, _, _, _, _, _, _, ids, hcandidates, _⟩ := h
  exact (checkCandidates_nodup hcandidates).1

section
variable [ContentHash]

theorem candidateFromAsset_path {fs : FileSystem} {root : String}
    {asset : DataAsset} {reason : DeletionReason} {candidate : RetentionCandidate}
    (h : candidateFromAsset fs root asset reason = .ok candidate) :
    candidate.relativePath = asset.relativePath := by
  simp only [candidateFromAsset, bind_eq_ok] at h
  obtain ⟨_, _, _, _, _, _, h⟩ := h
  cases h
  rfl

namespace DeletionRule

variable {rule : DeletionRule} {fs : FileSystem} {root : String}
  {assets : List DataAsset} {plan : RetentionPlan}

def Finds (rule : DeletionRule) (seen : List DataAsset)
    (found : List RetentionCandidate × List String) : Prop :=
  found.1.map (·.relativePath) =
    (seen.filter fun asset => !rule.withholds asset && rule.due asset).map
      (·.relativePath)

theorem Finds.consider {seen : List DataAsset} {asset : DataAsset}
    {found found' : List RetentionCandidate × List String} (hseen : rule.Finds seen found)
    (h : rule.consider fs root found asset = .ok found') :
    rule.Finds (seen ++ [asset]) found' := by
  simp only [DeletionRule.consider, bind_eq_ok] at h
  obtain ⟨_, _, h⟩ := h
  rw [Finds, filter_append, map_append, ← hseen]
  cases hwithheld : rule.withholds asset with
  | true =>
    simp only [hwithheld, if_true] at h
    cases h
    simp [hwithheld]
  | false =>
    cases hdue : rule.due asset with
    | true =>
      simp only [hwithheld, hdue, if_true, Bool.false_eq_true, if_false,
        bind_eq_ok] at h
      obtain ⟨candidate, hcandidate, h⟩ := h
      cases h
      simp [hwithheld, hdue, candidateFromAsset_path hcandidate]
    | false =>
      simp only [hwithheld, hdue, Bool.false_eq_true, if_false] at h
      cases h
      simp [hdue]

variable {tenantId : String} {privacyRequestId : Option String}

theorem plan_paths {asOf : String}
    (h : rule.plan fs root assets tenantId privacyRequestId asOf = .ok plan) :
    (plan.candidates.map (·.relativePath)).Nodup ∧
      ((plan.candidates.map (·.relativePath)).Perm
        ((assets.filter rule.deletes).map (·.relativePath))) := by
  simp only [DeletionRule.plan, bind_eq_ok] at h
  obtain ⟨found, hfound, _, hvalid, h⟩ := h
  cases h
  have hnone : rule.Finds [] ([], []) := rfl
  have hpaths : rule.Finds ([] ++ assets.filter rule.selects) found :=
    foldlM_over (fun _ _ _ _ hseen h => hseen.consider h) hnone hfound
  constructor
  · exact RetentionPlan.validate_nodup hvalid
  · have hsame : assets.filter rule.deletes =
        (assets.filter rule.selects).filter fun asset =>
          !rule.withholds asset && rule.due asset := by
      rw [List.filter_filter]
      apply List.filter_congr
      intro asset _
      simp only [deletes]
      grind
    rw [hsame, ← nil_append (assets.filter rule.selects)]
    rw [Finds] at hpaths
    rw [← hpaths]
    exact (List.perm_insertionSort _ _).map _

theorem spares_iff {dataRoot asOf : String} {kept : DataAsset → Bool}
    (h : rule.plan fs root assets tenantId privacyRequestId asOf = .ok plan) :
    plan.SparesFiles fs dataRoot assets kept ↔
      rule.FilesApart fs dataRoot assets kept := by
  obtain ⟨hnodup, hperm⟩ := plan_paths h
  have hmem : ∀ path, path ∈ plan.candidates.map (·.relativePath) ↔
      ∃ asset ∈ assets, rule.deletes asset = true ∧
        asset.relativePath = path := by
    intro path
    rw [hperm.mem_iff]
    simp [and_assoc]
  have hpairs : (plan.candidates.Pairwise fun candidate candidate' =>
      ¬fs.SameFile dataRoot candidate.relativePath candidate'.relativePath) ↔
        (plan.candidates.map (·.relativePath)).Pairwise
          fun path path' => ¬fs.SameFile dataRoot path path' := by
    rw [pairwise_map]
  constructor
  · intro hspares
    constructor
    · intro asset hasset hdeletes other hother hkept
      have hpath := (hmem asset.relativePath).mpr
        ⟨asset, hasset, hdeletes, rfl⟩
      obtain ⟨candidate, hcandidate, hsame⟩ := mem_map.mp hpath
      rw [← hsame]
      exact hspares.kept_spared candidate hcandidate other hother hkept
    · intro asset hasset hdeletes other hother hdeletes' hne
      have : Std.Symm fun path path' => ¬fs.SameFile dataRoot path path' :=
        ⟨fun _ _ hapart hsame => hapart hsame.symm⟩
      exact (hpairs.mp hspares.named_once).forall
        ((hmem _).mpr ⟨asset, hasset, hdeletes, rfl⟩)
        ((hmem _).mpr ⟨other, hother, hdeletes', rfl⟩) hne
  · intro hapart
    constructor
    · intro candidate hcandidate other hother hkept
      obtain ⟨asset, hasset, hdeletes, hsame⟩ :=
        (hmem candidate.relativePath).mp (mem_map_of_mem hcandidate)
      rw [← hsame]
      exact hapart.from_kept asset hasset hdeletes other hother hkept
    · rw [hpairs]
      apply hnodup.pairwise_of_forall_ne
      intro path hpath path' hpath' hne
      obtain ⟨asset, hasset, hdeletes, rfl⟩ := (hmem path).mp hpath
      obtain ⟨other, hother, hdeletes', rfl⟩ := (hmem path').mp hpath'
      exact hapart.from_each_other asset hasset hdeletes other hother
        hdeletes' hne

end DeletionRule

/-! ## Both planners -/

def DataAsset.isHeld (asset : DataAsset) : Bool := asset.legalHold

def DataAsset.isImmutable (asset : DataAsset) : Bool :=
  asset.legalHold || asset.classification == .auditEvidence

/-- A returned plan spares the held files exactly when the inventory lists no
file as due for deletion a second time. -/
theorem plans_spare_held_files_iff (fs : FileSystem) (dataRoot : String)
    (assets : List DataAsset) (asOf : String) : (∀ tenantId plan,
      planExpiredRetention fs dataRoot assets tenantId asOf = .ok plan →
        (plan.SparesFiles fs dataRoot assets DataAsset.isHeld ↔
          (expiredRetention tenantId asOf).FilesApart fs dataRoot assets
            DataAsset.isHeld)) ∧
      ∀ request plan, planPrivacyErasure fs dataRoot assets request asOf = .ok plan →
          (plan.SparesFiles fs dataRoot assets DataAsset.isImmutable ↔
            (privacyErasure request).FilesApart fs dataRoot assets
              DataAsset.isImmutable) := by
  constructor
  · intro tenantId plan h
    simp only [planExpiredRetention, bind_eq_ok] at h
    obtain ⟨_, _, _, _, root, _, h⟩ := h
    exact DeletionRule.spares_iff h
  · intro request plan h
    simp only [planPrivacyErasure, bind_eq_ok] at h
    obtain ⟨_, _, _, _, _, _, _, _, root, _, h⟩ := h
    exact DeletionRule.spares_iff h

end

namespace HeldDataRun

@[reducible] def emptyFileHash : ContentHash where
  hexDigest _ :=
    "e3b0c44298fc1c149afbf4c8996fb92427ae41e4649b934ca495991b7852b855"

attribute [local instance] emptyFileHash

def disk : FileSystem where
  symlinkMetadata path :=
    if path = "/data" then .ok .directory
    else if path ∈ ["/data/notes/a", "/data/notes//a", "/data/notes/b"] then
      .ok .file
    else .error ⟨"No such file or directory (os error 2)"⟩
  canonicalize path :=
    if path = "/data" then .ok "/data"
    else if path ∈ ["/data/notes/a", "/data/notes//a"] then
      .ok "/data/notes/a"
    else if path = "/data/notes/b" then .ok "/data/notes/b"
    else .error ⟨"No such file or directory (os error 2)"⟩
  length _ := .ok 0
  read _ := .ok []

def asset (assetId relativePath : String) (legalHold : Bool) : DataAsset where
  assetId
  tenantId := "acme"
  relativePath
  classification := .customerContent
  createdAt := "2026-01-01T00:00:00Z"
  retainUntil := "2026-01-31T00:00:00Z"
  subjectHashes := []
  legalHold

def asOf : String := "2026-02-01T00:00:00Z"

def planOf (assets : List DataAsset) : Result RetentionPlan :=
  planExpiredRetention disk "/data" assets "acme" asOf

/-- A due file beside a held one is the whole plan. -/
theorem plan_spares_other_file : ∃ plan,
      planOf [asset "held" "notes/a" true, asset "note" "notes/b" false] =
        .ok plan ∧
      plan.candidates.map (·.relativePath) = ["notes/b"] ∧
      plan.SparesFiles disk "/data"
        [asset "held" "notes/a" true, asset "note" "notes/b" false]
        DataAsset.isHeld := by
  refine ⟨_, rfl, rfl, ?_⟩
  apply ((plans_spare_held_files_iff disk "/data"
    [asset "held" "notes/a" true, asset "note" "notes/b" false] asOf).1
    "acme" _ rfl).mpr
  constructor
  · decide
  · decide

/-- A held file is planned for deletion through a second asset that lists it,
and one file is planned twice under two spellings. -/
theorem held_file_is_planned : (∃ plan,
      planOf [asset "held" "notes/a" true, asset "note" "notes/a" false] =
        .ok plan ∧
      ¬plan.SparesFiles disk "/data"
        [asset "held" "notes/a" true, asset "note" "notes/a" false]
        DataAsset.isHeld) ∧
      ∃ plan, planOf [asset "n1" "notes/a" false, asset "n2" "notes//a" false] =
          .ok plan ∧
        ¬plan.SparesFiles disk "/data"
          [asset "n1" "notes/a" false, asset "n2" "notes//a" false]
          DataAsset.isHeld := by
  constructor
  · refine ⟨_, rfl, ?_⟩
    intro hspares
    exact hspares.kept_spared _ mem_cons_self
      (asset "held" "notes/a" true) mem_cons_self rfl (by decide)
  · refine ⟨_, rfl, ?_⟩
    intro hspares
    exact (pairwise_cons.mp hspares.named_once).1 _ mem_cons_self
      (by decide)

end HeldDataRun

end Follon.Commercial
