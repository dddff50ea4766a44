import Follon.Foundation.OrderedMap

/-!
# Rows with distinct keys

A list whose rows have distinct keys, searched by key and collected into a
map.
-/

namespace Follon.Foundation.KeyedRows

variable {α κ ν : Type} {key : α → κ}

variable {rows : List α}

variable {row : α} {value : α → ν}

theorem find?_eq_some [DecidableEq κ] (hdistinct : (rows.map key).Nodup)
    {k : κ} : rows.find? (fun row => key row == k) = some row
      ↔ row ∈ rows ∧ key row = k := by
  constructor
  · intro h
    have hkey := List.find?_some h
    exact ⟨List.mem_of_find?_eq_some h, by simpa using hkey⟩
  · rintro ⟨hmem, rfl⟩
    obtain ⟨found, hfound⟩ : ∃ found,
        rows.find? (fun other => key other == key row) = some found := by
      rw [← Option.isSome_iff_exists, List.find?_isSome]
      exact ⟨row, hmem, by simp⟩
    have hsame : key found = key row := by
      have hkey := List.find?_some hfound
      simpa using hkey
    rw [hfound, List.inj_on_of_nodup_map hdistinct
      (List.mem_of_find?_eq_some hfound) hmem hsame]

theorem filter_eq_singleton [DecidableEq κ] (hdistinct : (rows.map key).Nodup)
    (hmem : row ∈ rows) : (rows.filter fun other => key other = key row) = [row] := by
  have hnodup : rows.Nodup := hdistinct.of_map
  rw [← List.perm_singleton, List.perm_ext_iff_of_nodup (hnodup.filter _)
    (List.nodup_singleton row)]
  intro other
  rw [List.mem_filter, List.mem_singleton, decide_eq_true_iff]
  constructor
  · rintro ⟨hother, hsame⟩
    exact List.inj_on_of_nodup_map hdistinct hother hmem hsame
  · rintro rfl
    exact ⟨hmem, rfl⟩

theorem nodup_map_of_keys [DecidableEq κ] {value : α → ν} {rows : List α}
    (hwithin : ∀ k, ((rows.filter (key · == k)).map value).Nodup)
    (hacross : ∀ row ∈ rows, ∀ other ∈ rows, key row ≠ key other →
      value row ≠ value other) : (rows.map value).Nodup := by
  induction rows with
  | nil => exact List.nodup_nil
  | cons row rows ih =>
    rw [List.map_cons, List.nodup_cons]
    constructor
    · rw [List.mem_map]
      rintro ⟨other, hother, hsame⟩
      by_cases hkey : key other = key row
      · have hnodup := hwithin (key row)
        rw [List.filter_cons_of_pos (by simp), List.map_cons,
          List.nodup_cons] at hnodup
        refine hnodup.1 (List.mem_map.mpr ⟨other, ?_, hsame⟩)
        exact List.mem_filter.mpr ⟨hother, by simpa using hkey⟩
      · exact hacross other (List.mem_cons_of_mem _ hother) row
          List.mem_cons_self hkey hsame
    · refine ih (fun k => ?_) fun a ha b hb =>
        hacross a (List.mem_cons_of_mem _ ha) b (List.mem_cons_of_mem _ hb)
      have hsub : (rows.filter (key · == k)).Sublist
          ((row :: rows).filter (key · == k)) :=
        (List.sublist_cons_self row rows).filter _
      exact (hsub.map value).nodup (hwithin k)

variable [Ord κ] [Std.TransOrd κ] [Std.LawfulEqOrd κ] [DecidableEq κ]

def toMap (key : α → κ) (value : α → ν) (rows : List α) : OrderedMap κ ν :=
  rows.foldl (fun map row => map.insert (key row) (value row)) ∅

theorem foldl_insert_getElem? (hdistinct : (rows.map key).Nodup)
    (map : OrderedMap κ ν) (k : κ) :
    (rows.foldl (fun map row => map.insert (key row) (value row)) map)[k]?
      = ((rows.find? (fun row => key row == k)).map value).or map[k]? := by
  induction rows generalizing map with
  | nil => simp
  | cons row rows ih =>
    rw [List.map_cons, List.nodup_cons] at hdistinct
    rw [List.foldl_cons, ih hdistinct.2]
    by_cases hkey : key row = k
    · have hnone : rows.find? (fun other => key other == k) = none := by
        rw [List.find?_eq_none]
        intro other hother hsame
        apply hdistinct.1
        rw [hkey, ← eq_of_beq hsame]
        exact List.mem_map_of_mem hother
      rw [hnone, List.find?_cons_of_pos (by simpa using hkey), ← hkey]
      simp
    · rw [List.find?_cons_of_neg (by simpa using hkey),
        getElem?_insert_of_ne map _ hkey]

theorem toMap_getElem? (hdistinct : (rows.map key).Nodup) (k : κ) :
    (toMap key value rows)[k]?
      = (rows.find? fun row => key row == k).map value := by
  rw [toMap, foldl_insert_getElem? hdistinct]
  simp

omit [DecidableEq κ] in
/-- A loop that checks each row and refuses a key it has seen returns when the
rows pass and their keys are new and distinct. -/
theorem exists_foldlM_distinct {ε : Type} {P : α → Prop}
    {step : OrderedSet κ → α → Except ε (OrderedSet κ)}
    (hstep : ∀ seen row seen', step seen row = .ok seen' ↔
      (P row ∧ key row ∉ seen) ∧ seen' = seen.insert (key row))
    {rows : List α} {seen : OrderedSet κ} : (∃ seen', rows.foldlM step seen = .ok seen') ↔
      (∀ row ∈ rows, P row ∧ key row ∉ seen) ∧ (rows.map key).Nodup := by
  induction rows generalizing seen with
  | nil => simp [pure, Except.pure]
  | cons row rows ih =>
    have hcons : (∃ seen', (row :: rows).foldlM step seen = .ok seen') ↔
        (P row ∧ key row ∉ seen) ∧ ∃ seen',
          rows.foldlM step (seen.insert (key row)) = .ok seen' := by
      rw [List.foldlM_cons]
      constructor
      · rintro ⟨seen', hfold⟩
        cases hrow : step seen row with
        | error e =>
          rw [hrow] at hfold
          contradiction
        | ok next =>
          obtain ⟨hpasses, rfl⟩ := (hstep seen row next).mp hrow
          rw [hrow] at hfold
          exact ⟨hpasses, seen', hfold⟩
      · rintro ⟨hpasses, seen', hfold⟩
        refine ⟨seen', ?_⟩
        rw [(hstep seen row _).mpr ⟨hpasses, rfl⟩]
        exact hfold
    rw [hcons, ih, List.forall_mem_cons, List.map_cons, List.nodup_cons]
    simp only [mem_insert, Std.LawfulEqOrd.compare_eq_iff_eq,
      not_or, List.mem_map, not_exists, not_and]
    constructor
    · rintro ⟨hrow, hrest, hdistinct⟩
      exact ⟨⟨hrow, fun other hother => ⟨(hrest other hother).1,
        (hrest other hother).2.2⟩⟩,
        fun other hother hsame => (hrest other hother).2.1 hsame.symm,
        hdistinct⟩
    · rintro ⟨⟨hrow, hrest⟩, hnew, hdistinct⟩
      exact ⟨hrow, fun other hother => ⟨(hrest other hother).1,
        fun hsame => hnew other hother hsame.symm,
        (hrest other hother).2⟩, hdistinct⟩

omit [Ord κ] [Std.TransOrd κ] [Std.LawfulEqOrd κ] [DecidableEq κ] in
theorem insertionSort_perm [LinearOrder κ] {rows' : List α}
    (hdistinct : (rows.map key).Nodup) (hperm : rows'.Perm rows) :
    rows'.insertionSort (fun left right => key left ≤ key right) =
      rows.insertionSort fun left right => key left ≤ key right := by
  have hsort := List.perm_insertionSort
    (fun left right => key left ≤ key right) rows
  have hsort' := List.perm_insertionSort
    (fun left right => key left ≤ key right) rows'
  refine (hsort'.trans (hperm.trans hsort.symm)).eq_of_pairwise ?_
    (List.pairwise_insertionSort _ rows') (List.pairwise_insertionSort _ rows)
  intro left right hleft hright hle hle'
  exact List.inj_on_of_nodup_map hdistinct
    (hperm.mem_iff.mp (hsort'.mem_iff.mp hleft)) (hsort.mem_iff.mp hright)
    (le_antisymm hle hle')

end Follon.Foundation.KeyedRows

/-!
## Folds kept under keys

A loop that keeps one accumulator for each key runs, under every key, the loop
over the items of that key alone.
-/

namespace Follon.Foundation

variable {κ α ν ε : Type} [Ord κ] [Std.TransOrd κ]

def foldFrom (start : α → ν) (step : ν → α → Except ε ν) :
    Option ν → List α → Except ε (Option ν)
  | held, [] => .ok held
  | held, item :: items => do
    let value ← step (held.getD (start item)) item
    foldFrom start step (some value) items

namespace OrderedMap

/-- `let held = map.entry(key).or_insert(start); *held = step(held, item)?` -/
def stepAt (keyOf : α → κ) (start : α → ν) (step : ν → α → Except ε ν)
    (map : OrderedMap κ ν) (item : α) : Except ε (OrderedMap κ ν) := do
  let value ← step (map[keyOf item]?.getD (start item)) item
  pure (map.insert (keyOf item) value)

variable {keyOf : α → κ} {start : α → ν} {step : ν → α → Except ε ν}
  {map : OrderedMap κ ν}

theorem stepAt_ok {item : α} {value : ν}
    (h : step (map[keyOf item]?.getD (start item)) item = .ok value) :
    stepAt keyOf start step map item = .ok (map.insert (keyOf item) value) := by
  rw [stepAt, h]
  rfl

variable [Std.LawfulEqOrd κ] [DecidableEq κ]

variable {items : List α}

theorem foldlM_stepAt_eq_ok {map' : OrderedMap κ ν} :
    items.foldlM (stepAt keyOf start step) map = .ok map' ↔
      ∀ key : κ, foldFrom start step map[key]?
        (items.filter fun item => keyOf item = key) = .ok map'[key]? := by
  induction items generalizing map with
  | nil =>
    simp only [List.foldlM_nil, List.filter_nil, foldFrom, pure, Except.pure,
      Except.ok.injEq]
    exact ⟨fun h _ => h ▸ rfl, fun h => ext_getElem? h⟩
  | cons item items ih =>
    cases hvalue : step (map[keyOf item]?.getD (start item)) item with
    | error e =>
      have hstep : stepAt keyOf start step map item = .error e := by
        simp only [stepAt, hvalue]
        rfl
      rw [List.foldlM_cons, hstep]
      refine iff_of_false nofun fun h => ?_
      have hkey := h (keyOf item)
      rw [List.filter_cons_of_pos (by simp), foldFrom, hvalue] at hkey
      contradiction
    | ok value =>
      rw [List.foldlM_cons, stepAt_ok hvalue]
      refine ih.trans (forall_congr' fun key => ?_)
      by_cases hkey : keyOf item = key
      · subst hkey
        rw [getElem?_insert_self, List.filter_cons_of_pos (by simp),
          foldFrom, hvalue]
        rfl
      · rw [getElem?_insert_of_ne map value hkey,
          List.filter_cons_of_neg (by simpa using hkey)]

theorem exists_foldlM_stepAt (h : ∀ key : κ, ∃ held, foldFrom start step map[key]?
      (items.filter fun item => keyOf item = key) = .ok held) :
    ∃ map', items.foldlM (stepAt keyOf start step) map = .ok map' := by
  induction items generalizing map with
  | nil => exact ⟨map, rfl⟩
  | cons item items ih =>
    obtain ⟨held, hheld⟩ := h (keyOf item)
    rw [List.filter_cons_of_pos (by simp), foldFrom] at hheld
    cases hvalue : step (map[keyOf item]?.getD (start item)) item with
    | error e =>
      rw [hvalue] at hheld
      contradiction
    | ok value =>
      rw [List.foldlM_cons, stepAt_ok hvalue]
      apply ih
      intro key
      by_cases hkey : keyOf item = key
      · subst hkey
        rw [hvalue] at hheld
        rw [getElem?_insert_self]
        exact ⟨held, hheld⟩
      · rw [getElem?_insert_of_ne map value hkey]
        have hother := h key
        rwa [List.filter_cons_of_neg (by simpa using hkey)] at hother

end OrderedMap

end Follon.Foundation
