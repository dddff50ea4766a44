import Follon.Foundation.MapTotals

/-!
# Items grouped under keys

A map from each key to the items that have it, in the order they came, and
what a conversion of every group leaves under a key.
-/

namespace Follon.Foundation.OrderedMap

variable {κ α ν μ ε : Type} [Ord κ] [Std.TransOrd κ]

def push (map : OrderedMap κ (List α)) (key : κ) (item : α) : OrderedMap κ (List α) :=
  map.insert key (map[key]?.getD [] ++ [item])

section

variable [DecidableEq κ]

def Groups (keyOf : α → κ) (items : List α) (map : OrderedMap κ (List α)) : Prop :=
  ∀ key, map[key]?.getD [] = items.filter (fun item => keyOf item = key) ∧
    map[key]? ≠ some []

theorem groups_nil (keyOf : α → κ) : Groups keyOf [] (∅ : OrderedMap κ (List α)) := by
  intro key
  simp

variable {keyOf : α → κ} {items : List α} {map : OrderedMap κ (List α)}

theorem Groups.push [Std.LawfulEqOrd κ] (h : Groups keyOf items map) (item : α) :
    Groups keyOf (items ++ [item]) (map.push (keyOf item) item) := by
  intro key
  unfold OrderedMap.push
  by_cases hkey : keyOf item = key
  · subst hkey
    simp [(h (keyOf item)).1]
  · rw [getElem?_insert_of_ne map _ hkey, List.filter_append]
    simp [hkey, h key]

theorem groups_foldl [Std.LawfulEqOrd κ] (keyOf : α → κ) (items : List α) :
    Groups keyOf items
      (items.foldl (fun map item => push map (keyOf item) item) ∅) := by
  have hall : ∀ seen (map : OrderedMap κ (List α)), Groups keyOf seen map →
      Groups keyOf (seen ++ items)
        (items.foldl (fun map item => push map (keyOf item) item) map) := by
    induction items with
    | nil => simp
    | cons item items ih =>
      intro seen map h
      have := ih (seen ++ [item]) (map.push (keyOf item) item) (h.push item)
      rwa [List.append_assoc] at this
  exact hall [] ∅ (groups_nil keyOf)

theorem Groups.getElem?_eq_some (h : Groups keyOf items map) {key : κ}
    {group : List α} : map[key]? = some group ↔
      group ≠ [] ∧ group = items.filter (fun item => keyOf item = key) := by
  have hkey := h key
  constructor
  · intro hgroup
    rw [hgroup] at hkey
    exact ⟨fun hnil => hkey.2 (by rw [hnil]), hkey.1⟩
  · intro hgroup
    cases hmap : map[key]? with
    | none =>
      rw [hmap, ← hgroup.2] at hkey
      exact absurd hkey.1.symm hgroup.1
    | some group' =>
      rw [hmap, ← hgroup.2] at hkey
      exact congrArg some hkey.1

theorem Groups.exists_group (h : Groups keyOf items map) {item : α}
    (hitem : item ∈ items) : ∃ group, map[keyOf item]? = some group ∧ item ∈ group := by
  have hmem : item ∈ items.filter fun other => keyOf other = keyOf item :=
    List.mem_filter.mpr ⟨hitem, by simp⟩
  exact ⟨_, h.getElem?_eq_some.mpr ⟨List.ne_nil_of_mem hmem, rfl⟩, hmem⟩

theorem Groups.pairwise_iff (h : Groups keyOf items map) (R : α → α → Prop) :
    (∀ (key : κ) (group : List α), map[key]? = some group → group.Pairwise R) ↔
      items.Pairwise fun item item' => keyOf item = keyOf item' →
        R item item' := by
  have hfilter : ∀ key, (items.filter fun item => keyOf item = key).Pairwise R ↔
      items.Pairwise fun item item' => keyOf item = key → keyOf item' = key →
        R item item' := by
    intro key
    rw [List.pairwise_filter]
    simp
  constructor
  · intro hgroups
    have hall : ∀ key, items.Pairwise fun item item' =>
        keyOf item = key → keyOf item' = key → R item item' := by
      intro key
      rw [← hfilter key]
      by_cases hnil : (items.filter fun item => keyOf item = key) = []
      · rw [hnil]
        exact List.Pairwise.nil
      · exact hgroups key _ (h.getElem?_eq_some.mpr ⟨hnil, rfl⟩)
    rw [List.pairwise_iff_getElem]
    intro i j hi hj hlt hkey
    exact List.pairwise_iff_getElem.mp (hall (keyOf items[j])) i j hi hj hlt
      hkey rfl
  · intro hitems key group hgroup
    rw [(h.getElem?_eq_some.mp hgroup).2, hfilter]
    exact hitems.imp fun hR hkey hkey' => hR (hkey.trans hkey'.symm)

end

/-! ## Conversions of every value -/

theorem insertEach_eq_ok {convert : κ → ν → Except ε μ}
    {entries : List (κ × ν)} {map : OrderedMap κ μ}
    (h : ∀ entry ∈ entries, ∃ value, convert entry.1 entry.2 = .ok value) :
    ∃ map', insertEach convert entries map = .ok map' := by
  induction entries generalizing map with
  | nil => exact ⟨map, rfl⟩
  | cons entry entries ih =>
    rw [List.forall_mem_cons] at h
    cases h.1 with
    | intro value hvalue =>
      simp only [insertEach, hvalue]
      exact ih h.2

section

variable [Std.LawfulEqOrd κ]

variable {convert : κ → ν → Except ε μ}

theorem getElem?_insertEach {entries : List (κ × ν)}
    {map map' : OrderedMap κ μ} (h : insertEach convert entries map = .ok map')
    (hdistinct : (entries.map (·.1)).Nodup) :
    (∀ entry ∈ entries, ∃ value, convert entry.1 entry.2 = .ok value ∧
      map'[entry.1]? = some value) ∧
      ∀ key : κ, key ∉ entries.map (·.1) → map'[key]? = map[key]? := by
  induction entries generalizing map with
  | nil =>
    obtain rfl := Except.ok.inj h
    simp
  | cons entry entries ih =>
    rw [List.map_cons, List.nodup_cons] at hdistinct
    cases hvalue : convert entry.1 entry.2 with
    | error e =>
      simp only [insertEach, hvalue] at h
      cases h
    | ok value =>
      simp only [insertEach, hvalue] at h
      have hrest := ih h hdistinct.2
      constructor
      · rw [List.forall_mem_cons]
        refine ⟨⟨value, hvalue, ?_⟩, hrest.1⟩
        rw [hrest.2 entry.1 hdistinct.1, getElem?_insert_self]
      · intro key hkey
        rw [List.map_cons, List.mem_cons, not_or] at hkey
        rw [hrest.2 key hkey.2, getElem?_insert_of_ne map value (Ne.symm hkey.1)]

theorem exists_traverse_iff {map : OrderedMap κ ν} :
    (∃ map', map.traverse convert = .ok map') ↔
      ∀ (key : κ) (value : ν), map[key]? = some value →
        ∃ converted, convert key value = .ok converted := by
  constructor
  · rintro ⟨map', h⟩ key value hvalue
    have hentry := (getElem?_insertEach h map.nodup_keys).1 (key, value)
      (mem_toList_iff_getElem?_eq_some.mpr hvalue)
    exact ⟨hentry.choose, hentry.choose_spec.1⟩
  · intro h
    apply insertEach_eq_ok
    rintro ⟨key, value⟩ hentry
    exact h key value
      (mem_toList_iff_getElem?_eq_some.mp hentry)

theorem getElem?_traverse {map : OrderedMap κ ν} {map' : OrderedMap κ μ}
    (h : map.traverse convert = .ok map') {key : κ} {converted : μ} :
    map'[key]? = some converted ↔
      ∃ value, map[key]? = some value ∧ convert key value = .ok converted := by
  have hall := getElem?_insertEach h map.nodup_keys
  constructor
  · intro hconverted
    cases hvalue : map[key]? with
    | none =>
      have hkey : key ∉ map.toList.map (·.1) := by
        rw [List.mem_map]
        rintro ⟨⟨key', value⟩, hentry, rfl⟩
        rw [mem_toList_iff_getElem?_eq_some.mp hentry] at hvalue
        cases hvalue
      rw [hall.2 key hkey] at hconverted
      simp at hconverted
    | some value =>
      obtain ⟨converted', hconvert, hsame⟩ := hall.1 (key, value)
        (mem_toList_iff_getElem?_eq_some.mpr hvalue)
      rw [hconverted] at hsame
      exact ⟨value, rfl, by rw [hconvert, Option.some.inj hsame]⟩
  · rintro ⟨value, hvalue, hconvert⟩
    obtain ⟨converted', hconvert', hsame⟩ := hall.1 (key, value)
      (mem_toList_iff_getElem?_eq_some.mpr hvalue)
    rw [hconvert] at hconvert'
    rw [hsame, Except.ok.inj hconvert']

end

end Follon.Foundation.OrderedMap
