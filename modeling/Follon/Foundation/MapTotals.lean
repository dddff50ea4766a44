import Follon.Foundation.OrderedMap
import Mathlib.Algebra.BigOperators.Group.List.Basic
import Mathlib.Algebra.Ring.Int.Defs

/-!
# Totals over ordered maps

The sum of a quantity over the values of a map, and what one write does to it.
-/

namespace Follon.Foundation.OrderedMap

variable {κ ν : Type} [Ord κ] [Std.TransOrd κ]

theorem values_eq_map_snd (map : OrderedMap κ ν) : map.values = map.toList.map (·.2) := by
  have hfold : map.values
      = map.foldr (fun _ value values => value :: values) [] := by
    obtain ⟨⟨inner⟩⟩ := map
    rfl
  rw [hfold, Std.ExtTreeMap.foldr_eq_foldr_toList]
  induction map.toList with
  | nil => rfl
  | cons entry entries ih => simp [ih]

theorem mem_values [Std.LawfulEqOrd κ] {map : OrderedMap κ ν} {value : ν} :
    value ∈ map.values ↔ ∃ key : κ, map[key]? = some value := by
  simp only [values_eq_map_snd, List.mem_map, Prod.exists,
    exists_eq_right, mem_toList_iff_getElem?_eq_some]

def total (f : ν → Int) (map : OrderedMap κ ν) : Int := (map.values.map f).sum

theorem total_eq_toList (f : ν → Int) (map : OrderedMap κ ν) :
    map.total f = (map.toList.map fun entry => f entry.2).sum := by
  rw [total, values_eq_map_snd, List.map_map]
  rfl

@[simp] theorem total_empty (f : ν → Int) : total f (∅ : OrderedMap κ ν) = 0 := by
  have hnil : (∅ : OrderedMap κ ν).toList = [] := Std.ExtTreeMap.toList_eq_nil_iff.mpr rfl
  simp [total_eq_toList, hnil]

section

variable [Std.LawfulEqOrd κ]

def others (map : OrderedMap κ ν) (key : κ) : List (κ × ν) :=
  map.toList.filter fun entry => compare entry.1 key ≠ .eq

variable {map : OrderedMap κ ν} {key : κ} {value : ν} {μ ε β : Type}
  {f : ν → Int}

theorem mem_others {key' : κ} :
    (key', value) ∈ map.others key ↔ map[key']? = some value ∧ key' ≠ key := by
  simp [others, mem_toList_iff_getElem?_eq_some]

theorem nodup_toList (map : OrderedMap κ ν) : map.toList.Nodup :=
  Std.ExtTreeMap.distinct_keys_toList.imp fun hne heq => hne (by simp [heq])

theorem others_of_none (h : map[key]? = none) : map.others key = map.toList := by
  rw [others, List.filter_eq_self]
  rintro ⟨key', value'⟩ hmem
  rw [mem_toList_iff_getElem?_eq_some] at hmem
  have hne : key' ≠ key := fun heq => by simp [heq, h] at hmem
  simp [hne]

theorem toList_perm {map' : OrderedMap κ ν} (hself : map'[key]? = some value)
    (hframe : ∀ key', key' ≠ key → map'[key']? = map[key']?) :
    map'.toList.Perm ((key, value) :: map.others key) := by
  refine (List.perm_ext_iff_of_nodup map'.nodup_toList ?_).mpr ?_
  · rw [List.nodup_cons]
    exact ⟨by simp [mem_others], map.nodup_toList.filter _⟩
  · rintro ⟨key', value'⟩
    rw [List.mem_cons, mem_others, Prod.mk.injEq, mem_toList_iff_getElem?_eq_some]
    by_cases hkey : key' = key
    · subst hkey
      simp [hself, eq_comm]
    · simp [hkey, hframe key' hkey]

theorem toList_insert_perm (map : OrderedMap κ ν) (key : κ) (value : ν) :
    (map.insert key value).toList.Perm ((key, value) :: map.others key) :=
  toList_perm (getElem?_insert_self map key value)
    fun _ hne => getElem?_insert_of_ne map value (Ne.symm hne)

theorem total_others (f : ν → Int) (map : OrderedMap κ ν) (key : κ) :
    ((map.others key).map fun entry => f entry.2).sum
      = map.total f - map[key]?.elim 0 f := by
  cases h : map[key]? with
  | none =>
    rw [others_of_none h, ← total_eq_toList]
    simp
  | some value =>
    have hperm := toList_perm h fun _ _ => rfl
    rw [total_eq_toList, (hperm.map fun entry => f entry.2).sum_eq]
    simp

theorem total_insert (f : ν → Int) (map : OrderedMap κ ν) (key : κ) (value : ν) :
    total f (map.insert key value)
      = map.total f - map[key]?.elim 0 f + f value := by
  rw [total_eq_toList,
    ((map.toList_insert_perm key value).map fun entry => f entry.2).sum_eq,
    List.map_cons, List.sum_cons, total_others]
  exact add_comm _ _

def entryTotal (g : κ → ν → Int) (map : OrderedMap κ ν) : Int :=
  (map.toList.map fun entry => g entry.1 entry.2).sum

omit [Std.LawfulEqOrd κ] in
@[simp] theorem entryTotal_empty (g : κ → ν → Int) :
    entryTotal g (∅ : OrderedMap κ ν) = 0 := by
  have hnil : (∅ : OrderedMap κ ν).toList = [] := Std.ExtTreeMap.toList_eq_nil_iff.mpr rfl
  simp [entryTotal, hnil]

theorem entryTotal_insert (g : κ → ν → Int) (map : OrderedMap κ ν) (key : κ)
    (value : ν) : entryTotal g (map.insert key value)
      = map.entryTotal g - map[key]?.elim 0 (g key) + g key value := by
  have hinsert := ((map.toList_insert_perm key value).map
    fun entry => g entry.1 entry.2).sum_eq
  simp only [List.map_cons, List.sum_cons] at hinsert
  rw [entryTotal, hinsert]
  cases h : map[key]? with
  | none =>
    rw [others_of_none h, Option.elim_none, entryTotal]
    omega
  | some held =>
    have hheld := ((toList_perm h fun _ _ => rfl).map
      fun entry => g entry.1 entry.2).sum_eq
    simp only [List.map_cons, List.sum_cons] at hheld
    rw [Option.elim_some, entryTotal, hheld]
    omega

variable {convert : κ → ν → Except ε μ} {g : μ → Int} {map' : OrderedMap κ μ}

theorem total_insertEach (hconvert : ∀ key value converted,
      convert key value = .ok converted → g converted = f value)
    {entries : List (κ × ν)} {map : OrderedMap κ μ}
    (h : insertEach convert entries map = .ok map')
    (hdistinct : (entries.map (·.1)).Nodup)
    (hfree : ∀ entry ∈ entries, map[entry.1]? = none) : map'.total g
      = map.total g + (entries.map fun entry => f entry.2).sum := by
  induction entries generalizing map with
  | nil =>
    obtain rfl := Except.ok.inj h
    simp
  | cons entry entries ih =>
    obtain ⟨key, value⟩ := entry
    rw [List.map_cons, List.nodup_cons] at hdistinct
    cases hvalue : convert key value with
    | error e =>
      simp only [insertEach, hvalue] at h
      cases h
    | ok converted =>
      simp only [insertEach, hvalue] at h
      have hkey : map[key]? = none := hfree _ List.mem_cons_self
      rw [ih h hdistinct.2, total_insert, hkey, hconvert key value converted hvalue]
      · simp only [Option.elim_none, List.map_cons, List.sum_cons]
        omega
      · intro other hother
        have hne : key ≠ other.1 := by
          rintro rfl
          exact hdistinct.1 (List.mem_map.mpr ⟨other, hother, rfl⟩)
        rw [getElem?_insert_of_ne map converted hne]
        exact hfree other (List.mem_cons_of_mem _ hother)

theorem flatMap_insert_perm (f : ν → List β) (map : OrderedMap κ ν) (key : κ)
    (value : ν) : ((map.insert key value).values.flatMap f).Perm
      (f value ++ (map.others key).flatMap fun entry => f entry.2) := by
  rw [values_eq_map_snd, List.flatMap_map]
  exact (map.toList_insert_perm key value).flatMap_right _

theorem flatMap_values_perm (f : ν → List β) (map : OrderedMap κ ν) (key : κ)
    : (map.values.flatMap f).Perm
      (map[key]?.elim [] f ++
        (map.others key).flatMap fun entry => f entry.2) := by
  rw [values_eq_map_snd, List.flatMap_map]
  cases h : map[key]? with
  | none =>
    rw [others_of_none h]
    exact .refl _
  | some value => exact (toList_perm h fun _ _ => rfl).flatMap_right _

theorem nodup_keys (map : OrderedMap κ ν) : (map.toList.map (·.1)).Nodup := by
  rw [List.Nodup, List.pairwise_map]
  exact Std.ExtTreeMap.distinct_keys_toList.imp fun hne heq =>
    hne (by rw [heq]; exact Std.ReflCmp.compare_self)

theorem total_traverse (hconvert : ∀ key value converted,
      convert key value = .ok converted → g converted = f value)
    (h : map.traverse convert = .ok map') : map'.total g = map.total f := by
  rw [total_insertEach hconvert h map.nodup_keys (fun _ _ => by simp),
    total_empty, ← total_eq_toList]
  omega

end

end Follon.Foundation.OrderedMap
