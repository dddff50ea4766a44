import Mathlib.Data.List.Sort
import Mathlib.Data.String.Basic

/-!
# Ordered maps and sets

Extensional ordered maps and sets: two maps with the same entries are equal,
and iteration visits the keys in order.
-/

namespace Follon.Foundation

abbrev OrderedMap (κ : Type) [Ord κ] (ν : Type) : Type :=
  Std.ExtTreeMap κ ν compare

abbrev OrderedSet (κ : Type) [Ord κ] : Type :=
  Std.ExtTreeSet κ compare

instance instOrdProdString : Ord (String × String) := lexOrd

namespace OrderedMap

variable {κ ν : Type} [Ord κ] [Std.TransOrd κ]

def adjust (map : OrderedMap κ ν) (key : κ) (f : ν → ν) : OrderedMap κ ν :=
  match map[key]? with
  | some value => map.insert key (f value)
  | none => map

def insertEach {μ ε : Type} (convert : κ → ν → Except ε μ) :
    List (κ × ν) → OrderedMap κ μ → Except ε (OrderedMap κ μ)
  | [], map => .ok map
  | (key, value) :: entries, map => do
    let converted ← convert key value
    insertEach convert entries (map.insert key converted)

def traverse {μ ε : Type} (convert : κ → ν → Except ε μ)
    (map : OrderedMap κ ν) : Except ε (OrderedMap κ μ) :=
  insertEach convert map.toList ∅

@[simp] theorem insert_insert [Std.LawfulEqOrd κ] (map : OrderedMap κ ν) (key : κ)
    (value value' : ν) :
    (map.insert key value).insert key value' = map.insert key value' := by
  apply Std.ExtTreeMap.ext_getElem?
  intro key'
  simp only [Std.ExtTreeMap.getElem?_insert]
  split <;> rfl

theorem getElem?_insert_self (map : OrderedMap κ ν) (key : κ) (value : ν) :
    (map.insert key value)[key]? = some value := by
  simp

theorem getElem?_insert_of_ne [Std.LawfulEqOrd κ] (map : OrderedMap κ ν)
    {key key' : κ} (value : ν) (hne : key ≠ key') :
    (map.insert key value)[key']? = map[key']? := by
  simp [Std.ExtTreeMap.getElem?_insert, hne]

theorem getElem?_ofList [Std.LawfulEqOrd κ] {entries : List (κ × ν)}
    (hkeys : (entries.map (·.1)).Nodup) {key : κ} {value : ν}
    (hentry : (key, value) ∈ entries) :
    (Std.ExtTreeMap.ofList entries compare)[key]? = some value := by
  apply Std.ExtTreeMap.getElem?_ofList_of_mem Std.ReflCmp.compare_self _ hentry
  rw [List.Nodup, List.pairwise_map] at hkeys
  apply hkeys.imp
  intro entry entry' hne hsame
  exact hne (Std.LawfulEqCmp.eq_of_compare hsame)

theorem ofList_toList [Std.LawfulEqOrd κ] [BEq κ] [Std.LawfulBEqOrd κ]
    (map : OrderedMap κ ν) : Std.ExtTreeMap.ofList map.toList compare = map := by
  apply Std.ExtTreeMap.ext_getElem?
  intro key
  cases hvalue : map[key]? with
  | some value =>
    exact Std.ExtTreeMap.getElem?_ofList_of_mem Std.ReflCmp.compare_self
      Std.ExtTreeMap.distinct_keys_toList
      (Std.ExtTreeMap.mem_toList_iff_getElem?_eq_some.mpr hvalue)
  | none =>
    apply Std.ExtTreeMap.getElem?_ofList_of_contains_eq_false
    rw [Std.ExtTreeMap.map_fst_toList_eq_keys, Std.ExtTreeMap.contains_keys,
      Std.ExtTreeMap.contains_eq_isSome_getElem?, hvalue]
    rfl

end OrderedMap

export Std.ExtTreeMap (ext_getElem? getElem?_erase getElem?_insert mem_iff_isSome_getElem?
  mem_toList_iff_getElem?_eq_some)

export Std.ExtTreeSet (mem_insert mem_insert_self)
export List (pairwise_insertionSort perm_insertionSort)
export OrderedMap (getElem?_insert_of_ne getElem?_insert_self)

end Follon.Foundation

/-!
## Keys of two parts

Keys ordered by their first part, then by their second.
-/

namespace Follon.Foundation.PairKeys

variable {α β : Type} [Ord α] [Ord β]

theorem lexOrd_eq_lt {key key' : α × β} : lexOrd.compare key key' = .lt ↔
      compare key.1 key'.1 = .lt ∨
        compare key.1 key'.1 = .eq ∧ compare key.2 key'.2 = .lt :=
  Ordering.then_eq_lt

theorem compare_string_eq_lt {left right : String} :
    compare left right = .lt ↔ left < right :=
  compare_lt_iff_lt

theorem compare_uint64_eq_lt {left right : UInt64} :
    compare left right = .lt ↔ left < right := by
  simp [compare, compareOfLessAndEq_eq_lt]

theorem compare_int_eq_lt {left right : Int} : compare left right = .lt ↔ left < right :=
  Int.compare_eq_lt

end Follon.Foundation.PairKeys
