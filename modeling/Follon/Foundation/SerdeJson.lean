import Follon.Foundation.Digest
import Follon.Foundation.JsonReader

/-!
# Serialized values

The JSON encoder and decoder of a type are parameters; what is relied on is
named.
-/

namespace Follon.Foundation

/-- `serde_json::to_string` and `serde_json::from_str`. -/
class SerdeJson (α : Type) where
  toText : α → String
  fromText : String → Except String α

/-- `serde_json::from_str` of a document type that is not written by serde. -/
class FromJson (α : Type) where
  fromText : String → Except String α

def FromJson.ReadsBack {α : Type} [FromJson α] (text : α → String) : Prop :=
  ∀ value : α, FromJson.fromText (text value) = .ok value

namespace SerdeJson

def RoundTrips (α : Type) [SerdeJson α] : Prop :=
  ∀ value : α, fromText (toText value) = .ok value

structure WritesObjects (α : Type) [SerdeJson α] : Prop where
  brace : ∀ value : α, (toText value).toList.head? = some '\x7b'
  oneLine : ∀ value : α, ∀ c ∈ (toText value).toList, 0x20 ≤ c.toNat

variable {α : Type} [SerdeJson α]

theorem RoundTrips.injective (h : RoundTrips α) {value value' : α}
    (hsame : toText value = toText value') : value = value' := by
  have hread := h value
  rw [hsame, h value'] at hread
  exact (Except.ok.inj hread).symm

namespace WritesObjects

theorem ne_empty (h : WritesObjects α) (value : α) : toText value ≠ "" := by
  intro hempty
  have hbrace := h.brace value
  rw [hempty] at hbrace
  contradiction

theorem not_mem (h : WritesObjects α) (value : α) {c : Char}
    (hc : c.toNat < 0x20) : c ∉ (toText value).toList := by
  intro hmem
  have hplain := h.oneLine value c hmem
  omega

end WritesObjects

end SerdeJson

end Follon.Foundation

/-!
## Untyped JSON documents

A document type with its readers and its writer is a parameter, so that numbers
of every kind are in it; what is relied on is said of the documents whose
numbers are integers.
-/

namespace Follon.Foundation

/-- `serde_json::Value`: `from_slice`, `to_vec`, its views, and what `json!`
builds. -/
class SerdeValue (V : Type) where
  fromSlice : List UInt8 → Except String V
  toVec : V → List UInt8
  asObject : V → Option (List (String × V))
  asArray : V → Option (List V)
  asStr : V → Option String
  asU64 : V → Option UInt64
  ofJson : Json → V

namespace Json

/-- Values that a printer of sorted members spells in one way: integers of 64
bits, and members in ascending order of their names. -/
inductive Plain : Json → Prop
  | null : Plain .null
  | bool (value : Bool) : Plain (.bool value)
  | num {value : Int} (h : -2 ^ 63 ≤ value ∧ value < 2 ^ 64) :
      Plain (.num value)
  | str (value : String) : Plain (.str value)
  | arr {items : List Json} (h : ∀ item ∈ items, Plain item) :
      Plain (.arr items)
  | obj {members : List (String × Json)}
      (hsorted : (members.map (·.1)).Pairwise (· < ·))
      (h : ∀ member ∈ members, Plain member.2) : Plain (.obj members)

def toBytes (value : Json) : List UInt8 := (print compactChar value).toUTF8.toList

end Json

namespace SerdeValue

variable {V : Type} [SerdeValue V]

def get (object : List (String × V)) (field : String) : Option V :=
  (object.find? (·.1 == field)).map (·.2)

def member (value : V) (field : String) : Option V :=
  (asObject value).bind fun object => get object field

variable (V) in
structure Lawful : Prop where
  asObject_obj : ∀ members, Json.Plain (.obj members) →
    asObject (ofJson (V := V) (.obj members)) =
      some (members.map fun member => (member.1, ofJson member.2))
  asArray_arr : ∀ items, asArray (ofJson (V := V) (.arr items)) = some (items.map ofJson)
  asStr_str : ∀ value, asStr (ofJson (V := V) (.str value)) = some value
  asU64_num : ∀ value : UInt64, asU64 (ofJson (V := V) (.num value.toNat)) = some value
  toVec_ofJson : ∀ value : Json, value.Plain →
    toVec (ofJson (V := V) value) = value.toBytes
  fromSlice_toBytes : ∀ value : Json, value.Plain → value.Nested 127 →
    fromSlice value.toBytes = .ok (ofJson (V := V) value)

theorem get_map {members : List (String × Json)} {field : String}
    {value : Json} (hmember : (field, value) ∈ members)
    (hsorted : (members.map (·.1)).Pairwise (· < ·)) :
    get (members.map fun member => (member.1, ofJson (V := V) member.2)) field
      = some (ofJson value) := by
  induction members with
  | nil => contradiction
  | cons member rest ih =>
    rw [map_cons, pairwise_cons] at hsorted
    obtain ⟨hfirst, hrest⟩ := hsorted
    obtain rfl | hmember := mem_cons.mp hmember
    · simp [get]
    · have hne : member.1 ≠ field := by
        have hlt := hfirst field (mem_map_of_mem hmember)
        intro hsame
        rw [hsame] at hlt
        exact String.lt_irrefl field hlt
      have hfound := ih hmember hrest
      rw [get, map_cons, List.find?_cons_of_neg]
      · exact hfound
      · simpa using hne

end SerdeValue

/-! ## Sizes -/

theorem length_le_utf8ByteSize (text : String) :
    text.toList.length ≤ text.utf8ByteSize := by
  have hofList : ∀ cs : List Char,
      cs.length ≤ (String.ofList cs).utf8ByteSize := by
    intro cs
    induction cs with
    | nil => simp
    | cons c rest ih =>
      have hsplit : String.ofList (c :: rest)
          = String.singleton c ++ String.ofList rest :=
        String.ext (by simp)
      have hpositive := c.utf8Size_pos
      rw [hsplit, String.utf8ByteSize_append, String.utf8ByteSize_singleton, length_cons]
      omega
  have htext := hofList text.toList
  rwa [String.ofList_toList] at htext

theorem length_part_le (separator : String) {parts : List String}
    {part : String} (h : part ∈ parts) :
    part.toList.length ≤ (joinWith separator parts).toList.length := by
  induction parts with
  | nil => contradiction
  | cons first rest ih =>
    cases rest with
    | nil =>
      obtain rfl := mem_singleton.mp h
      exact le_refl _
    | cons next rest =>
      rw [joinWith_cons_cons, toList_append, toList_append,
        length_append, length_append]
      obtain rfl | h := mem_cons.mp h
      · omega
      · have hle := ih h
        omega

namespace Json

theorem length_le_flatMap (text : List Char) :
    text.length ≤ (text.flatMap compactChar).length := by
  have hone (c : Char) : 1 ≤ (compactChar c).length := by
    unfold compactChar
    split_ifs <;> simp
  induction text with
  | nil => simp
  | cons c rest ih =>
    have hc := hone c
    rw [flatMap_cons, length_append, length_cons]
    omega

theorem length_lt_toBytes {members : List (String × Json)} {name : String}
    {text : String} (h : (name, .str text) ∈ members) :
    text.toList.length < (Json.obj members).toBytes.length := by
  have hopen : ("\x7b" : String).toList.length = 1 := rfl
  have hpart := length_part_le "," (mem_map_of_mem
    (f := printMember compactChar) h)
  have hflat := length_le_flatMap text.toList
  rw [toBytes, length_utf8]
  refine lt_of_lt_of_le ?_ (length_le_utf8ByteSize _)
  rw [print_obj]
  simp only [printMember, print, quote, toList_append,
    toList_ofList, length_append] at hpart ⊢
  omega

end Json

/-! ## Documents of integers -/

namespace Json

def fromBytes (bytes : List UInt8) : Except String Json :=
  match String.fromUTF8? ⟨bytes.toArray⟩ with
  | some text =>
    match read text with
    | some value => .ok value
    | none => .error "expected value"
  | none => .error "invalid unicode code point"

@[reducible] def integers : SerdeValue Json where
  fromSlice := fromBytes
  toVec := toBytes
  asObject
    | .obj members => some members
    | _ => none
  asArray
    | .arr items => some items
    | _ => none
  asStr
    | .str value => some value
    | _ => none
  asU64
    | .num value =>
      if 0 ≤ value ∧ value < 2 ^ 64 then some (UInt64.ofNat value.toNat)
      else none
    | _ => none
  ofJson := id

theorem fromBytes_toBytes {value : Json} (hnested : value.Nested 127) :
    fromBytes value.toBytes = .ok value := by
  rw [fromBytes, toBytes, fromUTF8_utf8]
  dsimp only
  rw [read_print spells_compactChar hnested]

theorem integers_lawful : @SerdeValue.Lawful Json integers := by
  let := integers
  constructor
  case asObject_obj =>
    intro members _
    simp [SerdeValue.asObject, SerdeValue.ofJson]
  case asArray_arr =>
    intro items
    simp [SerdeValue.asArray, SerdeValue.ofJson]
  case asStr_str =>
    intro value
    rfl
  case asU64_num =>
    intro value
    have hvalue := value.toNat_lt
    simpa [SerdeValue.asU64, SerdeValue.ofJson] using hvalue
  case toVec_ofJson =>
    intro value _
    rfl
  case fromSlice_toBytes =>
    intro value _ hnested
    exact fromBytes_toBytes hnested

end Json

end Follon.Foundation
