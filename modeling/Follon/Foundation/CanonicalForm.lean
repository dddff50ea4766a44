import Follon.Foundation.Digest
import Follon.Foundation.JsonReader

/-!
# Documents with one encoding

A document is accepted only when its text is what its value prints.  The
reader of JSON trees is a parameter; a strict reader of records is built over
it, which refuses unknown and repeated fields.
-/

namespace Follon.Foundation

/-- `serde_json::from_str`, as the tree of a text whose numbers are integers,
and what it says of a text it refuses. -/
class JsonText where
  tree : String → Option Json
  refusal : String → String

def JsonText.ReadsCompact [JsonText] : Prop :=
  ∀ value : Json, value.Nested 127 →
    JsonText.tree (Json.print Json.compactChar value) = some value

namespace Json

/-! ## Strict records -/

def strictMembers (fields : List String) : Json → Option (List (String × Json))
  | .obj members =>
    if (members.all fun member => decide (member.1 ∈ fields)) = true ∧
        (members.map (·.1)).Nodup then some members
    else none
  | .arr items =>
    if items.length = fields.length then some (fields.zip items) else none
  | _ => none

def field (members : List (String × Json)) (name : String) : Option Json :=
  (members.find? (·.1 == name)).map (·.2)

def readField {α : Type} (read : Json → Option α)
    (members : List (String × Json)) (name : String) : Option α :=
  (field members name).bind read

def asText : Json → Option String
  | .str value => some value
  | _ => none

def asOptionalText : Option Json → Option (Option String)
  | none => some none
  | some .null => some none
  | some (.str value) => some (some value)
  | some _ => none

def asU32 : Json → Option UInt32
  | .num value =>
    if 0 ≤ value ∧ value < 2 ^ 32 then some (UInt32.ofNat value.toNat)
    else none
  | _ => none

def asU64 : Json → Option UInt64
  | .num value =>
    if 0 ≤ value ∧ value < 2 ^ 64 then some (UInt64.ofNat value.toNat)
    else none
  | _ => none

def asList {α : Type} (item : Json → Option α) : Json → Option (List α)
  | .arr items => items.mapM item
  | _ => none

theorem field_cons_self (name : String) (value : Json) (rest : List (String × Json)) :
    field ((name, value) :: rest) name = some value := by
  rw [field, List.find?_cons_of_pos (by simp), Option.map_some]

variable {name other : String} {α : Type}

theorem field_cons_ne (h : other ≠ name) (value : Json) (rest : List (String × Json)) :
    field ((other, value) :: rest) name = field rest name := by
  rw [field, List.find?_cons_of_neg (by simpa using h), field]

@[simp] theorem readField_cons_self (read : Json → Option α) (name : String)
    (value : Json) (rest : List (String × Json)) :
    readField read ((name, value) :: rest) name = read value := by
  rw [readField, field_cons_self, bind_some]

@[simp] theorem readField_cons_ne (read : Json → Option α) (h : other ≠ name)
    (value : Json) (rest : List (String × Json)) :
    readField read ((other, value) :: rest) name = readField read rest name := by
  rw [readField, field_cons_ne h, readField]

@[simp] theorem asText_str (value : String) : asText (.str value) = some value := rfl

@[simp] theorem asU32_num (value : UInt32) : asU32 (.num value.toNat) = some value := by
  have hlimit := value.toNat_lt
  rw [asU32, if_pos (by omega), Int.toNat_natCast, UInt32.ofNat_toNat]

@[simp] theorem asU64_num (value : UInt64) : asU64 (.num value.toNat) = some value := by
  have hlimit := value.toNat_lt
  rw [asU64, if_pos (by omega), Int.toNat_natCast, UInt64.ofNat_toNat]

theorem asList_map {α β : Type} {item : Json → Option β} {document : α → Json}
    {image : α → β} {values : List α}
    (h : ∀ value ∈ values, item (document value) = some (image value)) :
    asList item (.arr (values.map document)) = some (values.map image) := by
  rw [asList]
  induction values with
  | nil => rfl
  | cons value rest ih =>
    rw [forall_mem_cons] at h
    rw [map_cons, List.mapM_cons, h.1, ih h.2]
    rfl

theorem strictMembers_obj {fields : List String} {members : List (String × Json)}
    (hfields : ∀ name ∈ members.map (·.1), name ∈ fields)
    (hnodup : (members.map (·.1)).Nodup) :
    strictMembers fields (.obj members) = some members := by
  have hall : (members.all fun member => decide (member.1 ∈ fields)) = true := by
    rw [all_eq_true]
    exact fun member hmember =>
      decide_eq_true (hfields _ (mem_map_of_mem hmember))
  rw [strictMembers, if_pos ⟨hall, hnodup⟩]

end Json

/-! ## Canonical forms -/

structure CanonicalForm (δ α ε : Type) where
  decode : Json → Option δ
  convert : δ → Except ε α
  validate : α → Except ε Unit
  document : α → Json
  notRead : String → ε
  notCanonical : ε

namespace CanonicalForm

variable {δ α ε : Type}

def canonicalJson (form : CanonicalForm δ α ε) (value : α) : String :=
  Json.print Json.compactChar (form.document value)

def parseCanonical [JsonText] (form : CanonicalForm δ α ε) (source : String) :
    Except ε α :=
  match (JsonText.tree source).bind form.decode with
  | none => .error (form.notRead (JsonText.refusal source))
  | some document => do
    let value ← form.convert document
    form.validate value
    if source ≠ form.canonicalJson value then .error form.notCanonical
    else pure value

def fingerprint [ContentHash] (form : CanonicalForm δ α ε) (value : α) :
    Except ε String := do
  form.validate value
  pure (sha256Hex (form.canonicalJson value))

structure Lawful (form : CanonicalForm δ α ε) (fits : α → Prop) : Prop where
  nested : ∀ value, (form.document value).Nested 127
  reads : ∀ value, fits value → form.validate value = .ok () →
    ∃ document, form.decode (form.document value) = some document ∧
      form.convert document = .ok value

/-- One value, one text: what is printed is accepted, what is accepted is what
is printed, and a fingerprint stands for one value. -/
structure OneEncoding [JsonText] [ContentHash] (form : CanonicalForm δ α ε)
    (fits : α → Prop) : Prop where
  roundTrip : ∀ value, fits value → form.validate value = .ok () →
    form.parseCanonical (form.canonicalJson value) = .ok value
  canonical : ∀ source value, form.parseCanonical source = .ok value →
    source = form.canonicalJson value ∧ form.validate value = .ok ()
  fingerprint : ∀ source source' value value', form.parseCanonical source = .ok value →
    form.parseCanonical source' = .ok value' →
    (sha256Hex source = sha256Hex source' → source = source') →
    form.fingerprint value = form.fingerprint value' → value = value'

section
variable [JsonText] {form : CanonicalForm δ α ε} {fits : α → Prop}

theorem parseCanonical_eq_ok {source : String} {value : α} :
    form.parseCanonical source = .ok value ↔
      ∃ document, (JsonText.tree source).bind form.decode = some document ∧
        form.convert document = .ok value ∧ form.validate value = .ok () ∧
        source = form.canonicalJson value := by
  unfold parseCanonical
  cases (JsonText.tree source).bind form.decode with
  | none => simp
  | some document =>
    dsimp only
    cases hconvert : form.convert document with
    | error e => simp [hconvert, bind, Except.bind]
    | ok converted =>
      cases hvalid : form.validate converted with
      | error e =>
        simp only [bind, Except.bind, hvalid, reduceCtorEq, Option.some.injEq,
          exists_eq_left', hconvert, Except.ok.injEq, false_iff]
        rintro ⟨rfl, hvalid', -⟩
        rw [hvalid] at hvalid'
        contradiction
      | ok checked =>
        simp only [bind, Except.bind, hvalid, Option.some.injEq,
          exists_eq_left', hconvert, Except.ok.injEq]
        split
        · next hne =>
            refine ⟨fun h => by contradiction, ?_⟩
            rintro ⟨rfl, -, hsource⟩
            exact absurd hsource hne
        · next hsource =>
            constructor
            · intro h
              obtain rfl := Except.ok.inj h
              exact ⟨rfl, hvalid, not_not.mp hsource⟩
            · rintro ⟨rfl, -, -⟩
              rfl

theorem Lawful.oneEncoding [ContentHash] (h : form.Lawful fits)
    (hreads : JsonText.ReadsCompact) : form.OneEncoding fits where
  roundTrip value hfits hvalid := by
    obtain ⟨document, hdecode, hconvert⟩ := h.reads value hfits hvalid
    refine parseCanonical_eq_ok.mpr ⟨document, ?_, hconvert, hvalid, rfl⟩
    rw [canonicalJson, hreads _ (h.nested value)]
    exact hdecode
  canonical source value hparse := by
    obtain ⟨-, -, -, hvalid, hsource⟩ := parseCanonical_eq_ok.mp hparse
    exact ⟨hsource, hvalid⟩
  fingerprint source source' value value' hparse hparse' hcollision hsame := by
    obtain ⟨document, hread, hconvert, hvalid, hsource⟩ :=
      parseCanonical_eq_ok.mp hparse
    obtain ⟨document', hread', hconvert', hvalid', hsource'⟩ :=
      parseCanonical_eq_ok.mp hparse'
    simp only [CanonicalForm.fingerprint, hvalid, hvalid', ← hsource,
      ← hsource'] at hsame
    have htexts := hcollision (Except.ok.inj hsame)
    rw [htexts, hread'] at hread
    rw [← Option.some.inj hread, hconvert'] at hconvert
    exact (Except.ok.inj hconvert).symm

end

end CanonicalForm

end Follon.Foundation
