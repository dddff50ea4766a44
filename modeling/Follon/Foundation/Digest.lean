import Follon.Foundation.Text
import Mathlib.Tactic.Ring

/-!
# Digests

A content hash is a parameter; what enters it is spelled out.
-/

namespace Follon.Foundation

class ContentHash where
  hexDigest : List UInt8 → String

def sha256Hex [ContentHash] (value : String) : String :=
  ContentHash.hexDigest value.toUTF8.toList

def isDigest (value : String) : Bool :=
  value.utf8ByteSize == 64 && value.toList.all fun c =>
    isAsciiDigit c || ('a' ≤ c && c ≤ 'f')

def PrintsDigests [ContentHash] : Prop :=
  ∀ bytes, isDigest (ContentHash.hexDigest bytes) = true

def bigEndian (value : Nat) : List UInt8 :=
  (List.range 8).map fun index =>
    UInt8.ofNat (value / 256 ^ (7 - index))

def lengthPrefixed (part : String) : List UInt8 :=
  bigEndian part.utf8ByteSize ++ part.toUTF8.toList

/-! ## Bytes -/

theorem toList_loop (bytes : ByteArray) (i : Nat) (before : List UInt8) :
    ByteArray.toList.loop bytes i before
      = before.reverse ++ bytes.data.toList.drop i := by
  fun_induction ByteArray.toList.loop bytes i before with
  | case1 i before hlt ih =>
    have hlength : i < bytes.data.toList.length := hlt
    have hget : bytes.get! i = bytes.data.toList[i] := by
      cases bytes with
      | mk data => exact getElem!_pos data i hlt
    rw [ih, List.drop_eq_getElem_cons hlength, hget, List.reverse_cons, append_assoc]
    rfl
  | case2 i before hge =>
    rw [List.drop_of_length_le, append_nil]
    exact Nat.not_lt.mp hge

theorem toList_eq_data (bytes : ByteArray) :
    bytes.toList = bytes.data.toList := by
  rw [ByteArray.toList, toList_loop]
  rfl

theorem length_utf8 (text : String) : text.toUTF8.toList.length = text.utf8ByteSize := by
  rw [toList_eq_data]
  rfl

theorem utf8_append (left right : String) : (left ++ right).toUTF8.toList
      = left.toUTF8.toList ++ right.toUTF8.toList := by
  simp [toList_eq_data]

theorem utf8_injective {left right : String}
    (h : left.toUTF8.toList = right.toUTF8.toList) : left = right := by
  simp only [toList_eq_data, Array.toList_inj] at h
  exact String.toByteArray_inj.mp (ByteArray.ext h)

theorem fromUTF8_utf8 (text : String) :
    String.fromUTF8? ⟨text.toUTF8.toList.toArray⟩ = some text := by
  rw [toList_eq_data, Array.toArray_toList]
  have hvalid : text.toUTF8.IsValidUTF8 := text.isValidUTF8
  rw [String.fromUTF8?, dif_pos hvalid]
  rfl

@[simp] theorem length_bigEndian (value : Nat) : (bigEndian value).length = 8 := by
  simp [bigEndian]

/-! ## Length prefixes -/

def FitsWord (part : String) : Prop := part.utf8ByteSize < 2 ^ 64

theorem bigEndian_inj {m n : Nat} (hm : m < 2 ^ 64) (hn : n < 2 ^ 64)
    (h : bigEndian m = bigEndian n) : m = n := by
  have hbyte : ∀ index < 8,
      m / 256 ^ (7 - index) % 256 = n / 256 ^ (7 - index) % 256 := by
    intro index hindex
    have hsame := congrArg (fun bytes => (bytes[index]?).map UInt8.toNat) h
    simpa [bigEndian, hindex] using hsame
  have h0 := hbyte 0 (by decide)
  have h1 := hbyte 1 (by decide)
  have h2 := hbyte 2 (by decide)
  have h3 := hbyte 3 (by decide)
  have h4 := hbyte 4 (by decide)
  have h5 := hbyte 5 (by decide)
  have h6 := hbyte 6 (by decide)
  have h7 := hbyte 7 (by decide)
  simp only [Nat.reduceSub, Nat.reducePow] at h0 h1 h2 h3 h4 h5 h6 h7 hm hn
  omega

theorem lengthPrefixed_append_inj {part part' : String}
    {rest rest' : List UInt8} (hpart : FitsWord part) (hpart' : FitsWord part')
    (h : lengthPrefixed part ++ rest = lengthPrefixed part' ++ rest') :
    part = part' ∧ rest = rest' := by
  simp only [lengthPrefixed, append_assoc] at h
  obtain ⟨hsize, hbody⟩ := List.append_inj h (by simp)
  have hlength : part.utf8ByteSize = part'.utf8ByteSize :=
    bigEndian_inj hpart hpart' hsize
  obtain ⟨hbytes, hrest⟩ := List.append_inj hbody (by
    rw [length_utf8, length_utf8, hlength])
  exact ⟨utf8_injective hbytes, hrest⟩

end Follon.Foundation

/-!
## Framed bytes

Numerals of a fixed number of bytes, and sequences of bytes that carry their
length.  A framed sequence is read back whatever follows it.
-/

namespace Follon.Foundation

def toBigEndian : Nat → Nat → List UInt8
  | 0, _ => []
  | width + 1, value =>
    UInt8.ofNat (value / 256 ^ width) :: toBigEndian width value

def ofBigEndian (bytes : List UInt8) : Nat :=
  bytes.foldl (fun value byte => value * 256 + byte.toNat) 0

def framed (width : Nat) (bytes : List UInt8) : List UInt8 :=
  toBigEndian width bytes.length ++ bytes

def takeBytes (length : Nat) (bytes : List UInt8) : Option (List UInt8 × List UInt8) :=
  if length ≤ bytes.length then some (bytes.take length, bytes.drop length)
  else none

def readFramed (width : Nat) (bytes : List UInt8) : Option (List UInt8 × List UInt8) := do
  let (size, rest) ← takeBytes width bytes
  takeBytes (ofBigEndian size) rest

/-! ## Numerals -/

@[simp] theorem length_toBigEndian (width value : Nat) :
    (toBigEndian width value).length = width := by
  induction width with
  | zero => rfl
  | succ width ih => simp [toBigEndian, ih]

theorem foldl_toBigEndian (width value before : Nat) : (toBigEndian width value).foldl
        (fun value byte => value * 256 + byte.toNat) before
      = before * 256 ^ width + value % 256 ^ width := by
  induction width generalizing before with
  | zero => simp [toBigEndian, Nat.mod_one]
  | succ width ih =>
    have hdigit : value % 256 ^ (width + 1)
        = value / 256 ^ width % 256 * 256 ^ width + value % 256 ^ width := by
      rw [pow_succ, Nat.mod_mul, Nat.add_comm, Nat.mul_comm]
    rw [toBigEndian, List.foldl_cons, ih, hdigit]
    simp only [UInt8.toNat_ofNat', Nat.reducePow]
    ring

variable {width : Nat} {bytes part rest : List UInt8}

theorem ofBigEndian_toBigEndian {value : Nat} (h : value < 256 ^ width) :
    ofBigEndian (toBigEndian width value) = value := by
  rw [ofBigEndian, foldl_toBigEndian, Nat.zero_mul, Nat.zero_add, Nat.mod_eq_of_lt h]

theorem ofBigEndian_concat (bytes : List UInt8) (byte : UInt8) :
    ofBigEndian (bytes ++ [byte]) = ofBigEndian bytes * 256 + byte.toNat := by
  rw [ofBigEndian, List.foldl_append]
  rfl

theorem ofBigEndian_lt (bytes : List UInt8) : ofBigEndian bytes < 256 ^ bytes.length := by
  induction bytes using List.reverseRecOn with
  | nil => simp [ofBigEndian]
  | append_singleton bytes byte ih =>
    have hbyte : byte.toNat < 256 := byte.toNat_lt
    rw [ofBigEndian_concat, length_append, List.length_singleton, pow_succ]
    omega

theorem toBigEndian_concat (width value : Nat) (byte : UInt8) :
    toBigEndian (width + 1) (value * 256 + byte.toNat)
      = toBigEndian width value ++ [byte] := by
  have hbyte : byte.toNat < 256 := byte.toNat_lt
  induction width with
  | zero =>
    simp only [toBigEndian, pow_zero, Nat.div_one, nil_append]
    congr 1
    apply UInt8.toNat_inj.mp
    rw [UInt8.toNat_ofNat']
    omega
  | succ width ih =>
    have hhead : (value * 256 + byte.toNat) / 256 ^ (width + 1)
        = value / 256 ^ width := by
      rw [pow_succ, Nat.mul_comm (256 ^ width), ← Nat.div_div_eq_div_mul]
      congr 1
      omega
    rw [toBigEndian, ih, hhead]
    rfl

theorem toBigEndian_ofBigEndian (bytes : List UInt8) :
    toBigEndian bytes.length (ofBigEndian bytes) = bytes := by
  induction bytes using List.reverseRecOn with
  | nil => rfl
  | append_singleton bytes byte ih =>
    rw [ofBigEndian_concat, length_append, List.length_singleton, toBigEndian_concat, ih]

/-! ## Sequences -/

theorem takeBytes_eq_some {length : Nat} : takeBytes length bytes = some (part, rest) ↔
      part.length = length ∧ bytes = part ++ rest := by
  rw [takeBytes]
  split
  · rename_i hle
    simp only [Option.some.injEq, Prod.mk.injEq]
    constructor
    · rintro ⟨rfl, rfl⟩
      exact ⟨List.length_take_of_le hle, (List.take_append_drop _ _).symm⟩
    · rintro ⟨rfl, rfl⟩
      simp
  · rename_i hlt
    simp only [reduceCtorEq, false_iff, not_and]
    rintro rfl rfl
    simp at hlt

theorem readFramed_eq_some : readFramed width bytes = some (part, rest) ↔
      part.length < 256 ^ width ∧ bytes = framed width part ++ rest := by
  simp only [readFramed, bind_eq_bind, bind_eq_some_iff,
    Prod.exists, takeBytes_eq_some]
  constructor
  · rintro ⟨size, after, ⟨rfl, rfl⟩, hlength, rfl⟩
    rw [hlength, framed, hlength, toBigEndian_ofBigEndian, append_assoc]
    exact ⟨ofBigEndian_lt size, rfl⟩
  · rintro ⟨hlength, rfl⟩
    refine ⟨toBigEndian width part.length, part ++ rest,
      ⟨length_toBigEndian _ _, ?_⟩, ?_, rfl⟩
    · rw [framed, append_assoc]
    · rw [ofBigEndian_toBigEndian hlength]

theorem framed_append_inj {part' rest' : List UInt8}
    (hpart : part.length < 256 ^ width) (hpart' : part'.length < 256 ^ width)
    (h : framed width part ++ rest = framed width part' ++ rest') :
    part = part' ∧ rest = rest' := by
  have hread : readFramed width (framed width part ++ rest)
      = some (part, rest) := readFramed_eq_some.mpr ⟨hpart, rfl⟩
  have hread' : readFramed width (framed width part' ++ rest')
      = some (part', rest') := readFramed_eq_some.mpr ⟨hpart', rfl⟩
  rw [h, hread'] at hread
  obtain ⟨rfl, rfl⟩ := Prod.mk.inj (Option.some.inj hread)
  exact ⟨rfl, rfl⟩

end Follon.Foundation
