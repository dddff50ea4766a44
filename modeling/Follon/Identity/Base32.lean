import Follon.Domain.Failure
import Follon.Foundation.Digest
import Mathlib.Data.Nat.Digits.Lemmas

/-!
# Base32 secrets

A shifting 32-bit buffer regroups bytes into five-bit symbols and back.
What it holds above its residual bits is garbage the loops never read.
-/

namespace Follon.Identity

open Foundation Domain

/-! ## The shifting buffer -/

structure BitBuffer (γ : Type) where
  output : List γ := []
  buffer : BitVec 32 := 0
  bits : Nat := 0

namespace BitBuffer

variable {γ : Type} {code : Nat → γ} {width out value : Nat}
  {taken : List Nat}

def shiftIn (state : BitBuffer γ) (width value : Nat) : BitBuffer γ :=
  { state with
    buffer := state.buffer <<< width ||| BitVec.ofNat 32 value
    bits := state.bits + width }

/-- The group `(buffer >> bits) & (2^width - 1)`, `bits` being what is left. -/
def group (state : BitBuffer γ) (width : Nat) : Nat :=
  ((state.buffer >>> (state.bits - width)) &&& BitVec.ofNat 32 (2 ^ width - 1)).toNat

def emit (code : Nat → γ) (width : Nat) (state : BitBuffer γ) : BitBuffer γ :=
  { state with
    output := state.output ++ [code (state.group width)]
    bits := state.bits - width }

/-- The number that groups of `width` bits spell, the first the highest. -/
def spelled (width : Nat) (groups : List Nat) : Nat :=
  Nat.ofDigits (2 ^ width) groups.reverse

/-- Groups of `width` bits are groups of `out` bits and `rest` more bits, whose
number is `low`. -/
structure Regrouped (width out : Nat) (taken made : List Nat) (rest low : Nat) :
    Prop where
  made_lt : ∀ group ∈ made, group < 2 ^ out
  length : width * taken.length = out * made.length + rest
  number : spelled width taken = spelled out made * 2 ^ rest + low

/-- What the buffer has taken in is what it has put out and what it holds. -/
def Holds (code : Nat → γ) (width out : Nat) (taken : List Nat)
    (state : BitBuffer γ) : Prop :=
  ∃ made, state.output = made.map code ∧ Regrouped width out taken made state.bits
      (state.buffer.toNat % 2 ^ state.bits)

theorem spelled_append (width : Nat) (groups : List Nat) (value : Nat) :
    spelled width (groups ++ [value])
      = spelled width groups * 2 ^ width + value := by
  rw [spelled, List.reverse_append, List.reverse_singleton,
    List.singleton_append, Nat.ofDigits_cons, Nat.mul_comm, Nat.add_comm]
  rfl

theorem eq_of_spelled {groups other : List Nat} (hwidth : 0 < width)
    (hlength : groups.length = other.length)
    (hgroups : ∀ group ∈ groups, group < 2 ^ width)
    (hother : ∀ group ∈ other, group < 2 ^ width)
    (h : spelled width groups = spelled width other) : groups = other := by
  have hbase : 1 < 2 ^ width := Nat.one_lt_two_pow hwidth.ne'
  refine List.reverse_injective (Nat.ofDigits_inj_of_len_eq hbase ?_ ?_ ?_ h)
  · rw [List.length_reverse, List.length_reverse, hlength]
  · exact fun group hmem => hgroups group (List.mem_reverse.mp hmem)
  · exact fun group hmem => hother group (List.mem_reverse.mp hmem)

theorem group_eq (state : BitBuffer γ) (h : width ≤ 32) : state.group width
      = state.buffer.toNat / 2 ^ (state.bits - width) % 2 ^ width := by
  have hmask : 2 ^ width - 1 < 2 ^ 32 :=
    Nat.lt_of_lt_of_le (Nat.sub_one_lt (Nat.two_pow_pos width).ne')
      (Nat.pow_le_pow_right (by decide) h)
  rw [group, BitVec.toNat_and, BitVec.toNat_ushiftRight, BitVec.toNat_ofNat,
    Nat.mod_eq_of_lt hmask, Nat.shiftRight_eq_div_pow, Nat.and_two_pow_sub_one_eq_mod]

theorem toNat_shiftIn (state : BitBuffer γ) (hvalue : value < 2 ^ width)
    (hfits : state.bits + width ≤ 32) :
    (state.shiftIn width value).buffer.toNat % 2 ^ (state.bits + width)
      = state.buffer.toNat % 2 ^ state.bits * 2 ^ width + value := by
  have hwidth : 2 ^ width ≤ 2 ^ (state.bits + width) :=
    Nat.pow_le_pow_right (by decide) (Nat.le_add_left _ _)
  have hword : 2 ^ (state.bits + width) ≤ 2 ^ 32 := Nat.pow_le_pow_right (by decide) hfits
  rw [shiftIn, BitVec.toNat_or, BitVec.toNat_shiftLeft, BitVec.toNat_ofNat,
    Nat.or_mod_two_pow, Nat.mod_mod_of_dvd _ (Nat.pow_dvd_pow 2 hfits),
    Nat.mod_eq_of_lt (a := value) (by omega),
    Nat.mod_eq_of_lt (a := value) (by omega), Nat.shiftLeft_eq, Nat.pow_add,
    Nat.mul_mod_mul_right, Nat.mul_comm, Nat.two_pow_add_eq_or_of_lt hvalue]

variable {state : BitBuffer γ}

theorem Holds.shiftIn (h : Holds code width out taken state)
    (hvalue : value < 2 ^ width) (hfits : state.bits + width ≤ 32) :
    Holds code width out (taken ++ [value]) (state.shiftIn width value) := by
  obtain ⟨made, houtput, hmade⟩ := h
  refine ⟨made, houtput, hmade.made_lt, ?_, ?_⟩
  · have hlength := hmade.length
    rw [length_append, List.length_singleton, Nat.mul_add, hlength]
    dsimp only [BitBuffer.shiftIn]
    omega
  · change _ = _ * 2 ^ (state.bits + width)
      + _ % 2 ^ (state.bits + width)
    rw [spelled_append, hmade.number, toNat_shiftIn state hvalue hfits, Nat.pow_add]
    ring

theorem Holds.emit (h : Holds code width out taken state)
    (hbits : out ≤ state.bits) (hword : out ≤ 32)
    : Holds code width out taken (state.emit code out) := by
  obtain ⟨made, houtput, hmade⟩ := h
  refine ⟨made ++ [state.group out], ?_, ?_, ?_, ?_⟩
  · rw [BitBuffer.emit, houtput, map_append, List.map_singleton]
  · intro group hmem
    rcases mem_append.mp hmem with hmem | hmem
    · exact hmade.made_lt group hmem
    · rw [mem_singleton.mp hmem, group_eq state hword]
      exact Nat.mod_lt _ (Nat.two_pow_pos out)
  · have hlength := hmade.length
    rw [length_append, List.length_singleton, Nat.mul_add, hlength]
    dsimp only [BitBuffer.emit]
    omega
  · change _ = _ * 2 ^ (state.bits - out)
      + state.buffer.toNat % 2 ^ (state.bits - out)
    have hsplit : (2 : Nat) ^ state.bits
        = 2 ^ (state.bits - out) * 2 ^ out := by
      rw [← Nat.pow_add, Nat.sub_add_cancel hbits]
    rw [hmade.number, spelled_append, group_eq state hword, hsplit, Nat.mod_mul]
    ring

/-! ### Uniqueness of a regrouping -/

variable {made other : List Nat} {rest rest' : Nat}

theorem Regrouped.made_unique {low low' : Nat} (hout : 0 < out)
    (h : Regrouped width out taken made rest low)
    (h' : Regrouped width out taken other rest' low')
    (hrest : rest < out) (hrest' : rest' < out) (hlow : low < 2 ^ rest)
    (hlow' : low' < 2 ^ rest') : made = other ∧ rest = rest' ∧ low = low' := by
  have hlengths : out * made.length + rest = out * other.length + rest' := by
    rw [← h.length, h'.length]
  have hsame : rest = rest' := by
    have hmod := congrArg (· % out) hlengths
    simpa only [Nat.mul_add_mod, Nat.mod_eq_of_lt hrest,
      Nat.mod_eq_of_lt hrest'] using hmod
  subst hsame
  have hlength : made.length = other.length := Nat.eq_of_mul_eq_mul_left hout (by omega)
  have hnumbers : spelled out made * 2 ^ rest + low
      = spelled out other * 2 ^ rest + low' := by
    rw [← h.number, h'.number]
  have hspelled : spelled out made = spelled out other := by
    have hdiv := congrArg (· / 2 ^ rest) hnumbers
    simpa only [Nat.mul_comm _ (2 ^ rest), Nat.mul_add_div (Nat.two_pow_pos rest),
      Nat.div_eq_of_lt hlow, Nat.div_eq_of_lt hlow', Nat.add_zero] using hdiv
  refine ⟨eq_of_spelled hout hlength h.made_lt h'.made_lt hspelled, rfl, ?_⟩
  rw [hspelled] at hnumbers
  omega

theorem Regrouped.taken_unique {taken' : List Nat} (hwidth : 0 < width)
    (h : Regrouped width out taken made rest 0)
    (h' : Regrouped width out taken' made rest' 0)
    (hrest : rest < width) (hrest' : rest' < width)
    (htaken : ∀ group ∈ taken, group < 2 ^ width)
    (htaken' : ∀ group ∈ taken', group < 2 ^ width) : taken = taken' := by
  have hlength := h.length
  have hlength' := h'.length
  have hcount : taken.length = taken'.length := by
    rcases Nat.lt_trichotomy taken.length taken'.length with hlt | heq | hlt
    · have := Nat.mul_le_mul_left width (Nat.succ_le_of_lt hlt)
      rw [Nat.succ_eq_add_one, Nat.mul_add] at this
      omega
    · exact heq
    · have := Nat.mul_le_mul_left width (Nat.succ_le_of_lt hlt)
      rw [Nat.succ_eq_add_one, Nat.mul_add] at this
      omega
  have hsame : rest = rest' := by
    rw [hcount] at hlength
    omega
  subst hsame
  exact eq_of_spelled hwidth hcount htaken htaken'
    (by rw [h.number, h'.number])

end BitBuffer

/-! ## The alphabet -/

def base32Alphabet : List Char := "ABCDEFGHIJKLMNOPQRSTUVWXYZ234567".toList

def symbol (group : Nat) : Char := base32Alphabet.getD group 'A'

/-- The place of a byte in the alphabet, which is of ASCII characters. -/
def symbolValue (byte : UInt8) : Option Nat :=
  (base32Alphabet.map fun c => UInt8.ofNat c.toNat).idxOf? byte

theorem symbolValue_symbol {group : Nat} (h : group < 2 ^ 5) :
    (symbol group).toNat < 128 ∧
      symbolValue (UInt8.ofNat (symbol group).toNat) = some group := by
  revert group
  decide

theorem symbolValue_eq_some {byte : UInt8} {group : Nat}
    (h : symbolValue byte = some group) :
    group < 2 ^ 5 ∧ byte = UInt8.ofNat (symbol group).toNat := by
  rw [symbolValue, List.idxOf?_eq_some_iff] at h
  obtain ⟨hlt, hbyte, -⟩ := h
  rw [List.length_map] at hlt
  rw [List.getElem_map] at hbyte
  refine ⟨hlt, ?_⟩
  rw [← hbyte, symbol, List.getD_eq_getElem?_getD,
    List.getElem?_eq_getElem hlt, getD_some]

theorem utf8_ofList {text : List Char} (h : ∀ c ∈ text, c.toNat < 128) :
    (String.ofList text).toUTF8.toList
      = text.map fun c => UInt8.ofNat c.toNat := by
  rw [toList_eq_data]
  change (String.ofList text).toByteArray.data.toList = _
  rw [String.toByteArray_ofList, List.utf8Encode, List.toList_data_toByteArray]
  induction text with
  | nil => rfl
  | cons c rest ih =>
    rw [flatMap_cons, map_cons,
      ih fun c hmem => h c (mem_cons_of_mem _ hmem)]
    have hascii : c.val.toNat ≤ 127 := Nat.le_of_lt_succ (h c mem_cons_self)
    rw [String.utf8EncodeChar, if_pos hascii]
    rfl

/-! ## The codec -/

def emitSymbols (state : BitBuffer Char) : BitBuffer Char :=
  if 5 ≤ state.bits then emitSymbols (state.emit symbol 5) else state
termination_by state.bits
decreasing_by
  dsimp only [BitBuffer.emit]
  omega

def encodeByte (state : BitBuffer Char) (byte : UInt8) : BitBuffer Char :=
  emitSymbols (state.shiftIn 8 byte.toNat)

def encodeBase32 (bytes : List UInt8) : String :=
  let state := bytes.foldl encodeByte {}
  if 0 < state.bits then
    String.ofList (state.output
      ++ [symbol ((state.buffer <<< (5 - state.bits)) &&& 31#32).toNat])
  else
    String.ofList state.output

def invalidSecret : PaperError := ⟨"invalid base32 TOTP secret"⟩

def emitByte (state : BitBuffer UInt8) : BitBuffer UInt8 :=
  if 8 ≤ state.bits then state.emit UInt8.ofNat 8 else state

def decodeSymbol (state : BitBuffer UInt8) (character : UInt8) :
    Result (BitBuffer UInt8) :=
  match symbolValue character with
  | none => .error invalidSecret
  | some value => .ok (emitByte (state.shiftIn 5 value))

def decodeBase32 (text : String) : Result (List UInt8) :=
  match text.toUTF8.toList.foldlM decodeSymbol {} with
  | .error e => .error e
  | .ok state =>
    if 5 ≤ state.bits ∨ state.buffer &&& ((1#32 <<< state.bits) - 1#32) ≠ 0
    then .error invalidSecret
    else .ok state.output

open BitBuffer

variable {taken groups : List Nat}

theorem emitSymbols_holds {state : BitBuffer Char} (h : Holds symbol 8 5 taken state) :
    Holds symbol 8 5 taken (emitSymbols state) ∧
      (emitSymbols state).bits < 5 := by
  fun_induction emitSymbols state with
  | case1 state hbits ih => exact ih (h.emit hbits (by decide))
  | case2 state hbits => exact ⟨h, Nat.not_le.mp hbits⟩

theorem encodeBytes_holds (bytes : List UInt8) {state : BitBuffer Char}
    (h : Holds symbol 8 5 taken state) (hbits : state.bits < 5) :
    Holds symbol 8 5 (taken ++ bytes.map UInt8.toNat)
        (bytes.foldl encodeByte state) ∧
      (bytes.foldl encodeByte state).bits < 5 := by
  induction bytes generalizing state taken with
  | nil => exact ⟨by simpa using h, hbits⟩
  | cons byte rest ih =>
    have hshift := h.shiftIn byte.toNat_lt (by omega : state.bits + 8 ≤ 32)
    obtain ⟨hnext, hfew⟩ := emitSymbols_holds hshift
    have hrest := ih hnext hfew
    rwa [append_assoc, List.singleton_append] at hrest

/-- The symbols of an encoding hold the bytes and zero bits after them. -/
theorem encodeBase32_regroups (bytes : List UInt8) :
    ∃ groups rest, encodeBase32 bytes = String.ofList (groups.map symbol) ∧
      (∀ group ∈ groups, group < 2 ^ 5) ∧ rest < 5 ∧
      Regrouped 5 8 groups (bytes.map UInt8.toNat) rest 0 := by
  have hbytes : ∀ group ∈ bytes.map UInt8.toNat, group < 2 ^ 8 := by
    intro group hmem
    obtain ⟨byte, -, rfl⟩ := mem_map.mp hmem
    exact byte.toNat_lt
  have hstart : Holds symbol 8 5 [] {} := ⟨[], rfl, nofun, rfl, rfl⟩
  obtain ⟨⟨made, houtput, hmade⟩, hbits⟩ := encodeBytes_holds bytes hstart
    (by decide)
  rw [nil_append] at hmade
  generalize hstate : bytes.foldl encodeByte {} = state at *
  have hlength := hmade.length
  have hnumber := hmade.number
  simp only [encodeBase32, hstate]
  split
  · next hpositive =>
    have hsplit : (2 : Nat) ^ 5 = 2 ^ state.bits * 2 ^ (5 - state.bits) := by
      rw [← Nat.pow_add, Nat.add_sub_cancel' hbits.le]
    have hlast : ((state.buffer <<< (5 - state.bits)) &&& 31#32).toNat
        = state.buffer.toNat % 2 ^ state.bits * 2 ^ (5 - state.bits) := by
      change _ &&& (2 ^ 5 - 1) = _
      rw [Nat.and_two_pow_sub_one_eq_mod, BitVec.toNat_shiftLeft,
        Nat.mod_mod_of_dvd _ (by decide), Nat.shiftLeft_eq, hsplit,
        Nat.mul_mod_mul_right]
    have hlow : ((state.buffer <<< (5 - state.bits)) &&& 31#32).toNat
        < 2 ^ 5 :=
      Nat.lt_of_le_of_lt Nat.and_le_right (by decide)
    generalize ((state.buffer <<< (5 - state.bits)) &&& 31#32).toNat = last
      at hlast hlow ⊢
    refine ⟨made ++ [last], 5 - state.bits, ?_, ?_, by omega, hbytes, ?_, ?_⟩
    · rw [houtput, map_append, List.map_singleton]
    · intro group hmem
      rcases mem_append.mp hmem with hmem | hmem
      · exact hmade.made_lt group hmem
      · rwa [mem_singleton.mp hmem]
    · rw [length_append, List.length_singleton]
      omega
    · rw [spelled_append, hlast, hnumber, hsplit]
      ring
  · next hzero =>
    have hnone : state.bits = 0 := Nat.eq_zero_of_not_pos hzero
    rw [hnone, Nat.pow_zero, Nat.mod_one] at hnumber
    exact ⟨made, 0, by rw [houtput], hmade.made_lt, by decide, hbytes,
      by omega, by omega⟩

def symbolByte (group : Nat) : UInt8 := UInt8.ofNat (symbol group).toNat

variable {state : BitBuffer UInt8}

theorem emitByte_holds (h : Holds UInt8.ofNat 5 8 taken state) (hbits : state.bits < 16) :
    Holds UInt8.ofNat 5 8 taken (emitByte state) ∧
      (emitByte state).bits < 8 := by
  unfold emitByte
  split
  · next hfull =>
    refine ⟨h.emit hfull (by decide), ?_⟩
    dsimp only [BitBuffer.emit]
    omega
  · next hfew => exact ⟨h, Nat.not_le.mp hfew⟩

theorem decodeSymbols_holds (hgroups : ∀ group ∈ groups, group < 2 ^ 5)
    (h : Holds UInt8.ofNat 5 8 taken state) (hbits : state.bits < 8) :
    ∃ after, (groups.map symbolByte).foldlM decodeSymbol state = .ok after ∧
      Holds UInt8.ofNat 5 8 (taken ++ groups) after ∧ after.bits < 8 := by
  induction groups generalizing state taken with
  | nil => exact ⟨state, rfl, by simpa using h, hbits⟩
  | cons group rest ih =>
    obtain ⟨hgroup, hrest⟩ := forall_mem_cons.mp hgroups
    have hshift := h.shiftIn hgroup (by omega : state.bits + 5 ≤ 32)
    obtain ⟨hnext, hfew⟩ := emitByte_holds hshift
      (by dsimp only [BitBuffer.shiftIn]; omega)
    obtain ⟨after, hafter, hholds, hlast⟩ := ih hrest hnext hfew
    refine ⟨after, ?_, ?_, hlast⟩
    · rw [map_cons, foldlM_cons, decodeSymbol, symbolByte, (symbolValue_symbol hgroup).2]
      exact hafter
    · rwa [append_assoc, List.singleton_append] at hholds

theorem groups_of_decodeSymbols {text : List UInt8} {after : BitBuffer UInt8}
    (h : text.foldlM decodeSymbol state = .ok after) :
    ∃ groups : List Nat, text = groups.map symbolByte ∧
      ∀ group ∈ groups, group < 2 ^ 5 := by
  induction text generalizing state with
  | nil => exact ⟨[], rfl, nofun⟩
  | cons byte rest ih =>
    rw [foldlM_cons, bind_eq_ok] at h
    obtain ⟨next, hstep, hrest⟩ := h
    obtain ⟨groups, rfl, hgroups⟩ := ih hrest
    cases hvalue : symbolValue byte with
    | none =>
      rw [decodeSymbol, hvalue] at hstep
      contradiction
    | some group =>
      obtain ⟨hlt, rfl⟩ := symbolValue_eq_some hvalue
      exact ⟨group :: groups, rfl, forall_mem_cons.mpr ⟨hlt, hgroups⟩⟩

theorem map_symbolByte (hgroups : ∀ group ∈ groups, group < 2 ^ 5) :
    (String.ofList (groups.map symbol)).toUTF8.toList
      = groups.map symbolByte := by
  rw [utf8_ofList, map_map]
  · rfl
  · intro c hmem
    obtain ⟨group, hgroup, rfl⟩ := mem_map.mp hmem
    exact (symbolValue_symbol (hgroups group hgroup)).1

theorem trailing_eq_zero (buffer : BitVec 32) {bits : Nat} (h : bits < 5) :
    buffer &&& ((1#32 <<< bits) - 1#32) = 0 ↔
      buffer.toNat % 2 ^ bits = 0 := by
  have hmask : ((1#32 <<< bits) - 1#32).toNat = 2 ^ bits - 1 := by
    revert bits
    decide
  rw [← BitVec.toNat_inj, BitVec.toNat_and, hmask, Nat.and_two_pow_sub_one_eq_mod]
  rfl

theorem map_toNat_ofNat {made : List Nat} (h : ∀ group ∈ made, group < 2 ^ 8) :
    (made.map UInt8.ofNat).map UInt8.toNat = made := by
  rw [map_map]
  refine (List.map_congr_left fun group hmem => ?_).trans (List.map_id made)
  exact UInt8.toNat_ofNat_of_lt (h group hmem)

theorem decodeBase32_eq_ok (hgroups : ∀ group ∈ groups, group < 2 ^ 5)
    {bytes : List UInt8} : decodeBase32 (String.ofList (groups.map symbol)) = .ok bytes ↔
      ∃ rest < 5, Regrouped 5 8 groups (bytes.map UInt8.toNat) rest 0 := by
  have hstart : Holds UInt8.ofNat 5 8 [] {} := ⟨[], rfl, nofun, rfl, rfl⟩
  obtain ⟨after, hafter, ⟨made, houtput, hmade⟩, hbits⟩ :=
    decodeSymbols_holds hgroups hstart (by decide)
  rw [nil_append] at hmade
  rw [decodeBase32, map_symbolByte hgroups, hafter]
  dsimp only
  constructor
  · intro h
    split at h
    · contradiction
    · next haccept =>
      obtain ⟨hfew, hzero⟩ := not_or.mp haccept
      have hfew := Nat.not_le.mp hfew
      rw [(trailing_eq_zero _ hfew).mp (not_not.mp hzero)] at hmade
      refine ⟨after.bits, hfew, ?_⟩
      rwa [← Except.ok.inj h, houtput, map_toNat_ofNat hmade.made_lt]
  · rintro ⟨rest, hrest, hbytes⟩
    obtain ⟨hsame, hcount, hlow⟩ := hmade.made_unique (by decide) hbytes hbits
      (by omega) (Nat.mod_lt _ (Nat.two_pow_pos _)) (Nat.two_pow_pos _)
    subst hcount
    rw [if_neg (not_or.mpr ⟨Nat.not_le.mpr hrest,
      not_not.mpr ((trailing_eq_zero _ hrest).mpr hlow)⟩), houtput, hsame, map_map]
    refine congrArg Except.ok ?_
    exact (List.map_congr_left fun byte _ => UInt8.ofNat_toNat).trans
      (List.map_id bytes)

/-- A secret has one accepted text, its encoding, and an accepted text names
one secret. -/
theorem base32_round_trip (text : String) (bytes : List UInt8) :
    decodeBase32 text = .ok bytes ↔ text = encodeBase32 bytes := by
  obtain ⟨groups, rest, hencode, hgroups, hrest, hregrouped⟩ :=
    encodeBase32_regroups bytes
  constructor
  · intro h
    obtain ⟨read, hread, hlt⟩ : ∃ read : List Nat,
        text.toUTF8.toList = read.map symbolByte ∧
          ∀ group ∈ read, group < 2 ^ 5 := by
      unfold decodeBase32 at h
      split at h
      · contradiction
      · next state hstate => exact groups_of_decodeSymbols hstate
    obtain rfl : text = String.ofList (read.map symbol) :=
      utf8_injective (by rw [hread, map_symbolByte hlt])
    obtain ⟨rest', hrest', hregrouped'⟩ := (decodeBase32_eq_ok hlt).mp h
    rw [hencode, hregrouped'.taken_unique (by decide) hregrouped hrest' hrest
      hlt hgroups]
  · rintro rfl
    rw [hencode]
    exact (decodeBase32_eq_ok hgroups).mpr ⟨rest, hrest, hregrouped⟩

end Follon.Identity
