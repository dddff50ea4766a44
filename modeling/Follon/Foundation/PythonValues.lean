import Follon.Foundation.JsonReader

/-!
# Decimals of Python

The numbers `decimal.Decimal` reads from a text, and the two ways it prints
them: with an exponent where the number is small or large, or without one.
-/

namespace Follon.Foundation

/-! ## Characters -/

def isPythonSpace (c : Char) : Bool :=
  isWhiteSpace c || (0x1c ≤ c.toNat && c.toNat ≤ 0x1f)

def digitZeros : List Nat :=
  [0x30, 0x660, 0x6f0, 0x7c0, 0x966, 0x9e6, 0xa66, 0xae6, 0xb66, 0xbe6, 0xc66, 0xce6,
    0xd66, 0xde6, 0xe50, 0xed0, 0xf20, 0x1040, 0x1090, 0x17e0, 0x1810, 0x1946, 0x19d0,
    0x1a80, 0x1a90, 0x1b50, 0x1bb0, 0x1c40, 0x1c50, 0xa620, 0xa8d0, 0xa900, 0xa9d0,
    0xa9f0, 0xaa50, 0xabf0, 0xff10, 0x104a0, 0x10d30, 0x11066, 0x110f0, 0x11136,
    0x111d0, 0x112f0, 0x11450, 0x114d0, 0x11650, 0x116c0, 0x11730, 0x118e0, 0x11950,
    0x11c50, 0x11d50, 0x11da0, 0x16a60, 0x16ac0, 0x16b50, 0x1d7ce, 0x1d7d8, 0x1d7e2,
    0x1d7ec, 0x1d7f6, 0x1e140, 0x1e2f0, 0x1e950, 0x1fbf0]

def unicodeDigit (c : Char) : Option Nat :=
  (digitZeros.find? fun first => first ≤ c.toNat && c.toNat ≤ first + 9).map
    fun first => c.toNat - first

def stripPython (text : List Char) : List Char :=
  ((text.dropWhile isPythonSpace).reverse.dropWhile isPythonSpace).reverse

def asciiNumeralChar (c : Char) : Option Char :=
  if 0 < c.toNat ∧ c.toNat ≤ 127 then some c
  else if isPythonSpace c = true then some ' '
  else (unicodeDigit c).map fun digit => Char.ofNat (0x30 + digit)

/-! ## Decimals -/

structure PythonDecimal where
  negative : Bool
  coefficient : Nat
  exponent : Int
  deriving DecidableEq

/-- What `Decimal(text)` is. -/
inductive PythonNumber where
  | finite (value : PythonDecimal)
  | infinity (negative : Bool)
  | quietNan
  | signalingNan
  deriving DecidableEq

namespace PythonDecimal

def digits (d : PythonDecimal) : List Char := Nat.toDigits 10 d.coefficient

def adjusted (d : PythonDecimal) : Int := d.exponent + d.digits.length - 1

def IsExact (d : PythonDecimal) : Prop :=
  -1999999999999999997 ≤ d.exponent ∧ d.adjusted ≤ 999999999999999999

instance (d : PythonDecimal) : Decidable d.IsExact := inferInstanceAs (Decidable (_ ∧ _))

def isPositive (d : PythonDecimal) : Bool := !d.negative && d.coefficient != 0

def isNonnegative (d : PythonDecimal) : Bool := !d.negative || d.coefficient == 0

/-! ## Printing -/

def plainDigits (d : PythonDecimal) : List Char :=
  if 0 ≤ d.exponent then
    if d.coefficient = 0 then ['0']
    else d.digits ++ List.replicate d.exponent.toNat '0'
  else
    let places := d.exponent.natAbs
    let padded := List.replicate (places + 1 - d.digits.length) '0' ++ d.digits
    padded.take (padded.length - places) ++ '.' :: padded.drop (padded.length - places)

def signChars (d : PythonDecimal) : List Char :=
  if d.negative = true then ['-'] else []

def plain (d : PythonDecimal) : String := String.ofList (d.signChars ++ d.plainDigits)

def pointed (digits : List Char) (place : Int) : List Char :=
  if place ≤ 0 then
    '0' :: '.' :: List.replicate place.natAbs '0' ++ digits
  else if digits.length ≤ place.toNat then
    digits ++ List.replicate (place.toNat - digits.length) '0'
  else digits.take place.toNat ++ '.' :: digits.drop place.toNat

/-- `str(value)`: with an exponent where the number is large or small. -/
def display (d : PythonDecimal) : String :=
  let leftDigits := d.exponent + d.digits.length
  if d.exponent ≤ 0 ∧ -6 < leftDigits then
    String.ofList (d.signChars ++ pointed d.digits leftDigits)
  else
    String.ofList (d.signChars ++ pointed d.digits 1 ++
      (if leftDigits = 1 then [] else
        'E' :: (if leftDigits < 1 then '-' else '+') ::
          Nat.toDigits 10 (leftDigits - 1).natAbs))

/-! ## Reading -/

def readSign : List Char → Bool × List Char
  | '-' :: rest => (true, rest)
  | '+' :: rest => (false, rest)
  | rest => (false, rest)

def readExponent : List Char → Option Int
  | [] => some 0
  | mark :: rest =>
    let (negative, digits) := readSign rest
    if (mark = 'e' ∨ mark = 'E') ∧ digits ≠ [] ∧
        digits.all isAsciiDigit = true then
      let value : Int := Nat.ofDigitChars 10 digits 0
      some (if negative = true then -value else value)
    else none

def readFraction : List Char → List Char × List Char
  | '.' :: rest => (rest.takeWhile isAsciiDigit, rest.dropWhile isAsciiDigit)
  | rest => ([], rest)

def readFinite (negative : Bool) (text : List Char) : Option PythonDecimal :=
  let whole := text.takeWhile isAsciiDigit
  let (fraction, rest) := readFraction (text.dropWhile isAsciiDigit)
  if whole ++ fraction = [] then none
  else
    (readExponent rest).bind fun exponent =>
      let value : PythonDecimal :=
        { negative, coefficient := Nat.ofDigitChars 10 (whole ++ fraction) 0,
          exponent := exponent - fraction.length }
      if value.IsExact then some value else none

end PythonDecimal

def lowerAscii (c : Char) : Char :=
  if 'A' ≤ c ∧ c ≤ 'Z' then Char.ofNat (c.toNat + 32) else c

namespace PythonNumber

/-- `Infinity` and the numbers that are none, without regard to case. -/
def readSpecial (negative : Bool) (text : List Char) : Option PythonNumber :=
  let lower := text.map lowerAscii
  if lower = ['i', 'n', 'f'] ∨
      lower = ['i', 'n', 'f', 'i', 'n', 'i', 't', 'y'] then
    some (.infinity negative)
  else if lower.take 3 = ['n', 'a', 'n'] ∧
      (lower.drop 3).all isAsciiDigit = true then
    some .quietNan
  else if lower.take 4 = ['s', 'n', 'a', 'n'] ∧
      (lower.drop 4).all isAsciiDigit = true then
    some .signalingNan
  else none

def ofText (text : String) : Option PythonNumber := do
  let kept := (stripPython text.toList).filter (· != '_')
  let ascii ← kept.mapM asciiNumeralChar
  let (negative, unsigned) := PythonDecimal.readSign ascii
  match PythonDecimal.readFinite negative unsigned with
  | some value => some (.finite value)
  | none => readSpecial negative unsigned

end PythonNumber

example : (PythonNumber.ofText " 1_0.50E+3 ")
    = some (.finite ⟨false, 1050, 1⟩) := by
  decide

example : (PythonDecimal.mk true 15 (-8)).plain = "-0.00000015" ∧
    (PythonDecimal.mk true 15 (-8)).display = "-1.5E-7" := by
  decide

end Follon.Foundation

/-!
## JSON texts of Python

`json.dumps` spells every character outside printable ASCII by code points.
Texts of the basic plane read back.
-/

namespace Follon.Foundation.Json

def surrogates (c : Char) : List Char :=
  let n := c.toNat - 0x10000
  '\\' :: 'u' :: hexDigits (0xd800 + n / 0x400) ++
    '\\' :: 'u' :: hexDigits (0xdc00 + n % 0x400)

def pythonChar (c : Char) : List Char :=
  if c = '"' then ['\\', '"']
  else if c = '\\' then ['\\', '\\']
  else if c = Char.ofNat 8 then ['\\', 'b']
  else if c = '\t' then ['\\', 't']
  else if c = '\n' then ['\\', 'n']
  else if c = Char.ofNat 12 then ['\\', 'f']
  else if c = '\r' then ['\\', 'r']
  else if 0x20 ≤ c.toNat ∧ c.toNat ≤ 0x7e then [c]
  else if c.toNat < 0x10000 then '\\' :: 'u' :: hexDigits c.toNat
  else surrogates c

def isBasic (c : Char) : Bool := c.toNat < 0x10000

def basicChar (c : Char) : List Char :=
  if isBasic c = true then pythonChar c else [c]

theorem readCodePoint_basic {c : Char} (hc : c.toNat < 0x10000) :
    ∃ a b d e, hexDigits c.toNat = [a, b, d, e] ∧
      readCodePoint a b d e = some c := by
  have hdigit : ∀ n < 16, readHex (Nat.digitChar n) = some n := by decide
  refine ⟨_, _, _, _, rfl, ?_⟩
  have hvalue : ((c.toNat / 4096 % 16 * 16 + c.toNat / 256 % 16) * 16
      + c.toNat / 16 % 16) * 16 + c.toNat % 16 = c.toNat := by
    omega
  simp only [readCodePoint, hdigit _ (Nat.mod_lt _ (by decide : 0 < 16)),
    bind_eq_bind, bind_some, hvalue]
  have hvalid : c.toNat.isValidChar := c.valid
  rw [if_pos hvalid, Char.ofNat_toNat]

theorem spells_basicChar : Spells basicChar := by
  intro c rest
  unfold basicChar
  split
  · next hbasic =>
      rw [isBasic, decide_eq_true_eq] at hbasic
      unfold pythonChar
      split_ifs with hquote hslash hback htab hline hfeed hreturn hplain
      · rw [hquote]
        exact readString_short (by decide) rfl
      · rw [hslash]
        exact readString_short (by decide) rfl
      · rw [hback]
        exact readString_short (by decide) rfl
      · rw [htab]
        exact readString_short (by decide) rfl
      · rw [hline]
        exact readString_short (by decide) rfl
      · rw [hfeed]
        exact readString_short (by decide) rfl
      · rw [hreturn]
        exact readString_short (by decide) rfl
      · exact readString_plain hquote hslash hplain.1
      · obtain ⟨a, b, d, e, hdigits, hread⟩ := readCodePoint_basic hbasic
        rw [hdigits]
        exact readString_codePoint hread
  · next hbasic =>
      rw [isBasic, decide_eq_true_eq] at hbasic
      apply readString_plain
      · rintro rfl
        exact hbasic (by decide)
      · rintro rfl
        exact hbasic (by decide)
      · omega

theorem read_print_python {value : Json} (hbasic : value.all isBasic = true)
    (h : Nested 127 value) : read (print pythonChar value) = some value := by
  have hsame : print pythonChar value = print basicChar value := by
    apply print_congr hbasic
    intro c hc
    rw [basicChar, if_pos hc]
  rw [hsame]
  exact read_print spells_basicChar h

end Follon.Foundation.Json
