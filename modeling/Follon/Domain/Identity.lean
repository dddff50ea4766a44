import Follon.Domain.Decimal

/-!
# Canonical identifiers and timestamps

Durable keys are canonical identifiers; instants are second-precision
`YYYY-MM-DDTHH:MM:SSZ` stamps.  `parseUtc` is the RFC 3339 reading of such a
stamp, in nanoseconds, including the leap-second stand-in at a month's end.
-/

namespace Follon.Domain

open Foundation

/-! ## Identifiers -/

def isCanonicalChar (c : Char) : Bool :=
  ('a' ≤ c && c ≤ 'z') || isAsciiDigit c || c == '.' || c == '_' || c == '-'

def isCanonicalId (value : String) : Bool :=
  !value.isEmpty && value.toList.all isCanonicalChar

def validateCanonicalId (name value : String) : Result Unit :=
  refuseIf (isCanonicalId value = false)
    (name ++ " must be a non-empty canonical ID")

variable {name value : String} {u : Unit}

@[simp] theorem validateCanonicalId_eq_ok :
    validateCanonicalId name value = .ok u ↔ isCanonicalId value = true := by
  simp [validateCanonicalId]

theorem isCanonicalId_append {stem id : String}
    (hstem : stem.toList.all isCanonicalChar = true)
    (hid : isCanonicalId id = true) : isCanonicalId (stem ++ id) = true := by
  simp only [isCanonicalId, and_eq_true, Bool.not_eq_true',
    String.isEmpty_eq_false_iff, toList_append, List.all_append] at hid ⊢
  refine ⟨?_, hstem, hid.2⟩
  intro hempty
  exact hid.1 (String.append_eq_empty_iff.mp hempty).2

def isCurrencyCode (code : String) : Bool :=
  code.utf8ByteSize == 3 && code.toList.all fun c => 'A' ≤ c && c ≤ 'Z'

/-! ## Timestamps -/

def digitsValue (digits : List Char) : Nat := Nat.ofDigitChars 10 digits 0

def isLeapYear (year : Nat) : Bool :=
  year % 4 == 0 && (year % 100 != 0 || year % 400 == 0)

def daysInMonth (year month : Nat) : Nat :=
  match month with
  | 2 => if isLeapYear year then 29 else 28
  | 4 | 6 | 9 | 11 => 30
  | _ => 31

/-- Days from 1 January of year 0 to the first day of `month` in `year`. -/
def daysBefore (year month : Nat) : Nat :=
  365 * year + (year + 3) / 4 - (year + 99) / 100 + (year + 399) / 400 +
    ((List.range (month - 1)).map fun m => daysInMonth year (m + 1)).sum

def hasCanonicalShape (value : List Char) : Bool :=
  value.length == 20 &&
    value.zipIdx.all fun (c, index) =>
      if index = 4 ∨ index = 7 then c == '-'
      else if index = 10 then c == 'T'
      else if index = 13 ∨ index = 16 then c == ':'
      else if index = 19 then c == 'Z'
      else isAsciiDigit c

/-- `OffsetDateTime::parse(value, &Rfc3339)` on a stamp of canonical shape, as
nanoseconds since the start of year 0.  Second 60 is accepted only as the last
second of a month and reads as its last nanosecond. -/
def parseUtc (value : String) : Option Int :=
  let cs := value.toList
  if hasCanonicalShape cs then
    let field := fun start width => digitsValue ((cs.drop start).take width)
    let year := field 0 4
    let month := field 5 2
    let day := field 8 2
    let hour := field 11 2
    let minute := field 14 2
    let second := field 17 2
    let seconds := fun s : Nat =>
      (((daysBefore year month + day - 1) * 24 + hour) * 60 + minute) * 60 + s
    if month = 0 ∨ 12 < month ∨ day = 0 ∨ daysInMonth year month < day ∨
        23 < hour ∨ 59 < minute then
      none
    else if second < 60 then
      some ((seconds second : Int) * 1000000000)
    else if second = 60 ∧ hour = 23 ∧ minute = 59 ∧
        day = daysInMonth year month then
      some ((seconds 59 : Int) * 1000000000 + 999999999)
    else
      none
  else
    none

def isUtcTimestamp (value : String) : Bool :=
  hasCanonicalShape value.toList && (parseUtc value).isSome

def validateUtcTimestamp (name value : String) : Result Unit :=
  refuseIf (isUtcTimestamp value = false)
    (name ++ " must be canonical second-precision UTC")

@[simp] theorem validateUtcTimestamp_eq_ok :
    validateUtcTimestamp name value = .ok u ↔ isUtcTimestamp value = true := by
  simp [validateUtcTimestamp]

def utcDate (value : String) : String := String.ofList (value.toList.take 10)

theorem parseUtc_isSome (h : isUtcTimestamp value = true) :
    (parseUtc value).isSome = true := by
  simp only [isUtcTimestamp, and_eq_true] at h
  exact h.2

end Follon.Domain
