import Follon.Domain.Identity
import Follon.Foundation.Digest
import Follon.Foundation.Fallible
import Follon.Foundation.OrderedMap
import Mathlib.Data.Finset.Basic

/-!
# The identity service

Customer accounts with passwords, TOTP secrets and recovery codes, the
lockout of an account, pending MFA challenges, and sessions bound to the
security version of their user.  Tokens are stored by their hash.

Password hashing, the keyed hash of a TOTP code and the random draws are not
of this repository: the first two are parameters, and an operation takes what
it drew as an argument.
-/

namespace Follon.Identity

open Foundation Domain

abbrev IdentityError : Type :=
  PaperError

class Cryptography where
  hashPassword : (password salt : String) → Option String
  verifyPassword : (password encoded : String) → Bool
  isArgon2id : (encoded : String) → Bool
  hmacSha1 : (secret message : List UInt8) → Vector UInt8 20

def loginFailureLimit : Nat := 5

def lockoutSeconds : Int := 15 * 60

def mfaChallengeSeconds : Int := 5 * 60

def mfaFailureLimit : Nat := 5

def sessionSeconds : Int := 15 * 60

def totpStepSeconds : Int := 30

/-! ## Roles -/

inductive Role where
  | organizationAdmin
  | riskManager
  | trader
  | readOnly
  | auditor
  deriving DecidableEq

inductive Permission where
  | portfolioRead
  | paperTrade
  | liveTrade
  | riskPolicyManage
  | killSwitchOperate
  | identityManage
  | auditRead
  | releasePromote
  deriving DecidableEq

def Role.grants : Role → Permission → Bool
  | .organizationAdmin, permission =>
    permission ∈ [Permission.portfolioRead, .identityManage, .auditRead, .releasePromote]
  | .riskManager, permission =>
    permission ∈ [Permission.portfolioRead, .riskPolicyManage,
      .killSwitchOperate, .auditRead]
  | .trader, permission =>
    permission ∈ [Permission.portfolioRead, .paperTrade, .liveTrade]
  | .readOnly, permission => permission == .portfolioRead
  | .auditor, permission =>
    permission ∈ [Permission.portfolioRead, .auditRead]

/-! ## Records -/

structure UserRecord where
  (userId tenantId passwordHash : String)
  mfaSecret : Option (List UInt8)
  recoveryCodeHashes : Finset String
  lastAcceptedTotpStep : Option Int
  roles : Finset Role
  enabled : Bool
  securityVersion : Nat

structure LoginFailures where
  count : Nat
  lockedUntilEpochSeconds : Option Int
  deriving DecidableEq

structure MfaChallengeRecord where
  userId : String
  expiresAtEpochSeconds : Int
  attempts : Nat

structure SessionRecord where
  (userId tenantId : String)
  expiresAtEpochSeconds : Int
  securityVersion : Nat

structure SessionGrant where
  token : String
  expiresAtEpochSeconds : Int
  deriving DecidableEq

inductive LoginOutcome where
  | mfaRequired (challengeToken : String) (expiresAtEpochSeconds : Int)
  | authenticated (session : SessionGrant)
  deriving DecidableEq

structure AuthorizationContext where
  (userId tenantId : String)
  roles : Finset Role
  deriving DecidableEq

structure IdentityService where
  users : OrderedMap String UserRecord
  emailIndex : OrderedMap (String × String) String
  failures : OrderedMap String LoginFailures
  challenges : OrderedMap String MfaChallengeRecord
  sessions : OrderedMap String SessionRecord

abbrev Action (α : Type) : Type :=
  Fallible IdentityService IdentityError α

open Fallible

/-! ## Machine arithmetic -/

def checkedAdd (left right : Int) : Option Int :=
  if -2 ^ 63 ≤ left + right ∧ left + right < 2 ^ 63 then some (left + right)
  else none

def checkedIncrement (value : Nat) : Option Nat :=
  if value + 1 < 2 ^ 64 then some (value + 1) else none

theorem checkedAdd_of_le {left right : Int} (hleft : -2 ^ 63 ≤ left)
    (hright : 0 ≤ right) (hsum : left + right < 2 ^ 63) :
    checkedAdd left right = some (left + right) := by
  unfold checkedAdd
  rw [if_pos]
  constructor
  · omega
  · exact hsum

/-! ## Validation -/

def isAsciiLowercase (c : Char) : Bool := 'a' ≤ c && c ≤ 'z'

def isAsciiUppercase (c : Char) : Bool := 'A' ≤ c && c ≤ 'Z'

def isAsciiAlphanumeric (c : Char) : Bool :=
  isAsciiLowercase c || isAsciiUppercase c || isAsciiDigit c

def normalizeEmail (email : String) : Result String :=
  let normalized := (trim email).toList.map Char.toLower
  match normalized.splitOn '@' with
  | [_ :: _, _ :: _] =>
    if 254 < (String.ofList normalized).utf8ByteSize then
      .error ⟨"invalid email address"⟩
    else
      .ok (String.ofList normalized)
  | _ => .error ⟨"invalid email address"⟩

def validatePassword (password : String) : Result Unit :=
  refuseIf (password.utf8ByteSize < 12 ∨ 128 < password.utf8ByteSize ∨
      password.toList.any isAsciiLowercase = false ∨
      password.toList.any isAsciiUppercase = false ∨
      password.toList.any isAsciiDigit = false ∨
      password.toList.all isAsciiAlphanumeric = true)
    "password must be 12-128 characters with upper, lower, number, and symbol"

def authenticationFailed : IdentityError := ⟨"authentication failed"⟩

def accessDenied : IdentityError := ⟨"access denied"⟩

def securityVersionOverflow : IdentityError := ⟨"security version overflow"⟩

/-! ## Tokens -/

def hexDigit (value : Nat) : Char :=
  ['0', '1', '2', '3', '4', '5', '6', '7', '8', '9', 'a', 'b', 'c', 'd', 'e',
    'f'].getD value '0'

def hex (bytes : List UInt8) : String :=
  String.ofList (bytes.flatMap fun byte =>
    [hexDigit (byte.toNat / 16), hexDigit (byte.toNat % 16)])

def randomToken (drawn : List UInt8) : String := hex drawn

section
variable [ContentHash]

def tokenHash (token : String) : String := ContentHash.hexDigest token.toUTF8.toList

def drawCodes : (drawn : List (List UInt8)) → (codes : List String) →
    (hashes : Finset String) → List String × Finset String
  | [], codes, hashes => (codes, hashes)
  | material :: drawn, codes, hashes =>
    if codes.length < 10 then
      if tokenHash (hex material) ∈ hashes then
        drawCodes drawn codes hashes
      else
        drawCodes drawn (codes ++ [hex material])
          (insert (tokenHash (hex material)) hashes)
    else
      (codes, hashes)

structure CodeDraws where
  drawn : List (List UInt8)
  enough : (drawCodes drawn [] ∅).1.length = 10

end

/-! ## Time-based codes -/

section
variable [Cryptography]

def hashPassword (password salt : String) : Result String :=
  match Cryptography.hashPassword password salt with
  | some encoded => .ok encoded
  | none => .error ⟨"password hashing failed"⟩

def verifyPassword (password encoded : String) : Bool :=
  Cryptography.verifyPassword password encoded

def validateArgon2idHash (encoded : String) : Result Unit :=
  refuseIf (Cryptography.isArgon2id encoded = false)
    "password hash must be an Argon2id PHC string"

def truncateDigest (output : Vector UInt8 20) : Nat :=
  let offset := output[19].toNat % 16
  have hoffset : offset < 16 := Nat.mod_lt _ (by decide)
  output[offset].toNat % 128 * 2 ^ 24 + output[offset + 1].toNat * 2 ^ 16 +
    output[offset + 2].toNat * 2 ^ 8 + output[offset + 3].toNat

def totpCode (secret : List UInt8) (epochSeconds : Int) : Result String :=
  if epochSeconds < 0 ∨ secret.length < 20 then
    .error authenticationFailed
  else
    let counter := (epochSeconds / totpStepSeconds).toNat
    let output := Cryptography.hmacSha1 secret (bigEndian counter)
    .ok (String.ofList (zeroPadded 6 (truncateDigest output % 1000000)))

/-- The steps within the tolerance, each with the code expected of it. -/
def candidateSteps (secret : List UInt8) (epochSeconds : Int) : List (Int × String) :=
  ([-totpStepSeconds, 0, totpStepSeconds].filterMap
      (checkedAdd epochSeconds)).filterMap fun timestamp =>
    match totpCode secret timestamp with
    | .ok expected => some (timestamp / totpStepSeconds, expected)
    | .error _ => none

def verifyTotp (secret : List UInt8) (code : String) (epochSeconds : Int)
    (lastAcceptedStep : Option Int) : Option Int :=
  if code.utf8ByteSize ≠ 6 ∨ code.toList.all isAsciiDigit = false then none
  else
    (((candidateSteps secret epochSeconds).filter fun candidate =>
      lastAcceptedStep.all (· < candidate.1)).find? fun candidate =>
        candidate.2 == code).map (·.1)

theorem verifyTotp_later {secret : List UInt8} {code : String} {now : Int}
    {last : Option Int} {step : Int} (h : verifyTotp secret code now last = some step) :
    ∀ before ∈ last, before < step := by
  unfold verifyTotp at h
  split at h
  · contradiction
  · rw [map_eq_some_iff] at h
    obtain ⟨candidate, hfound, rfl⟩ := h
    have hmem := List.mem_of_find?_eq_some hfound
    rw [mem_filter] at hmem
    intro before hbefore
    rw [Option.mem_def] at hbefore
    subst hbefore
    simpa using hmem.2

end

end Follon.Identity
