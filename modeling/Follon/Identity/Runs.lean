import Follon.Identity.Operations

/-!
# Runs of the identity service

A run is a sequence of operations, each with the time it is made at and the
randomness it draws.  `Effect` says once what an operation can answer and what
it leaves written; what holds over runs is derived from it.
-/

namespace Follon.Identity

open Foundation Domain Fallible

section
variable [ContentHash]

inductive Operation where
  | createUser (userId tenantId email password : String)
      (roles : Finset Role) (salt : String)
  | importUser (userId tenantId email passwordHash : String)
      (mfaSecret : Option (List UInt8)) (roles : Finset Role)
  | enrollTotp (userId : String) (drawn : List UInt8)
  | setTotpSecret (userId : String) (secret : List UInt8)
  | beginLogin (tenantId email password : String) (now : Int)
      (drawn : List UInt8)
  | completeTotp (challengeToken code : String) (now : Int)
      (drawn : List UInt8)
  | rotateRecoveryCodes (userId : String) (draws : CodeDraws)
  | completeRecoveryCode (challengeToken recoveryCode : String) (now : Int)
      (drawn : List UInt8)
  | changePassword (token tenantId currentPassword newPassword : String)
      (now : Int) (salt : String)
  | authorize (token tenantId : String) (permission : Permission) (now : Int)
  | setRoles (userId : String) (roles : Finset Role)
  | disableUser (userId : String)
  | revokeSession (token : String)

inductive Answer where
  | done
  | secret (bytes : List UInt8)
  | login (outcome : LoginOutcome)
  | session (grant : SessionGrant)
  | codes (recoveryCodes : List String)
  | context (context : AuthorizationContext)
  | revoked (known : Bool)
  deriving DecidableEq

def grantOf : Result Answer → Option SessionGrant
  | .ok (.login (.authenticated grant)) => some grant
  | .ok (.session grant) => some grant
  | _ => none

def challengeOf : Result Answer → Option String
  | .ok (.login (.mfaRequired challengeToken _)) => some challengeToken
  | _ => none

def OpensNothing (answer : Answer) : Prop :=
  grantOf (.ok answer) = none ∧ challengeOf (.ok answer) = none

def Operation.time : Operation → Option Int
  | .beginLogin _ _ _ now _ => some now
  | .completeTotp _ _ now _ => some now
  | .completeRecoveryCode _ _ now _ => some now
  | .changePassword _ _ _ _ now _ => some now
  | .authorize _ _ _ now => some now
  | _ => none

def Operation.token : Operation → Option String
  | .beginLogin _ _ _ _ drawn => some (randomToken drawn)
  | .completeTotp _ _ _ drawn => some (randomToken drawn)
  | .completeRecoveryCode _ _ _ drawn => some (randomToken drawn)
  | _ => none

def Operation.changesPassword : Operation → Bool
  | .changePassword .. => true
  | _ => false

variable [Cryptography]

namespace IdentityService

def perform : Operation → Action Answer
  | .createUser userId tenantId email password roles salt => do
    createUser userId tenantId email password roles salt
    pure .done
  | .importUser userId tenantId email passwordHash mfaSecret roles => do
    importUser userId tenantId email passwordHash mfaSecret roles
    pure .done
  | .enrollTotp userId drawn => do
    let secret ← enrollTotp userId drawn
    pure (.secret secret)
  | .setTotpSecret userId secret => do
    setTotpSecret userId secret
    pure .done
  | .beginLogin tenantId email password now drawn => do
    let outcome ← beginLogin tenantId email password now drawn
    pure (.login outcome)
  | .completeTotp challengeToken code now drawn => do
    let grant ← completeTotp challengeToken code now drawn
    pure (.session grant)
  | .rotateRecoveryCodes userId draws => do
    let codes ← rotateRecoveryCodes userId draws
    pure (.codes codes)
  | .completeRecoveryCode challengeToken recoveryCode now drawn => do
    let grant ← completeRecoveryCode challengeToken recoveryCode now drawn
    pure (.session grant)
  | .changePassword token tenantId currentPassword newPassword now salt => do
    changePassword token tenantId currentPassword newPassword now salt
    pure .done
  | .authorize token tenantId permission now => do
    let service ← read
    let context ← lift (service.authorize token tenantId permission now)
    pure (.context context)
  | .setRoles userId roles => do
    setRoles userId roles
    pure .done
  | .disableUser userId => do
    disableUser userId
    pure .done
  | .revokeSession token => do
    let known ← revokeSession token
    pure (.revoked known)

def after (service : IdentityService) (operation : Operation) : IdentityService :=
  ((perform operation).run service).2

def answer (service : IdentityService) (operation : Operation) : Result Answer :=
  ((perform operation).run service).1

def run (operations : List Operation) : IdentityService := operations.foldl after empty

@[simp] theorem run_snoc (operations : List Operation) (operation : Operation) :
    run (operations ++ [operation]) = (run operations).after operation := by
  simp [run, List.foldl_append]

/-! ## What an operation is about -/

def loginUser (service : IdentityService) : Operation → Option String
  | .beginLogin tenantId email _ _ _ =>
    match service.located tenantId email with
    | .ok found => found
    | .error _ => none
  | .completeTotp challengeToken _ _ _ =>
    service.challenges[tokenHash challengeToken]?.map (·.userId)
  | .completeRecoveryCode challengeToken _ _ _ =>
    service.challenges[tokenHash challengeToken]?.map (·.userId)
  | _ => none

def subject (service : IdentityService) : Operation → Option String
  | .enrollTotp userId _ => some userId
  | .setTotpSecret userId _ => some userId
  | .rotateRecoveryCodes userId _ => some userId
  | .changePassword token _ _ _ _ _ =>
    service.sessions[tokenHash token]?.map (·.userId)
  | .setRoles userId _ => some userId
  | .disableUser userId => some userId
  | _ => none

def admitted (service : IdentityService) (challengeToken : String)
    (now : Int) : Option String :=
  match service.challenges[tokenHash challengeToken]? with
  | none => none
  | some challenge =>
    if challenge.expiresAtEpochSeconds < now ∨
        mfaFailureLimit ≤ challenge.attempts ∨
        service.isLockedAt challenge.userId now = true then none
    else some challenge.userId

/-- The credential check an operation makes: whose credential, and whether
it passed. -/
def verification (service : IdentityService) : Operation → Option (String × Bool)
  | .beginLogin tenantId email password now drawn => do
    let userId ← service.loginUser (.beginLogin tenantId email password now drawn)
    let user ← service.users[userId]?.filter (·.enabled)
    if service.isLockedAt userId now then none
    else some (userId, verifyPassword password user.passwordHash)
  | .completeTotp challengeToken code now _ => do
    let userId ← service.admitted challengeToken now
    let (user, secret) ← service.enrolled userId
    some (userId, (verifyTotp secret code now user.lastAcceptedTotpStep).isSome)
  | .completeRecoveryCode challengeToken recoveryCode now _ => do
    let userId ← service.admitted challengeToken now
    let user ← service.users[userId]?.filter (·.enabled)
    some (userId, tokenHash recoveryCode ∈ user.recoveryCodeHashes)
  | .changePassword token tenantId currentPassword newPassword now _ =>
    match validatePassword newPassword with
    | .error _ => none
    | .ok () => do
      let session ← service.liveSession token tenantId now
      let user ← service.sessionUser session tenantId
      some (session.userId, verifyPassword currentPassword user.passwordHash)
  | _ => none

/-- The record an operation stores for a user whose security version it is
about to advance. -/
def rewritten (service : IdentityService) : Operation → Option (String × UserRecord)
  | .enrollTotp userId secret | .setTotpSecret userId secret =>
    if secret.length < 20 then none
    else service.users[userId]?.map fun user => (userId, { user with
      mfaSecret := some secret, recoveryCodeHashes := ∅
      lastAcceptedTotpStep := none })
  | .rotateRecoveryCodes userId draws =>
    (service.users[userId]?.filter fun user =>
      user.enabled ∧ user.mfaSecret ≠ none).map fun user =>
        (userId, { user with
          recoveryCodeHashes := (drawCodes draws.drawn [] ∅).2 })
  | .setRoles userId roles =>
    if roles = ∅ then none
    else service.users[userId]?.map fun user =>
      (userId, { user with roles := roles })
  | .disableUser userId =>
    service.users[userId]?.map fun user =>
      (userId, { user with enabled := false })
  | .changePassword token tenantId currentPassword newPassword now salt =>
    match validatePassword newPassword, hashPassword newPassword salt with
    | .ok (), .ok encoded => do
      let session ← service.liveSession token tenantId now
      let user ← service.sessionUser session tenantId
      if verifyPassword currentPassword user.passwordHash = false ∨
          verifyPassword newPassword user.passwordHash = true then none
      else some (session.userId, { user with passwordHash := encoded })
    | _, _ => none
  | _ => none

end IdentityService

end

end Follon.Identity
