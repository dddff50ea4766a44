import Follon.Identity.Service

/-!
# Methods of the identity service

Every method keeps what it wrote before it failed: a secret is stored before
the version it bumps is checked for overflow, and a lapsed lock is cleared
before the credential is looked at.
-/

namespace Follon.Identity

open Foundation Domain Fallible

namespace IdentityService

def empty : IdentityService := ⟨∅, ∅, ∅, ∅, ∅⟩

def putUser (service : IdentityService) (userId : String)
    (user : UserRecord) : IdentityService :=
  { service with users := service.users.insert userId user }

def putFailures (service : IdentityService) (userId : String)
    (failures : LoginFailures) : IdentityService :=
  { service with failures := service.failures.insert userId failures }

def clearFailures (service : IdentityService) (userId : String) : IdentityService :=
  { service with failures := service.failures.erase userId }

def dropChallenge (service : IdentityService) (challengeHash : String) :
    IdentityService :=
  { service with challenges := service.challenges.erase challengeHash }

def dropChallengesOf (service : IdentityService) (userId : String) : IdentityService :=
  { service with
    challenges := service.challenges.filter fun _ challenge =>
      challenge.userId ≠ userId }

def countAttempt (service : IdentityService) (challengeHash : String) : IdentityService :=
  { service with
    challenges := service.challenges.adjust challengeHash fun challenge =>
      { challenge with attempts := min 255 (challenge.attempts + 1) } }

def revokeUserSessions (service : IdentityService) (userId : String) : IdentityService :=
  { service with
    sessions := service.sessions.filter fun _ session =>
      session.userId ≠ userId }

/-! ## Lockout -/

def lockExpiry (service : IdentityService) (userId : String) : Option Int :=
  service.failures[userId]?.bind (·.lockedUntilEpochSeconds)

def isLockedAt (service : IdentityService) (userId : String) (now : Int) : Bool :=
  match service.lockExpiry userId with
  | some expiry => now < expiry
  | none => false

def clearLapsedLock (service : IdentityService) (userId : String)
    (now : Int) : IdentityService :=
  match service.lockExpiry userId with
  | some expiry =>
    if now < expiry then service else service.clearFailures userId
  | none => service

def isLocked (userId : String) (nowEpochSeconds : Int) : Action Bool := do
  let service ← read
  update (clearLapsedLock · userId nowEpochSeconds)
  pure (service.isLockedAt userId nowEpochSeconds)

def recordFailure (userId : String) (nowEpochSeconds : Int) : Action Unit := do
  let service ← read
  let failures := service.failures[userId]?.getD ⟨0, none⟩
  let counted := { failures with count := min 255 (failures.count + 1) }
  update (putFailures · userId counted)
  if loginFailureLimit ≤ counted.count then
    match checkedAdd nowEpochSeconds lockoutSeconds with
    | none => fail ⟨"lockout expiry overflow"⟩
    | some expiry =>
      update (putFailures · userId
        { counted with lockedUntilEpochSeconds := some expiry })
  else
    pure ()

/-! ## Sessions -/

section
variable [ContentHash]

def issueSession (userId : String) (nowEpochSeconds : Int)
    (drawn : List UInt8) : Action SessionGrant := do
  let service ← read
  match service.users[userId]? with
  | none => fail authenticationFailed
  | some user =>
    if user.enabled = false then
      fail authenticationFailed
    else
      match checkedAdd nowEpochSeconds sessionSeconds with
      | none => fail ⟨"session expiry overflow"⟩
      | some expiresAtEpochSeconds => do
        let token := randomToken drawn
        update fun service => { service with
          sessions := service.sessions.insert (tokenHash token)
            ⟨user.userId, user.tenantId, expiresAtEpochSeconds, user.securityVersion⟩ }
        pure ⟨token, expiresAtEpochSeconds⟩

def liveSession (service : IdentityService) (token tenantId : String)
    (nowEpochSeconds : Int) : Option SessionRecord :=
  service.sessions[tokenHash token]?.filter fun session =>
    nowEpochSeconds ≤ session.expiresAtEpochSeconds ∧ session.tenantId = tenantId

def sessionUser (service : IdentityService) (session : SessionRecord)
    (tenantId : String) : Option UserRecord :=
  service.users[session.userId]?.filter fun user =>
    user.enabled ∧ user.tenantId = tenantId ∧
      user.securityVersion = session.securityVersion

def authorize (service : IdentityService) (token tenantId : String)
    (permission : Permission) (nowEpochSeconds : Int) : Result AuthorizationContext :=
  match service.liveSession token tenantId nowEpochSeconds with
  | none => .error accessDenied
  | some session =>
    match service.sessionUser session tenantId with
    | none => .error accessDenied
    | some user =>
      if ∃ role ∈ user.roles, role.grants permission = true then
        .ok ⟨user.userId, user.tenantId, user.roles⟩
      else
        .error accessDenied

def revokeSession (token : String) : Action Bool := do
  let service ← read
  update fun service =>
    { service with sessions := service.sessions.erase (tokenHash token) }
  pure (service.sessions.contains (tokenHash token))

end

/-! ## Accounts -/

/-- Stores a user under the next security version and ends the sessions of
`owner`; the user stays written when the version is exhausted. -/
def secure (userId : String) (user : UserRecord) (owner : String) : Action Unit := do
  update (putUser · userId user)
  match checkedIncrement user.securityVersion with
  | none => fail securityVersionOverflow
  | some version =>
    update fun service =>
      (service.putUser userId { user with securityVersion := version })
        |>.revokeUserSessions owner

def userNotFound : IdentityError := ⟨"user not found"⟩

def enterUser (normalizedEmail : String) (user : UserRecord) :
    IdentityService → IdentityService :=
  fun service => { service with
    emailIndex :=
      service.emailIndex.insert (user.tenantId, normalizedEmail) user.userId
    users := service.users.insert user.userId user }

def checkNewUser (service : IdentityService) (userId tenantId
    normalizedEmail : String) : Result Unit :=
  refuseIf (service.users.contains userId = true ∨
      service.emailIndex.contains (tenantId, normalizedEmail) = true)
    "user already exists"

section
variable [Cryptography]

def createUser (userId tenantId email password : String)
    (roles : Finset Role) (salt : String) : Action Unit := do
  lift (validateCanonicalId "user_id" userId)
  lift (validateCanonicalId "tenant_id" tenantId)
  let normalizedEmail ← lift (normalizeEmail email)
  lift (validatePassword password)
  lift (refuseIf (roles = ∅) "user must have at least one role")
  let service ← read
  lift (service.checkNewUser userId tenantId normalizedEmail)
  let encoded ← lift (hashPassword password salt)
  update (enterUser normalizedEmail
    ⟨userId, tenantId, encoded, none, ∅, none, roles, true, 1⟩)

def shortSecret : String := "TOTP secret must contain at least 160 bits"

def importUser (userId tenantId email passwordHash : String)
    (mfaSecret : Option (List UInt8)) (roles : Finset Role) : Action Unit := do
  lift (validateCanonicalId "user_id" userId)
  lift (validateCanonicalId "tenant_id" tenantId)
  let normalizedEmail ← lift (normalizeEmail email)
  lift (validateArgon2idHash passwordHash)
  lift (refuseIf (∃ secret ∈ mfaSecret, secret.length < 20) shortSecret)
  lift (refuseIf (roles = ∅) "user must have at least one role")
  let service ← read
  lift (service.checkNewUser userId tenantId normalizedEmail)
  update (enterUser normalizedEmail
    ⟨userId, tenantId, passwordHash, mfaSecret, ∅, none, roles, true, 1⟩)

end

def setTotpSecret (userId : String) (secret : List UInt8) : Action Unit := do
  lift (refuseIf (secret.length < 20) shortSecret)
  let service ← read
  match service.users[userId]? with
  | none => fail userNotFound
  | some user =>
    secure userId
      { user with
        mfaSecret := some secret, recoveryCodeHashes := ∅
        lastAcceptedTotpStep := none } userId

def enrollTotp (userId : String) (drawn : List UInt8) : Action (List UInt8) := do
  setTotpSecret userId drawn
  pure drawn

def setRoles (userId : String) (roles : Finset Role) : Action Unit := do
  lift (refuseIf (roles = ∅) "user must have at least one role")
  let service ← read
  match service.users[userId]? with
  | none => fail userNotFound
  | some user => secure userId { user with roles := roles } userId

def disableUser (userId : String) : Action Unit := do
  let service ← read
  match service.users[userId]? with
  | none => fail userNotFound
  | some user => do
    secure userId { user with enabled := false } userId
    update (dropChallengesOf · userId)

/-! ## Recovery codes -/

section
variable [ContentHash]

def rotateRecoveryCodes (userId : String) (draws : CodeDraws) : Action (List String) := do
  let service ← read
  match service.users[userId]? with
  | none => fail ⟨"MFA enrollment is required"⟩
  | some user =>
    if user.enabled = false ∨ user.mfaSecret = none then
      fail ⟨"MFA enrollment is required"⟩
    else do
      let codes := drawCodes draws.drawn [] ∅
      secure userId { user with recoveryCodeHashes := codes.2 } userId
      pure codes.1

end

/-! ## Logging in -/

def located (service : IdentityService) (tenantId email : String) :
    Result (Option String) := do
  let normalizedEmail ← normalizeEmail email
  pure service.emailIndex[(tenantId, normalizedEmail)]?

section
variable [Cryptography]

def passwordVerifies (service : IdentityService) (userId password : String) : Bool :=
  match service.users[userId]? with
  | some user => user.enabled && verifyPassword password user.passwordHash
  | none => false

end

def hasMfa (service : IdentityService) (userId : String) : Bool :=
  match service.users[userId]? with
  | some user => user.mfaSecret.isSome
  | none => false

section
variable [ContentHash]

/-- What a verified password opens: a session, or a challenge for the second
factor. -/
def finishPassword (userId : String) (nowEpochSeconds : Int)
    (drawn : List UInt8) : Action LoginOutcome := do
  let service ← read
  if service.hasMfa userId then
    match checkedAdd nowEpochSeconds mfaChallengeSeconds with
    | none => fail ⟨"challenge expiry overflow"⟩
    | some expiresAtEpochSeconds => do
      let challengeToken := randomToken drawn
      update fun service => { service with
        challenges := service.challenges.insert (tokenHash challengeToken)
          ⟨userId, expiresAtEpochSeconds, 0⟩ }
      pure (.mfaRequired challengeToken expiresAtEpochSeconds)
  else do
    update (clearFailures · userId)
    let session ← issueSession userId nowEpochSeconds drawn
    pure (.authenticated session)

variable [Cryptography]

def beginLogin (tenantId email password : String) (nowEpochSeconds : Int)
    (drawn : List UInt8) : Action LoginOutcome := do
  let service ← read
  let found ← lift (service.located tenantId email)
  match found with
  | none => fail authenticationFailed
  | some userId => do
    let locked ← isLocked userId nowEpochSeconds
    if locked then
      fail authenticationFailed
    else if service.passwordVerifies userId password then
      finishPassword userId nowEpochSeconds drawn
    else do
      recordFailure userId nowEpochSeconds
      fail authenticationFailed

/-- The checks both second factors make of a challenge before they look at
the credential; a spent challenge is dropped. -/
def openChallenge (challengeToken : String) (nowEpochSeconds : Int) : Action String := do
  let service ← read
  match service.challenges[tokenHash challengeToken]? with
  | none => fail authenticationFailed
  | some challenge =>
    if challenge.expiresAtEpochSeconds < nowEpochSeconds ∨
        mfaFailureLimit ≤ challenge.attempts then do
      update (dropChallenge · (tokenHash challengeToken))
      fail authenticationFailed
    else do
      let locked ← isLocked challenge.userId nowEpochSeconds
      if locked then do
        update (dropChallenge · (tokenHash challengeToken))
        fail authenticationFailed
      else
        pure challenge.userId

def refuseFactor {α : Type} (challengeToken userId : String)
    (nowEpochSeconds : Int) : Action α := do
  update (countAttempt · (tokenHash challengeToken))
  recordFailure userId nowEpochSeconds
  fail authenticationFailed

def completeLogin (challengeToken userId : String) (user : UserRecord)
    (nowEpochSeconds : Int) (drawn : List UInt8) : Action SessionGrant := do
  update (putUser · userId user)
  update (dropChallenge · (tokenHash challengeToken))
  update (clearFailures · userId)
  issueSession userId nowEpochSeconds drawn

def enrolled (service : IdentityService) (userId : String) :
    Option (UserRecord × List UInt8) := do
  let user ← service.users[userId]?.filter (·.enabled)
  let secret ← user.mfaSecret
  pure (user, secret)

def completeTotp (challengeToken code : String) (nowEpochSeconds : Int)
    (drawn : List UInt8) : Action SessionGrant := do
  let userId ← openChallenge challengeToken nowEpochSeconds
  let service ← read
  match service.enrolled userId with
  | none => fail authenticationFailed
  | some (user, secret) =>
    match verifyTotp secret code nowEpochSeconds
        user.lastAcceptedTotpStep with
    | some acceptedStep =>
      completeLogin challengeToken userId
        { user with lastAcceptedTotpStep := some acceptedStep }
        nowEpochSeconds drawn
    | none => refuseFactor challengeToken userId nowEpochSeconds

def codeHolder (service : IdentityService) (userId recoveryCode : String) :
    Option UserRecord :=
  service.users[userId]?.filter fun user =>
    user.enabled ∧ tokenHash recoveryCode ∈ user.recoveryCodeHashes

def completeRecoveryCode (challengeToken recoveryCode : String)
    (nowEpochSeconds : Int) (drawn : List UInt8) : Action SessionGrant := do
  let userId ← openChallenge challengeToken nowEpochSeconds
  let service ← read
  match service.codeHolder userId recoveryCode with
  | none => refuseFactor challengeToken userId nowEpochSeconds
  | some user =>
    completeLogin challengeToken userId
      { user with
        recoveryCodeHashes :=
          user.recoveryCodeHashes.erase (tokenHash recoveryCode) }
      nowEpochSeconds drawn

def changePassword (token tenantId currentPassword newPassword : String)
    (nowEpochSeconds : Int) (salt : String) : Action Unit := do
  lift (validatePassword newPassword)
  let service ← read
  match service.liveSession token tenantId nowEpochSeconds with
  | none => fail accessDenied
  | some session =>
    match service.sessionUser session tenantId with
    | none => fail accessDenied
    | some user =>
      if verifyPassword currentPassword user.passwordHash = false ∨
          verifyPassword newPassword user.passwordHash = true then
        fail authenticationFailed
      else do
        let encoded ← lift (hashPassword newPassword salt)
        secure session.userId { user with passwordHash := encoded }
          user.userId

end

end IdentityService

end Follon.Identity
