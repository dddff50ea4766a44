import Follon.Identity.Runs

/-!
# What one operation can do

`Effect` lists the outcomes of an operation, each with the checks that led to
it and the state it leaves; `effect` shows that there are no others.
-/

namespace Follon.Identity

open Foundation Domain Fallible

namespace IdentityService

def Keyed (service : IdentityService) : Prop :=
  ∀ userId (user : UserRecord), service.users[userId]? = some user → user.userId = userId

/-! ## Parts an update leaves alone -/

section
variable (service : IdentityService) (userId challengeHash : String) (now : Int)

@[simp] theorem putUser_challenges (user : UserRecord) :
    (service.putUser userId user).challenges = service.challenges :=
  rfl

@[simp] theorem putUser_failures (user : UserRecord) :
    (service.putUser userId user).failures = service.failures :=
  rfl

@[simp] theorem putUser_sessions (user : UserRecord) :
    (service.putUser userId user).sessions = service.sessions :=
  rfl

@[simp] theorem putUser_putUser (user user' : UserRecord) :
    (service.putUser userId user).putUser userId user'
      = service.putUser userId user' := by
  simp [putUser]

@[simp] theorem putUser_users (user : UserRecord) :
    (service.putUser userId user).users = service.users.insert userId user :=
  rfl

@[simp] theorem clearFailures_users :
    (service.clearFailures userId).users = service.users :=
  rfl

@[simp] theorem clearFailures_challenges :
    (service.clearFailures userId).challenges = service.challenges :=
  rfl

@[simp] theorem clearFailures_sessions :
    (service.clearFailures userId).sessions = service.sessions :=
  rfl

@[simp] theorem clearFailures_failures :
    (service.clearFailures userId).failures = service.failures.erase userId :=
  rfl

@[simp] theorem dropChallenge_users :
    (service.dropChallenge challengeHash).users = service.users :=
  rfl

@[simp] theorem dropChallenge_sessions :
    (service.dropChallenge challengeHash).sessions = service.sessions :=
  rfl

@[simp] theorem dropChallenge_failures :
    (service.dropChallenge challengeHash).failures = service.failures :=
  rfl

@[simp] theorem countAttempt_users :
    (service.countAttempt challengeHash).users = service.users :=
  rfl

@[simp] theorem countAttempt_sessions :
    (service.countAttempt challengeHash).sessions = service.sessions :=
  rfl

theorem clearLapsedLock_eq : service.clearLapsedLock userId now = service ∨
    service.clearLapsedLock userId now = service.clearFailures userId := by
  unfold clearLapsedLock
  split
  · split
    · exact .inl rfl
    · exact .inr rfl
  · exact .inl rfl

@[simp] theorem clearLapsedLock_users :
    (service.clearLapsedLock userId now).users = service.users := by
  cases clearLapsedLock_eq service userId now with
  | inl h => rw [h]
  | inr h => rw [h, clearFailures_users]

@[simp] theorem clearLapsedLock_challenges :
    (service.clearLapsedLock userId now).challenges = service.challenges := by
  cases clearLapsedLock_eq service userId now with
  | inl h => rw [h]
  | inr h => rw [h, clearFailures_challenges]

@[simp] theorem clearLapsedLock_sessions :
    (service.clearLapsedLock userId now).sessions = service.sessions := by
  cases clearLapsedLock_eq service userId now with
  | inl h => rw [h]
  | inr h => rw [h, clearFailures_sessions]

theorem clearLapsedLock_of_locked (h : service.isLockedAt userId now = true) :
    service.clearLapsedLock userId now = service := by
  unfold isLockedAt at h
  unfold clearLapsedLock
  cases hexpiry : service.lockExpiry userId with
  | none => rfl
  | some expiry =>
    simp only [hexpiry, decide_eq_true_eq] at h
    exact if_pos h

theorem run_isLocked (service : IdentityService) : (isLocked userId now).run service
      = (.ok (service.isLockedAt userId now), service.clearLapsedLock userId now) :=
  rfl

end

/-! ## Recording a failure -/

def countFailure (failures : LoginFailures) (now : Int) : LoginFailures :=
  let counted := { failures with count := min 255 (failures.count + 1) }
  if loginFailureLimit ≤ counted.count then
    match checkedAdd now lockoutSeconds with
    | none => counted
    | some expiry => { counted with lockedUntilEpochSeconds := some expiry }
  else counted

def withFailure (service : IdentityService) (userId : String) (now : Int) :
    IdentityService :=
  service.putFailures userId
    (countFailure (service.failures[userId]?.getD ⟨0, none⟩) now)

@[simp] theorem withFailure_users (service : IdentityService)
    (userId : String) (now : Int) :
    (service.withFailure userId now).users = service.users :=
  rfl

@[simp] theorem withFailure_sessions (service : IdentityService)
    (userId : String) (now : Int) :
    (service.withFailure userId now).sessions = service.sessions :=
  rfl

@[simp] theorem withFailure_challenges (service : IdentityService)
    (userId : String) (now : Int) :
    (service.withFailure userId now).challenges = service.challenges :=
  rfl

theorem run_recordFailure (service : IdentityService) (userId : String)
    (now : Int) : ∃ result, (recordFailure userId now).run service
      = (result, service.withFailure userId now) := by
  unfold recordFailure withFailure countFailure
  simp only [run_read_bind, run_update_bind]
  split
  · cases checkedAdd now lockoutSeconds with
    | none => exact ⟨_, rfl⟩
    | some expiry =>
      refine ⟨.ok (), ?_⟩
      simp [putFailures]
  · exact ⟨_, rfl⟩

theorem run_recordFailure_fail {α : Type} (service : IdentityService)
    (userId : String) (now : Int) (e : IdentityError) : ∃ error,
      (recordFailure userId now >>= fun _ => (fail e : Action α)).run service
        = (.error error, service.withFailure userId now) := by
  obtain ⟨result, hrun⟩ := run_recordFailure service userId now
  cases result with
  | ok u => exact ⟨e, by rw [run_bind_ok hrun]; rfl⟩
  | error error => exact ⟨error, by rw [run_bind_error hrun]⟩

end IdentityService

/-! ## The outcomes -/

section
variable [ContentHash] [Cryptography]

namespace IdentityService

def opened (userId : String) (now : Int) (drawn : List UInt8)
    (service : IdentityService) : Result SessionGrant × IdentityService :=
  (issueSession userId now drawn).run service

def secured (service : IdentityService) (userId : String) (user : UserRecord)
    (version : Nat) : IdentityService :=
  (service.putUser userId { user with securityVersion := version })
    |>.revokeUserSessions userId

def spent (service : IdentityService) (challengeToken userId : String)
    (user : UserRecord) (now : Int) : IdentityService :=
  (((service.clearLapsedLock userId now).putUser userId user).dropChallenge
    (tokenHash challengeToken)).clearFailures userId

inductive Effect (service : IdentityService) :
    Operation → Result Answer → IdentityService → Prop
  | refused {operation : Operation} {error : IdentityError}
      (hcheck : ∀ userId, service.verification operation
        = some (userId, false) → operation.changesPassword = true) :
      Effect service operation (.error error) service
  | authorized {token tenantId : String} {permission : Permission} {now : Int}
      {context : AuthorizationContext} :
      Effect service (.authorize token tenantId permission now)
        (.ok (.context context)) service
  | entered {operation : Operation} {normalizedEmail : String}
      {user : UserRecord} (hnew : service.users[user.userId]? = none)
      (hcheck : service.verification operation = none)
      (hsubject : service.subject operation = none) :
      Effect service operation (.ok .done)
        (enterUser normalizedEmail user service)
  | dropped {operation : Operation} {challengeToken : String}
      {error : IdentityError}
      (hcheck : service.verification operation = none) :
      Effect service operation (.error error)
        (service.dropChallenge (tokenHash challengeToken))
  | lapsed {operation : Operation} {userId : String} {now : Int}
      {error : IdentityError} (htime : operation.time = some now)
      (hcheck : ∀ userId, service.verification operation ≠ some (userId, false)) :
      Effect service operation (.error error)
        (service.clearLapsedLock userId now)
  | failedPassword {tenantId email password : String} {now : Int}
      {drawn : List UInt8} {userId : String} {error : IdentityError}
      (hunlocked : service.isLockedAt userId now = false)
      (hcheck : ∀ userId' passed, service.verification
        (.beginLogin tenantId email password now drawn)
          = some (userId', passed) → userId' = userId) :
      Effect service (.beginLogin tenantId email password now drawn)
        (.error error)
        ((service.clearLapsedLock userId now).withFailure userId now)
  | failedFactor {operation : Operation} {challengeToken : String}
      {now : Int} {userId : String} {error : IdentityError}
      (htime : operation.time = some now)
      (hunlocked : service.isLockedAt userId now = false)
      (hcheck : ∀ userId' passed, service.verification operation
        = some (userId', passed) → userId' = userId) :
      Effect service operation (.error error)
        (((service.clearLapsedLock userId now).countAttempt
          (tokenHash challengeToken)).withFailure userId now)
  | challenged {tenantId email password : String} {now : Int}
      {drawn : List UInt8} {userId : String} {expiry : Int}
      (huser : service.loginUser
        (.beginLogin tenantId email password now drawn) = some userId)
      (hverifies : service.passwordVerifies userId password = true)
      (hmfa : service.hasMfa userId = true)
      (hcheck : ∀ userId, service.verification
        (.beginLogin tenantId email password now drawn) ≠ some (userId, false)) :
      Effect service (.beginLogin tenantId email password now drawn)
        (.ok (.login (.mfaRequired (randomToken drawn) expiry)))
        { service.clearLapsedLock userId now with
          challenges := service.challenges.insert
            (tokenHash (randomToken drawn)) ⟨userId, expiry, 0⟩ }
  | loggedIn {tenantId email password : String} {now : Int}
      {drawn : List UInt8} {userId : String}
      (huser : service.loginUser
        (.beginLogin tenantId email password now drawn) = some userId)
      (hverifies : service.passwordVerifies userId password = true)
      (hcheck : ∀ userId, service.verification
        (.beginLogin tenantId email password now drawn) ≠ some (userId, false)) :
      Effect service (.beginLogin tenantId email password now drawn)
        ((opened userId now drawn ((service.clearLapsedLock userId now)
          |>.clearFailures userId)).1.map fun grant =>
            .login (.authenticated grant))
        (opened userId now drawn ((service.clearLapsedLock userId now)
          |>.clearFailures userId)).2
  | completedTotp {challengeToken code : String} {now : Int}
      {drawn : List UInt8} {userId : String} {user : UserRecord}
      {secret : List UInt8} {step : Int}
      (hadmitted : service.admitted challengeToken now = some userId)
      (henrolled : service.enrolled userId = some (user, secret))
      (hstep : verifyTotp secret code now user.lastAcceptedTotpStep = some step) :
      Effect service (.completeTotp challengeToken code now drawn)
        ((opened userId now drawn (service.spent challengeToken userId
          { user with lastAcceptedTotpStep := some step } now)).1.map .session)
        (opened userId now drawn (service.spent challengeToken userId
          { user with lastAcceptedTotpStep := some step } now)).2
  | completedRecovery {challengeToken recoveryCode : String} {now : Int}
      {drawn : List UInt8} {userId : String} {user : UserRecord}
      (hadmitted : service.admitted challengeToken now = some userId)
      (hholder : service.codeHolder userId recoveryCode = some user) :
      Effect service
        (.completeRecoveryCode challengeToken recoveryCode now drawn)
        ((opened userId now drawn (service.spent challengeToken userId
          { user with
            recoveryCodeHashes :=
              user.recoveryCodeHashes.erase (tokenHash recoveryCode) }
          now)).1.map .session)
        (opened userId now drawn (service.spent challengeToken userId
          { user with
            recoveryCodeHashes :=
              user.recoveryCodeHashes.erase (tokenHash recoveryCode) }
          now)).2
  | secured {operation : Operation} {userId : String} {user : UserRecord}
      {answer : Answer} {version : Nat}
      (hrewritten : service.rewritten operation = some (userId, user))
      (hversion : checkedIncrement user.securityVersion = some version)
      (hplain : OpensNothing answer)
      (hcheck : ∀ userId, service.verification operation ≠ some (userId, false)) :
      Effect service operation (.ok answer)
        (service.secured userId user version)
  | disabled {userId : String} {user : UserRecord} {version : Nat}
      (hrewritten : service.rewritten (.disableUser userId) = some (userId, user))
      (hversion : checkedIncrement user.securityVersion = some version) :
      Effect service (.disableUser userId) (.ok .done)
        ((service.secured userId user version).dropChallengesOf userId)
  | overflowed {operation : Operation} {userId : String} {user : UserRecord}
      (hrewritten : service.rewritten operation = some (userId, user))
      (hcheck : ∀ userId, service.verification operation ≠ some (userId, false)) :
      Effect service operation (.error securityVersionOverflow)
        (service.putUser userId user)
  | revoked {token : String} :
      Effect service (.revokeSession token)
        (.ok (.revoked (service.sessions.contains (tokenHash token))))
        { service with sessions := service.sessions.erase (tokenHash token) }

/-! ## Every operation has one of these effects -/

variable {service : IdentityService} {operation : Operation} {α : Type}
  {reply : α → Answer}

/-- The effect of a method whose value is answered by `reply`. -/
def Ends (service : IdentityService) (operation : Operation)
    (reply : α → Answer) (outcome : Result α × IdentityService) : Prop :=
  Effect service operation (outcome.1.map reply) outcome.2

def Unchecked (service : IdentityService) (operation : Operation) : Prop :=
  ∀ userId, service.verification operation = some (userId, false) →
    operation.changesPassword = true

variable {error : IdentityError} {email password : String}
  {drawn : List UInt8}

theorem Ends.refused (hcheck : service.Unchecked operation) :
    service.Ends operation reply (.error error, service) :=
  Effect.refused hcheck

variable {β : Type} {userId tenantId challengeToken : String} {now : Int}

theorem Ends.lift_bind {result : Result β} {f : β → Action α}
    (hcheck : service.Unchecked operation) (hok : ∀ b, result = .ok b →
      service.Ends operation reply ((f b).run service)) :
    service.Ends operation reply ((lift result >>= f).run service) := by
  cases hresult : result with
  | ok b => exact hok b hresult
  | error e => exact .refused hcheck

omit [ContentHash] [Cryptography] in
theorem run_bind_pure (x : Action β) (f : β → α) (service : IdentityService) :
    (x >>= fun b => (pure (f b) : Action α)).run service
      = ((x.run service).1.map f, (x.run service).2) := by
  rw [run_bind]
  rcases x.run service with ⟨_ | b, after⟩
  · rfl
  · rfl

theorem Ends.perform {method : Action α}
    (hperform : IdentityService.perform operation = method >>= fun a => pure (reply a))
    (h : service.Ends operation reply (method.run service)) :
    Effect service operation (service.answer operation)
      (service.after operation) := by
  unfold answer after
  rw [hperform, run_bind_pure]
  exact h

omit [ContentHash] [Cryptography] in
theorem not_mem_of_checkNewUser {normalizedEmail : String}
    (h : service.checkNewUser userId tenantId normalizedEmail = .ok ()) :
    service.users[userId]? = none := by
  simp only [checkNewUser, refuseIf_eq_ok, not_or, not_eq_true] at h
  exact Std.ExtTreeMap.getElem?_eq_none_of_contains_eq_false h.1

theorem createUser_ends (userId tenantId email password : String)
    (roles : Finset Role) (salt : String) :
    service.Ends (.createUser userId tenantId email password roles salt)
      (fun _ => .done)
      ((createUser userId tenantId email password roles salt).run
        service) := by
  have hcheck : service.Unchecked
      (.createUser userId tenantId email password roles salt) := by
    simp [Unchecked, verification]
  unfold createUser
  apply Ends.lift_bind hcheck
  intro _ _
  apply Ends.lift_bind hcheck
  intro _ _
  apply Ends.lift_bind hcheck
  intro normalizedEmail _
  apply Ends.lift_bind hcheck
  intro _ _
  apply Ends.lift_bind hcheck
  intro _ _
  rw [run_read_bind]
  apply Ends.lift_bind hcheck
  intro _ hnew
  apply Ends.lift_bind hcheck
  intro encoded _
  change Effect service _ (.ok .done) (enterUser normalizedEmail _ service)
  exact .entered (not_mem_of_checkNewUser hnew) rfl rfl

theorem importUser_ends (userId tenantId email passwordHash : String)
    (mfaSecret : Option (List UInt8)) (roles : Finset Role) : service.Ends
      (.importUser userId tenantId email passwordHash mfaSecret roles)
      (fun _ => .done)
      ((importUser userId tenantId email passwordHash mfaSecret roles).run
        service) := by
  have hcheck : service.Unchecked
      (.importUser userId tenantId email passwordHash mfaSecret roles) := by
    simp [Unchecked, verification]
  unfold importUser
  apply Ends.lift_bind hcheck
  intro _ _
  apply Ends.lift_bind hcheck
  intro _ _
  apply Ends.lift_bind hcheck
  intro normalizedEmail _
  apply Ends.lift_bind hcheck
  intro _ _
  apply Ends.lift_bind hcheck
  intro _ _
  apply Ends.lift_bind hcheck
  intro _ _
  rw [run_read_bind]
  apply Ends.lift_bind hcheck
  intro _ hnew
  change Effect service _ (.ok .done) (enterUser normalizedEmail _ service)
  exact .entered (not_mem_of_checkNewUser hnew) rfl rfl

omit [ContentHash] [Cryptography] in
theorem run_secure (service : IdentityService) (userId : String) (user : UserRecord) :
    (∃ version, checkedIncrement user.securityVersion = some version ∧
        (secure userId user userId).run service
          = (.ok (), service.secured userId user version)) ∨
      (secure userId user userId).run service
        = (.error securityVersionOverflow, service.putUser userId user) := by
  unfold secure
  cases hversion : checkedIncrement user.securityVersion with
  | none => exact .inr rfl
  | some version =>
    refine .inl ⟨version, rfl, ?_⟩
    simp only [run_update_bind, run_update, putUser_putUser]
    rfl

theorem secure_ends {user : UserRecord} {reply : Unit → Answer}
    (hrewritten : service.rewritten operation = some (userId, user))
    (hcheck : ∀ userId, service.verification operation ≠ some (userId, false))
    (hplain : OpensNothing (reply ())) : service.Ends operation reply
      ((secure userId user userId).run service) := by
  cases run_secure service userId user with
  | inl h =>
    obtain ⟨version, hversion, hrun⟩ := h
    rw [hrun]
    exact Effect.secured hrewritten hversion hplain hcheck
  | inr hrun =>
    rw [hrun]
    exact Effect.overflowed hrewritten hcheck

theorem Ends.bind_pure {x : Action β} {f : β → α}
    (h : service.Ends operation (reply ∘ f) (x.run service)) :
    service.Ends operation reply
      ((x >>= fun b => (pure (f b) : Action α)).run service) := by
  rw [run_bind_pure]
  unfold Ends at *
  rcases hrun : x.run service with ⟨_ | b, after⟩
  · rw [hrun] at h
    exact h
  · rw [hrun] at h
    exact h

theorem setTotpSecret_ends {secret : List UInt8} {reply : Unit → Answer}
    (hop : operation = .setTotpSecret userId secret ∨
      operation = .enrollTotp userId secret) (hplain : OpensNothing (reply ())) :
    service.Ends operation reply
      ((setTotpSecret userId secret).run service) := by
  have hcheck : ∀ userId,
      service.verification operation ≠ some (userId, false) := by
    intro userId
    rcases hop with rfl | rfl
    · simp [verification]
    · simp [verification]
  have hunchecked : service.Unchecked operation :=
    fun userId h => absurd h (hcheck userId)
  unfold setTotpSecret
  apply Ends.lift_bind hunchecked
  intro _ hlength
  rw [refuseIf_eq_ok] at hlength
  rw [run_read_bind]
  cases huser : service.users[userId]? with
  | none => exact .refused hunchecked
  | some user =>
    apply secure_ends _ hcheck hplain
    rcases hop with rfl | rfl
    · simp [rewritten, huser, hlength]
    · simp [rewritten, huser, hlength]

theorem rotateRecoveryCodes_ends (userId : String) (draws : CodeDraws) :
    service.Ends (.rotateRecoveryCodes userId draws) .codes
      ((rotateRecoveryCodes userId draws).run service) := by
  have hcheck : ∀ user, service.verification
      (.rotateRecoveryCodes userId draws) ≠ some (user, false) := by
    simp [verification]
  have hunchecked : service.Unchecked (.rotateRecoveryCodes userId draws) :=
    fun userId h => absurd h (hcheck userId)
  unfold rotateRecoveryCodes
  rw [run_read_bind]
  cases huser : service.users[userId]? with
  | none => exact .refused hunchecked
  | some user =>
    by_cases henrolled : user.enabled = false ∨ user.mfaSecret = none
    · simp only [if_pos henrolled]
      exact .refused hunchecked
    · simp only [if_neg henrolled]
      rw [not_or, not_eq_false] at henrolled
      apply Ends.bind_pure
      apply secure_ends _ hcheck ⟨rfl, rfl⟩
      simp [rewritten, huser, henrolled]

theorem setRoles_ends (userId : String) (roles : Finset Role) :
    service.Ends (.setRoles userId roles) (fun _ => .done)
      ((setRoles userId roles).run service) := by
  have hcheck : ∀ user, service.verification (.setRoles userId roles)
      ≠ some (user, false) := by
    simp [verification]
  have hunchecked : service.Unchecked (.setRoles userId roles) :=
    fun userId h => absurd h (hcheck userId)
  unfold setRoles
  apply Ends.lift_bind hunchecked
  intro _ hroles
  rw [refuseIf_eq_ok] at hroles
  rw [run_read_bind]
  cases huser : service.users[userId]? with
  | none => exact .refused hunchecked
  | some user =>
    apply secure_ends _ hcheck ⟨rfl, rfl⟩
    simp [rewritten, huser, hroles]

theorem disableUser_ends (userId : String) :
    service.Ends (.disableUser userId) (fun _ => .done)
      ((disableUser userId).run service) := by
  have hcheck : ∀ user, service.verification (.disableUser userId)
      ≠ some (user, false) := by
    simp [verification]
  unfold disableUser
  rw [run_read_bind]
  cases huser : service.users[userId]? with
  | none => exact .refused fun user h => absurd h (hcheck user)
  | some user =>
    have hrewritten : service.rewritten (.disableUser userId)
        = some (userId, { user with enabled := false }) := by
      simp [rewritten, huser]
    cases run_secure service userId { user with enabled := false } with
    | inl h =>
      obtain ⟨version, hversion, hrun⟩ := h
      simp only [run_bind_ok hrun, run_update]
      exact Effect.disabled hrewritten hversion
    | inr hrun =>
      simp only [run_bind_error hrun]
      exact Effect.overflowed hrewritten hcheck

theorem revokeSession_ends (token : String) : service.Ends (.revokeSession token) .revoked
      ((revokeSession token).run service) :=
  Effect.revoked

theorem authorize_effect (token tenantId : String) (permission : Permission)
    (now : Int) : Effect service (.authorize token tenantId permission now)
      (service.answer (.authorize token tenantId permission now))
      (service.after (.authorize token tenantId permission now)) := by
  unfold answer after perform
  simp only [run_read_bind]
  cases service.authorize token tenantId permission now with
  | ok context => exact .authorized
  | error e => exact .refused (by simp [verification])

/-! ## Passwords -/

theorem changePassword_ends (hkeyed : service.Keyed) (token tenantId
    currentPassword newPassword : String) (now : Int) (salt : String) : service.Ends
      (.changePassword token tenantId currentPassword newPassword now salt)
      (fun _ => .done)
      ((changePassword token tenantId currentPassword newPassword now
        salt).run service) := by
  have hunchecked : service.Unchecked (.changePassword token tenantId
      currentPassword newPassword now salt) := fun _ _ => rfl
  unfold changePassword
  apply Ends.lift_bind hunchecked
  intro _ hvalid
  rw [run_read_bind]
  cases hsession : service.liveSession token tenantId now with
  | none => exact .refused hunchecked
  | some session =>
    simp only
    cases huser : service.sessionUser session tenantId with
    | none => exact .refused hunchecked
    | some user =>
      simp only
      by_cases hrefused :
          verifyPassword currentPassword user.passwordHash = false ∨
            verifyPassword newPassword user.passwordHash = true
      · simp only [if_pos hrefused]
        exact .refused hunchecked
      · simp only [if_neg hrefused]
        apply Ends.lift_bind hunchecked
        intro encoded hencoded
        have hid : user.userId = session.userId := by
          apply hkeyed session.userId user
          exact filter_eq_some_iff.mp huser |>.1
        rw [hid]
        apply secure_ends _ _ ⟨rfl, rfl⟩
        · simp [rewritten, hvalid, hencoded, hsession, huser, hrefused, hid]
        · rw [not_or, not_eq_false] at hrefused
          simp [verification, hvalid, hsession, huser, hrefused]

/-! ## Logging in -/

theorem Ends.fails (h : ∀ error, service.Ends operation reply
      (.error error, s.withFailure userId now)) : service.Ends operation reply
      ((recordFailure userId now >>= fun _ =>
        (fail error : Action α)).run s) := by
  obtain ⟨error', hrun⟩ := run_recordFailure_fail s userId now error
  rw [hrun]
  exact h error'

omit [ContentHash] in
theorem passwordVerifies_eq (userId password : String) :
    service.passwordVerifies userId password = true ↔
      ∃ user, service.users[userId]?.filter (·.enabled) = some user ∧
        verifyPassword password user.passwordHash = true := by
  unfold passwordVerifies
  cases service.users[userId]? with
  | none => simp
  | some user => simp [Option.filter, and_comm]

theorem verification_beginLogin (huser : service.loginUser
      (.beginLogin tenantId email password now drawn) = some userId)
    (hunlocked : service.isLockedAt userId now = false) :
    service.verification (.beginLogin tenantId email password now drawn)
      = (service.users[userId]?.filter (·.enabled)).map fun user =>
        (userId, verifyPassword password user.passwordHash) := by
  simp only [verification, huser, bind_eq_bind, bind_some,
    hunlocked, Bool.false_eq_true, if_false]
  cases service.users[userId]?.filter (·.enabled) with
  | none => rfl
  | some user => rfl

theorem finishPassword_ends (huser : service.loginUser
      (.beginLogin tenantId email password now drawn) = some userId)
    (hverifies : service.passwordVerifies userId password = true)
    (hcheck : ∀ userId, service.verification
      (.beginLogin tenantId email password now drawn) ≠ some (userId, false)) :
    service.Ends (.beginLogin tenantId email password now drawn) .login
      ((finishPassword userId now drawn).run
        (service.clearLapsedLock userId now)) := by
  unfold finishPassword
  rw [run_read_bind]
  have hsame : (service.clearLapsedLock userId now).hasMfa userId
      = service.hasMfa userId := by
    simp only [hasMfa, clearLapsedLock_users]
  rw [hsame]
  cases hmfa : service.hasMfa userId with
  | true =>
    simp only [if_true]
    cases checkedAdd now mfaChallengeSeconds with
    | none => exact Effect.lapsed rfl hcheck
    | some expiry =>
      have h : Effect service _
          (.ok (.login (.mfaRequired (randomToken drawn) expiry))) _ :=
        .challenged huser hverifies hmfa hcheck
      rw [← clearLapsedLock_challenges service userId now] at h
      exact h
  | false =>
    simp only [Bool.false_eq_true, if_false, run_update_bind]
    apply Ends.bind_pure
    exact Effect.loggedIn huser hverifies hcheck

theorem beginLogin_ends (tenantId email password : String) (now : Int)
    (drawn : List UInt8) :
    service.Ends (.beginLogin tenantId email password now drawn) .login
      ((beginLogin tenantId email password now drawn).run service) := by
  unfold beginLogin
  rw [run_read_bind]
  have hnone (h : service.loginUser
      (.beginLogin tenantId email password now drawn) = none) :
      service.Unchecked (.beginLogin tenantId email password now drawn) := by
    simp [Unchecked, verification, h]
  cases hlocated : service.located tenantId email with
  | error e =>
    exact Ends.refused (hnone (by simp [loginUser, hlocated]))
  | ok found =>
    rw [run_lift_bind_ok]
    cases found with
    | none => exact .refused (hnone (by simp [loginUser, hlocated]))
    | some userId =>
      have huser : service.loginUser
          (.beginLogin tenantId email password now drawn)
            = some userId := by
        simp [loginUser, hlocated]
      simp only
      rw [run_bind_ok (run_isLocked userId now service)]
      cases hlocked : service.isLockedAt userId now with
      | true =>
        rw [clearLapsedLock_of_locked _ _ _ hlocked]
        apply Ends.refused
        intro user h
        simp [verification, huser, hlocked] at h
      | false =>
        have hview := verification_beginLogin huser hlocked
        by_cases hverifies : service.passwordVerifies userId password
        · simp only [hverifies]
          apply finishPassword_ends huser hverifies
          intro userId'
          obtain ⟨user, hfound, hpassed⟩ :=
            (passwordVerifies_eq userId password).mp hverifies
          rw [hview, hfound]
          simp [hpassed]
        · simp only [hverifies]
          apply Ends.fails
          intro error
          apply Effect.failedPassword hlocked
          intro userId' passed h
          rw [hview, map_eq_some_iff] at h
          obtain ⟨user, -, h⟩ := h
          exact (Prod.mk.inj h).1.symm

/-! ## Second factors -/

omit [Cryptography] in
theorem admitted_unlocked (h : service.admitted challengeToken now = some userId) :
    ∃ challenge, service.challenges[tokenHash challengeToken]?
        = some challenge ∧ challenge.userId = userId ∧
      service.isLockedAt userId now = false := by
  unfold admitted at h
  cases hfound : service.challenges[tokenHash challengeToken]? with
  | none => simp [hfound] at h
  | some challenge =>
    simp only [hfound] at h
    split at h
    · contradiction
    · rename_i hopen
      simp only [not_or, not_eq_true] at hopen
      obtain rfl := Option.some.inj h
      exact ⟨challenge, rfl, rfl, hopen.2.2⟩

omit [Cryptography] in
theorem run_openChallenge (service : IdentityService)
    (challengeToken : String) (now : Int) :
    (∃ error after, service.admitted challengeToken now = none ∧
        (openChallenge challengeToken now).run service = (.error error, after) ∧
        (after = service ∨ after = service.dropChallenge (tokenHash challengeToken))) ∨
      ∃ userId, service.admitted challengeToken now = some userId ∧
        (openChallenge challengeToken now).run service
          = (.ok userId, service.clearLapsedLock userId now) := by
  unfold openChallenge admitted
  rw [run_read_bind]
  cases service.challenges[tokenHash challengeToken]? with
  | none => exact .inl ⟨_, _, rfl, rfl, .inl rfl⟩
  | some challenge =>
    simp only
    by_cases hspent : challenge.expiresAtEpochSeconds < now ∨
        mfaFailureLimit ≤ challenge.attempts
    · have hclosed : challenge.expiresAtEpochSeconds < now ∨
          mfaFailureLimit ≤ challenge.attempts ∨
          service.isLockedAt challenge.userId now = true :=
        hspent.imp_right .inl
      rw [if_pos hspent, if_pos hclosed]
      exact .inl ⟨_, _, rfl, rfl, .inr rfl⟩
    · rw [if_neg hspent, run_bind_ok (run_isLocked challenge.userId now service)]
      cases hlocked : service.isLockedAt challenge.userId now with
      | true =>
        rw [clearLapsedLock_of_locked _ _ _ hlocked]
        exact .inl ⟨_, _, by simp, rfl, .inr rfl⟩
      | false =>
        right
        refine ⟨challenge.userId, ?_, rfl⟩
        simpa using hspent

theorem Ends.open_bind {f : String → Action α}
    (hnone : service.admitted challengeToken now = none →
      service.verification operation = none)
    (hsome : ∀ userId, service.admitted challengeToken now = some userId →
      service.Ends operation reply
        ((f userId).run (service.clearLapsedLock userId now))) :
    service.Ends operation reply
      ((openChallenge challengeToken now >>= f).run service) := by
  rcases run_openChallenge service challengeToken now with
    ⟨error, after, hadmitted, hrun, hafter⟩ | ⟨userId, hadmitted, hrun⟩
  · rw [run_bind_error hrun]
    have hcheck := hnone hadmitted
    rcases hafter with rfl | rfl
    · apply Ends.refused
      intro userId h
      rw [hcheck] at h
      contradiction
    · exact Effect.dropped hcheck
  · rw [run_bind_ok hrun]
    exact hsome userId hadmitted

theorem refuseFactor_ends (hadmitted : service.admitted challengeToken now = some userId)
    (htime : operation.time = some now)
    (hcheck : ∀ userId' passed, service.verification operation
      = some (userId', passed) → userId' = userId) : service.Ends operation reply
      ((refuseFactor challengeToken userId now).run
        (service.clearLapsedLock userId now)) := by
  obtain ⟨-, -, -, hunlocked⟩ := admitted_unlocked hadmitted
  unfold refuseFactor
  rw [run_update_bind]
  apply Ends.fails
  intro error
  exact Effect.failedFactor htime hunlocked hcheck

theorem completeTotp_ends (challengeToken code : String) (now : Int)
    (drawn : List UInt8) :
    service.Ends (.completeTotp challengeToken code now drawn) .session
      ((completeTotp challengeToken code now drawn).run service) := by
  unfold completeTotp
  apply Ends.open_bind
  · intro hadmitted
    simp [verification, hadmitted]
  intro userId hadmitted
  have henrolled : (service.clearLapsedLock userId now).enrolled userId
      = service.enrolled userId := by
    simp only [enrolled, clearLapsedLock_users]
  rw [run_read_bind, henrolled]
  cases henrolled : service.enrolled userId with
  | none =>
    apply Effect.lapsed rfl
    simp [verification, hadmitted, henrolled]
  | some found =>
    obtain ⟨user, secret⟩ := found
    simp only
    cases hstep : verifyTotp secret code now user.lastAcceptedTotpStep with
    | some step => exact Effect.completedTotp hadmitted henrolled hstep
    | none =>
      apply refuseFactor_ends hadmitted rfl
      intro userId' passed h
      simp only [verification, hadmitted, henrolled, bind_eq_bind,
        bind_some, Option.some.injEq, Prod.mk.injEq] at h
      exact h.1.symm

theorem completeRecoveryCode_ends (challengeToken recoveryCode : String)
    (now : Int) (drawn : List UInt8) :
    service.Ends (.completeRecoveryCode challengeToken recoveryCode now drawn)
      .session
      ((completeRecoveryCode challengeToken recoveryCode now drawn).run
        service) := by
  unfold completeRecoveryCode
  apply Ends.open_bind
  · intro hadmitted
    simp [verification, hadmitted]
  intro userId hadmitted
  have hholder : (service.clearLapsedLock userId now).codeHolder userId
      recoveryCode = service.codeHolder userId recoveryCode := by
    simp only [codeHolder, clearLapsedLock_users]
  rw [run_read_bind, hholder]
  cases hholder : service.codeHolder userId recoveryCode with
  | some user => exact Effect.completedRecovery hadmitted hholder
  | none =>
    apply refuseFactor_ends hadmitted rfl
    intro userId' passed h
    simp only [verification, hadmitted, bind_eq_bind,
      bind_some, bind_eq_some_iff, Option.some.injEq,
      Prod.mk.injEq] at h
    obtain ⟨-, -, h, -⟩ := h
    exact h.symm

theorem effect (hkeyed : service.Keyed) (operation : Operation) :
    Effect service operation (service.answer operation)
      (service.after operation) := by
  cases operation with
  | createUser userId tenantId email password roles salt =>
    exact Ends.perform rfl (createUser_ends ..)
  | importUser userId tenantId email passwordHash mfaSecret roles =>
    exact Ends.perform rfl (importUser_ends ..)
  | enrollTotp userId drawn =>
    apply Ends.perform rfl
    apply Ends.bind_pure
    exact setTotpSecret_ends (.inr rfl) ⟨rfl, rfl⟩
  | setTotpSecret userId secret =>
    exact Ends.perform rfl (setTotpSecret_ends (.inl rfl) ⟨rfl, rfl⟩)
  | beginLogin tenantId email password now drawn =>
    exact Ends.perform rfl (beginLogin_ends ..)
  | completeTotp challengeToken code now drawn =>
    exact Ends.perform rfl (completeTotp_ends ..)
  | rotateRecoveryCodes userId draws =>
    exact Ends.perform rfl (rotateRecoveryCodes_ends ..)
  | completeRecoveryCode challengeToken recoveryCode now drawn =>
    exact Ends.perform rfl (completeRecoveryCode_ends ..)
  | changePassword token tenantId currentPassword newPassword now salt =>
    exact Ends.perform rfl (changePassword_ends hkeyed ..)
  | authorize token tenantId permission now => exact authorize_effect ..
  | setRoles userId roles => exact Ends.perform rfl (setRoles_ends ..)
  | disableUser userId => exact Ends.perform rfl (disableUser_ends ..)
  | revokeSession token => exact Ends.perform rfl (revokeSession_ends ..)

end IdentityService

end

end Follon.Identity
