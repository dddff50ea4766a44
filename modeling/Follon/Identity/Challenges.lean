import Follon.Identity.Lockout

/-!
# A second factor and the login it completes

A challenge outlives the login step that opened it and is stored apart from
the user.  A session it yields is backed by the credentials of that step as
long as they are not rewritten while the challenge is pending, and no
rewriting but that of a disabled account drops the challenge.
-/

namespace Follon.Identity

open Foundation Domain

section
variable [ContentHash] [Cryptography]

def Operation.password : Operation → Option String
  | .beginLogin _ _ password _ _ => some password
  | _ => none

def Operation.challengeToken : Operation → Option String
  | .completeTotp challengeToken _ _ _ => some challengeToken
  | .completeRecoveryCode challengeToken _ _ _ => some challengeToken
  | _ => none

def Operation.rotatesCredential : Operation → Bool
  | .enrollTotp .. => true
  | .setTotpSecret .. => true
  | .rotateRecoveryCodes .. => true
  | .changePassword .. => true
  | _ => false

namespace IdentityService

/-- The second factor an operation uses, as enrolled in `old` when it is
looked for in `user`. -/
def FactorHeld (operation : Operation) (old user : UserRecord) : Prop :=
  match operation with
  | .completeTotp .. => old.mfaSecret = user.mfaSecret
  | .completeRecoveryCode _ recoveryCode _ _ =>
    tokenHash recoveryCode ∈ old.recoveryCodeHashes
  | _ => True

def Opens (service : IdentityService) (operation : Operation)
    (hash userId : String) : Prop :=
  ∃ token, challengeOf (service.answer operation) = some token ∧
    tokenHash token = hash ∧ service.loginUser operation = some userId

def Backs (service : IdentityService) (begin : Operation) (userId : String)
    (operation : Operation) (user : UserRecord) : Prop :=
  ∃ password old, begin.password = some password ∧ service.users[userId]? = some old ∧
    verifyPassword password user.passwordHash = true ∧
    FactorHeld operation old user

def CurrentCredentials (operations : List Operation) (operation : Operation)
    (challengeToken userId : String) : Prop :=
  ∃ user, (run operations).users[userId]? = some user ∧ Since IdentityService.after empty
      (fun service begin =>
        service.Opens begin (tokenHash challengeToken) userId ∧
          service.Backs begin userId operation user)
      (fun service begin => ∃ other,
        service.Opens begin (tokenHash challengeToken) other) operations

def acceptedStep (service : IdentityService) : Operation → Option (String × Int)
  | .completeTotp challengeToken code now _ => do
    let userId ← service.admitted challengeToken now
    let (user, secret) ← service.enrolled userId
    let step ← verifyTotp secret code now user.lastAcceptedTotpStep
    pure (userId, step)
  | _ => none

def spentCode (service : IdentityService) : Operation → Option (String × String)
  | .completeRecoveryCode challengeToken recoveryCode now _ => do
    let userId ← service.admitted challengeToken now
    let _ ← service.codeHolder userId recoveryCode
    pure (userId, tokenHash recoveryCode)
  | _ => none

def Enrolls (service : IdentityService) (operation : Operation)
    (userId : String) : Prop :=
  (∃ user, service.rewritten operation = some (userId, user)) ∧
    ((∃ secret, operation = .setTotpSecret userId secret) ∨
      ∃ secret, operation = .enrollTotp userId secret)

def ReplacesCodes (service : IdentityService) (operation : Operation)
    (userId : String) : Prop :=
  service.Enrolls operation userId ∨
    ((∃ user, service.rewritten operation = some (userId, user)) ∧
      ∃ draws, operation = .rotateRecoveryCodes userId draws)

/-- A run in which every second factor stands for the credentials of its
login, and no factor is used twice within its enrollment. -/
structure FactorsSound (operations : List Operation) : Prop where
  current : ∀ before operation after challengeToken userId,
    operations = before ++ operation :: after →
    operation.challengeToken = some challengeToken →
    (run before).loginUser operation = some userId →
    (grantOf ((run before).answer operation)).isSome = true →
    CurrentCredentials before operation challengeToken userId
  steps_increase : ∀ before operation after userId step step',
    operations = before ++ operation :: after →
    Since IdentityService.after empty
      (fun service operation =>
        service.acceptedStep operation = some (userId, step))
      (fun service operation => service.Enrolls operation userId) before →
    (run before).acceptedStep operation = some (userId, step') → step < step'
  codes_once : ∀ before operation after userId hash,
    operations = before ++ operation :: after →
    Since IdentityService.after empty
      (fun service operation =>
        service.spentCode operation = some (userId, hash))
      (fun service operation => service.ReplacesCodes operation userId)
      before →
    (run before).spentCode operation ≠ some (userId, hash)

def Settled (service : IdentityService) (operation : Operation) : Prop :=
  operation.rotatesCredential = true →
  ∀ userId user, service.rewritten operation = some (userId, user) →
    ∀ (hash : String) (challenge : MfaChallengeRecord),
      service.challenges[hash]? = some challenge → challenge.userId ≠ userId

def AllSettled (operations : List Operation) : Prop :=
  ∀ service operation, (service, operation) ∈ visited empty operations →
    Settled service operation

/-! ## Credentials -/

variable {service after : IdentityService} {operation : Operation}
  {reply : Result Answer}

structure SameCredentials (old new : UserRecord) : Prop where
  passwordHash : new.passwordHash = old.passwordHash
  mfaSecret : new.mfaSecret = old.mfaSecret
  recoveryCodeHashes : new.recoveryCodeHashes = old.recoveryCodeHashes
  lastAcceptedTotpStep : new.lastAcceptedTotpStep = old.lastAcceptedTotpStep

omit [ContentHash] [Cryptography] in
theorem SameCredentials.refl (user : UserRecord) : SameCredentials user user :=
  ⟨rfl, rfl, rfl, rfl⟩

inductive UserStep (service : IdentityService) (operation : Operation)
    (userId : String) (old new : UserRecord) : Prop
  | kept (h : SameCredentials old new) :
      UserStep service operation userId old new
  | accepted {step : Int}
      (hop : service.acceptedStep operation = some (userId, step))
      (hlater : ∀ before ∈ old.lastAcceptedTotpStep, before < step)
      (h : SameCredentials { old with lastAcceptedTotpStep := some step } new) :
      UserStep service operation userId old new
  | spent {hash : String}
      (hop : service.spentCode operation = some (userId, hash))
      (h : SameCredentials
        { old with
          recoveryCodeHashes := old.recoveryCodeHashes.erase hash } new) :
      UserStep service operation userId old new
  | rewritten {user : UserRecord}
      (hop : service.rewritten operation = some (userId, user))
      (h : SameCredentials user new) :
      UserStep service operation userId old new

variable {userId hash : String} {old new user : UserRecord}
  {operations : List Operation}

theorem UserStep.of_users (hold : service.users[userId]? = some old)
    (hnew : after.users[userId]? = some new) (h : after.users = service.users) :
    UserStep service operation userId old new := by
  rw [h, hold] at hnew
  obtain rfl := Option.some.inj hnew
  exact .kept (.refl old)

variable {other challengeHash : String} {now : Int}

theorem UserStep.of_insert (hold : service.users[userId]? = some old)
    (hnew : after.users[userId]? = some new)
    (h : after.users = service.users.insert other user)
    (hown : userId = other → UserStep service operation userId old user) :
    UserStep service operation userId old new := by
  rw [h, getElem?_insert] at hnew
  split at hnew
  · rename_i hsame
    obtain rfl := Option.some.inj hnew
    exact hown (Std.LawfulEqOrd.eq_of_compare hsame).symm
  · rw [hold] at hnew
    obtain rfl := Option.some.inj hnew
    exact .kept (.refl old)

theorem Effect.userStep (heffect : Effect service operation reply after)
    (hold : service.users[userId]? = some old) (hnew : after.users[userId]? = some new) :
    UserStep service operation userId old new := by
  cases heffect with
  | refused hcheck => exact .of_users hold hnew rfl
  | authorized => exact .of_users hold hnew rfl
  | entered hfresh hcheck hsubject =>
    apply UserStep.of_insert hold hnew rfl
    intro hsame
    rw [hsame, hfresh] at hold
    contradiction
  | dropped hcheck => exact .of_users hold hnew rfl
  | lapsed htime hcheck =>
    exact .of_users hold hnew (clearLapsedLock_users ..)
  | failedPassword hunlocked hcheck =>
    exact .of_users hold hnew (clearLapsedLock_users ..)
  | failedFactor htime hunlocked hcheck =>
    exact .of_users hold hnew (clearLapsedLock_users ..)
  | challenged huser hverifies hmfa hcheck =>
    exact .of_users hold hnew (clearLapsedLock_users ..)
  | loggedIn huser hverifies hcheck =>
    apply UserStep.of_users hold hnew
    rw [opened_users, clearFailures_users, clearLapsedLock_users]
  | completedTotp hadmitted henrolled hstep =>
    apply UserStep.of_insert hold hnew
      ((opened_users ..).trans (spent_users ..))
    rintro rfl
    have huser := (of_enrolled henrolled).1
    rw [hold] at huser
    obtain rfl := Option.some.inj huser
    refine .accepted ?_ (verifyTotp_later hstep) (.refl _)
    simp [acceptedStep, hadmitted, henrolled, hstep]
  | completedRecovery hadmitted hholder =>
    apply UserStep.of_insert hold hnew
      ((opened_users ..).trans (spent_users ..))
    rintro rfl
    have huser := (of_codeHolder hholder).1
    rw [hold] at huser
    obtain rfl := Option.some.inj huser
    refine .spent ?_ (.refl _)
    simp [spentCode, hadmitted, hholder]
  | secured hrewritten hversion hplain hcheck =>
    apply UserStep.of_insert hold hnew rfl
    rintro rfl
    exact .rewritten hrewritten ⟨rfl, rfl, rfl, rfl⟩
  | disabled hrewritten hversion =>
    apply UserStep.of_insert hold hnew rfl
    rintro rfl
    exact .rewritten hrewritten ⟨rfl, rfl, rfl, rfl⟩
  | overflowed hrewritten hcheck =>
    apply UserStep.of_insert hold hnew rfl
    rintro rfl
    exact .rewritten hrewritten (.refl _)
  | revoked => exact .of_users hold hnew rfl

omit [ContentHash] [Cryptography] in
theorem mem_users_insert (hold : service.users[userId]? = some old) :
    ∃ new, (service.users.insert other user)[userId]? = some new := by
  rw [getElem?_insert]
  split
  · exact ⟨user, rfl⟩
  · exact ⟨old, hold⟩

theorem Effect.users_mono (heffect : Effect service operation reply after)
    (hold : service.users[userId]? = some old) :
    ∃ new, after.users[userId]? = some new := by
  cases heffect with
  | entered hfresh hcheck hsubject => exact mem_users_insert hold
  | lapsed htime hcheck =>
    rw [clearLapsedLock_users]
    exact ⟨old, hold⟩
  | failedPassword hunlocked hcheck =>
    rw [withFailure_users, clearLapsedLock_users]
    exact ⟨old, hold⟩
  | failedFactor htime hunlocked hcheck =>
    rw [withFailure_users, countAttempt_users, clearLapsedLock_users]
    exact ⟨old, hold⟩
  | challenged huser hverifies hmfa hcheck =>
    rw [clearLapsedLock_users]
    exact ⟨old, hold⟩
  | loggedIn huser hverifies hcheck =>
    rw [opened_users, clearFailures_users, clearLapsedLock_users]
    exact ⟨old, hold⟩
  | completedTotp hadmitted henrolled hstep =>
    rw [opened_users, spent_users]
    exact mem_users_insert hold
  | completedRecovery hadmitted hholder =>
    rw [opened_users, spent_users]
    exact mem_users_insert hold
  | secured hrewritten hversion hplain hcheck => exact mem_users_insert hold
  | disabled hrewritten hversion => exact mem_users_insert hold
  | overflowed hrewritten hcheck => exact mem_users_insert hold
  | _ => exact ⟨old, hold⟩

/-! ## Factors already used -/

omit [Cryptography] in
theorem run_openChallenge_of_admitted {challengeToken : String}
    (h : service.admitted challengeToken now = some userId) :
    (openChallenge challengeToken now).run service
      = (.ok userId, service.clearLapsedLock userId now) := by
  rcases run_openChallenge service challengeToken now with
    ⟨-, -, hnone, -, -⟩ | ⟨found, hfound, hrun⟩
  · rw [h] at hnone
    contradiction
  · rw [h] at hfound
    obtain rfl := Option.some.inj hfound
    exact hrun

theorem after_accepted {step : Int}
    (h : service.acceptedStep operation = some (userId, step)) :
    ∃ user, service.users[userId]? = some user ∧
      (∀ before ∈ user.lastAcceptedTotpStep, before < step) ∧
      (service.after operation).users = service.users.insert userId
          { user with lastAcceptedTotpStep := some step } := by
  cases operation with
  | completeTotp challengeToken code now drawn =>
    simp only [acceptedStep, bind_eq_bind, bind_eq_some_iff,
      Option.pure_def, Option.some.injEq, Prod.mk.injEq] at h
    obtain ⟨found, hadmitted, ⟨user, secret⟩, henrolled, step', hstep, rfl, rfl⟩ := h
    refine ⟨user, (of_enrolled henrolled).1, verifyTotp_later hstep, ?_⟩
    have hsame : (service.clearLapsedLock found now).enrolled found
        = service.enrolled found := by
      simp only [enrolled, clearLapsedLock_users]
    unfold IdentityService.after perform completeTotp
    rw [run_bind_pure, run_bind_ok (run_openChallenge_of_admitted hadmitted),
      run_read_bind, hsame, henrolled]
    simp only [hstep]
    exact (opened_users ..).trans (spent_users ..)
  | _ => simp [acceptedStep] at h

theorem after_spent (h : service.spentCode operation = some (userId, hash)) :
    ∃ user, service.users[userId]? = some user ∧ hash ∈ user.recoveryCodeHashes ∧
      (service.after operation).users = service.users.insert userId
          { user with
            recoveryCodeHashes := user.recoveryCodeHashes.erase hash } := by
  cases operation with
  | completeRecoveryCode challengeToken recoveryCode now drawn =>
    simp only [spentCode, bind_eq_bind, bind_eq_some_iff,
      Option.pure_def, Option.some.injEq, Prod.mk.injEq] at h
    obtain ⟨found, hadmitted, user, hholder, rfl, rfl⟩ := h
    refine ⟨user, (of_codeHolder hholder).1, (of_codeHolder hholder).2.2, ?_⟩
    have hsame : (service.clearLapsedLock found now).codeHolder found
        recoveryCode = service.codeHolder found recoveryCode := by
      simp only [codeHolder, clearLapsedLock_users]
    unfold IdentityService.after perform completeRecoveryCode
    rw [run_bind_pure, run_bind_ok (run_openChallenge_of_admitted hadmitted),
      run_read_bind, hsame, hholder]
    exact (opened_users ..).trans (spent_users ..)
  | _ => simp [spentCode] at h

theorem rewrites_of_found (h : service.rewritten operation = some (userId, user))
    (hold : service.users[userId]? = some old) : Rewrites userId old operation user := by
  obtain ⟨old', hold', hrewrites, -⟩ := of_rewritten h
  rw [hold] at hold'
  obtain rfl := Option.some.inj hold'
  exact hrewrites

theorem lastStep_of_rewritten (h : service.rewritten operation = some (userId, user))
    (hold : service.users[userId]? = some old)
    (henrolls : ¬service.Enrolls operation userId) :
    user.lastAcceptedTotpStep = old.lastAcceptedTotpStep := by
  cases rewrites_of_found h hold with
  | enrolled secret => exact absurd ⟨⟨_, h⟩, .inr ⟨secret, rfl⟩⟩ henrolls
  | secret secret => exact absurd ⟨⟨_, h⟩, .inl ⟨secret, rfl⟩⟩ henrolls
  | _ => rfl

theorem codes_of_rewritten (h : service.rewritten operation = some (userId, user))
    (hold : service.users[userId]? = some old)
    (hcodes : ¬service.ReplacesCodes operation userId) :
    user.recoveryCodeHashes = old.recoveryCodeHashes := by
  cases rewrites_of_found h hold with
  | enrolled secret =>
    exact absurd (.inl ⟨⟨_, h⟩, .inr ⟨secret, rfl⟩⟩) hcodes
  | secret secret =>
    exact absurd (.inl ⟨⟨_, h⟩, .inl ⟨secret, rfl⟩⟩) hcodes
  | codes draws => exact absurd (.inr ⟨⟨_, h⟩, draws, rfl⟩) hcodes
  | _ => rfl

theorem sameCredentials_of_rewritten
    (h : service.rewritten operation = some (userId, user))
    (hold : service.users[userId]? = some old)
    (hrotates : operation.rotatesCredential = false) : SameCredentials old user := by
  cases rewrites_of_found h hold with
  | roles roles => exact ⟨rfl, rfl, rfl, rfl⟩
  | disabled => exact ⟨rfl, rfl, rfl, rfl⟩
  | _ => simp [Operation.rotatesCredential] at hrotates

theorem run_accepted {step : Int} (h : Since IdentityService.after empty
      (fun service operation =>
        service.acceptedStep operation = some (userId, step))
      (fun service operation => service.Enrolls operation userId)
      operations) : ∃ user last, (run operations).users[userId]? = some user ∧
      user.lastAcceptedTotpStep = some last ∧ step ≤ last := by
  induction operations using List.reverseRec with
  | nil => exact absurd h not_since_nil
  | append_singleton operations operation ih =>
    rw [run_snoc]
    rcases since_snoc.mp h with haccepted | ⟨hbefore, henrolls⟩
    · obtain ⟨user, -, -, husers⟩ := after_accepted haccepted
      have hstored : ((run operations).after operation).users[userId]?
          = some { user with lastAcceptedTotpStep := some step } := by
        rw [run, husers, Std.ExtTreeMap.getElem?_insert_self]
      exact ⟨_, step, hstored, rfl, le_rfl⟩
    · obtain ⟨old, last, hold, hlast, hle⟩ := ih hbefore
      have heffect := effect (run_keyed operations) operation
      obtain ⟨new, hnew⟩ := heffect.users_mono hold
      cases heffect.userStep hold hnew with
      | kept hsame =>
        exact ⟨new, last, hnew, hsame.lastAcceptedTotpStep.trans hlast, hle⟩
      | accepted hop hlater hsame =>
        rename_i later
        refine ⟨new, later, hnew, hsame.lastAcceptedTotpStep, ?_⟩
        exact hle.trans (hlater last hlast).le
      | spent hop hsame =>
        exact ⟨new, last, hnew, hsame.lastAcceptedTotpStep.trans hlast, hle⟩
      | rewritten hop hsame =>
        refine ⟨new, last, hnew, ?_, hle⟩
        rw [hsame.lastAcceptedTotpStep, lastStep_of_rewritten hop hold henrolls, hlast]

theorem run_spent (h : Since IdentityService.after empty
      (fun service operation =>
        service.spentCode operation = some (userId, hash))
      (fun service operation => service.ReplacesCodes operation userId)
      operations) : ∃ user, (run operations).users[userId]? = some user ∧
      hash ∉ user.recoveryCodeHashes := by
  induction operations using List.reverseRec with
  | nil => exact absurd h not_since_nil
  | append_singleton operations operation ih =>
    rw [run_snoc]
    rcases since_snoc.mp h with hspent | ⟨hbefore, hreplaces⟩
    · obtain ⟨user, -, -, husers⟩ := after_spent hspent
      have hstored : ((run operations).after operation).users[userId]?
          = some { user with
            recoveryCodeHashes := user.recoveryCodeHashes.erase hash } := by
        rw [run, husers, Std.ExtTreeMap.getElem?_insert_self]
      exact ⟨_, hstored, Finset.notMem_erase hash _⟩
    · obtain ⟨old, hold, hout⟩ := ih hbefore
      have heffect := effect (run_keyed operations) operation
      obtain ⟨new, hnew⟩ := heffect.users_mono hold
      refine ⟨new, hnew, ?_⟩
      cases heffect.userStep hold hnew with
      | kept hsame =>
        rw [hsame.recoveryCodeHashes]
        exact hout
      | accepted hop hlater hsame =>
        rw [hsame.recoveryCodeHashes]
        exact hout
      | spent hop hsame =>
        rw [hsame.recoveryCodeHashes]
        exact fun hmem => hout (Finset.mem_of_mem_erase hmem)
      | rewritten hop hsame =>
        rw [hsame.recoveryCodeHashes, codes_of_rewritten hop hold hreplaces]
        exact hout

/-! ## Pending challenges -/

def Presented (service : IdentityService) (begin : Operation)
    (userId : String) (old : UserRecord) : Prop :=
  ∃ password, begin.password = some password ∧ service.users[userId]? = some old ∧
    verifyPassword password old.passwordHash = true

def ChallengeFrom (service : IdentityService) (operation : Operation)
    (reply : Result Answer) (hash : String) (challenge : MfaChallengeRecord) : Prop :=
  ((∃ old, service.challenges[hash]? = some old ∧ old.userId = challenge.userId) ∧
      ∀ token, challengeOf reply = some token → tokenHash token ≠ hash) ∨
    ∃ token old, challengeOf reply = some token ∧ tokenHash token = hash ∧
      service.loginUser operation = some challenge.userId ∧
      service.Presented operation challenge.userId old

omit [Cryptography] in
theorem challengeOf_opened {drawn : List UInt8} {wrap : SessionGrant → Answer}
    (hwrap : ∀ grant, challengeOf (.ok (wrap grant)) = none) :
    challengeOf ((opened userId now drawn service).1.map wrap) = none := by
  cases (opened userId now drawn service).1 with
  | error error => rfl
  | ok grant => exact hwrap grant

theorem ChallengeFrom.kept {hash : String} {challenge : MfaChallengeRecord}
    (hreply : challengeOf reply = none)
    (hold : ∃ old, service.challenges[hash]? = some old ∧ old.userId = challenge.userId) :
    service.ChallengeFrom operation reply hash challenge := by
  refine .inl ⟨hold, fun token htoken => ?_⟩
  rw [hreply] at htoken
  contradiction

omit [Cryptography] in
theorem opened_challenges (userId : String) (now : Int) (drawn : List UInt8) :
    (opened userId now drawn service).2.challenges = service.challenges := by
  rcases opened_cases service userId now drawn with
    ⟨error, h⟩ | ⟨user, expiry, -, -, -, h⟩
  · rw [h]
  · rw [h]

omit [Cryptography] in
theorem spent_challenges (challengeToken userId : String) (user : UserRecord)
    (now : Int) : (service.spent challengeToken userId user now).challenges
      = service.challenges.erase (tokenHash challengeToken) := by
  rw [spent, clearFailures_challenges, dropChallenge,
    putUser_challenges, clearLapsedLock_challenges]

omit [ContentHash] [Cryptography] in
theorem of_countAttempt {challenge : MfaChallengeRecord}
    (h : (service.countAttempt challengeHash).challenges[hash]?
      = some challenge) : ∃ old, service.challenges[hash]? = some old ∧
      old.userId = challenge.userId := by
  unfold countAttempt OrderedMap.adjust at h
  cases hfound : service.challenges[challengeHash]? with
  | none =>
    simp only [hfound] at h
    exact ⟨challenge, h, rfl⟩
  | some old =>
    simp only [hfound, getElem?_insert] at h
    split at h
    · rename_i hsame
      obtain rfl := Std.LawfulEqOrd.eq_of_compare hsame
      obtain rfl := Option.some.inj h
      exact ⟨old, hfound, rfl⟩
    · exact ⟨challenge, h, rfl⟩

omit [ContentHash] [Cryptography] in
theorem of_erase {challenge : MfaChallengeRecord}
    (h : (service.challenges.erase challengeHash)[hash]? = some challenge) :
    ∃ old, service.challenges[hash]? = some old ∧
      old.userId = challenge.userId := by
  rw [getElem?_erase] at h
  split at h
  · contradiction
  · exact ⟨challenge, h, rfl⟩

theorem Effect.challenge (heffect : Effect service operation reply after)
    {challenge : MfaChallengeRecord} (h : after.challenges[hash]? = some challenge) :
    service.ChallengeFrom operation reply hash challenge := by
  cases heffect with
  | dropped hcheck => exact .kept rfl (of_erase h)
  | lapsed htime hcheck =>
    rw [clearLapsedLock_challenges] at h
    exact .kept rfl ⟨challenge, h, rfl⟩
  | failedPassword hunlocked hcheck =>
    rw [withFailure_challenges, clearLapsedLock_challenges] at h
    exact .kept rfl ⟨challenge, h, rfl⟩
  | failedFactor htime hunlocked hcheck =>
    rw [withFailure_challenges] at h
    obtain ⟨old, hold, hsame⟩ := of_countAttempt h
    rw [clearLapsedLock_challenges] at hold
    exact .kept rfl ⟨old, hold, hsame⟩
  | challenged huser hverifies hmfa hcheck =>
    rw [getElem?_insert] at h
    split at h
    · rename_i hsame
      obtain rfl := Option.some.inj h
      obtain ⟨user, hfound, hpassed⟩ := (passwordVerifies_eq _ _).mp hverifies
      rw [filter_eq_some_iff] at hfound
      exact .inr ⟨_, user, rfl, Std.LawfulEqOrd.eq_of_compare hsame, huser,
        _, rfl, hfound.1, hpassed⟩
    · rename_i hother
      refine .inl ⟨⟨challenge, h, rfl⟩, fun token htoken hsame => ?_⟩
      obtain rfl := Option.some.inj htoken
      exact hother (by simp [hsame])
  | loggedIn huser hverifies hcheck =>
    rw [opened_challenges, clearFailures_challenges,
      clearLapsedLock_challenges] at h
    exact .kept (challengeOf_opened fun _ => rfl) ⟨challenge, h, rfl⟩
  | completedTotp hadmitted henrolled hstep =>
    rw [opened_challenges, spent_challenges] at h
    exact .kept (challengeOf_opened fun _ => rfl) (of_erase h)
  | completedRecovery hadmitted hholder =>
    rw [opened_challenges, spent_challenges] at h
    exact .kept (challengeOf_opened fun _ => rfl) (of_erase h)
  | secured hrewritten hversion hplain hcheck =>
    exact .kept hplain.2 ⟨challenge, h, rfl⟩
  | disabled hrewritten hversion =>
    simp only [dropChallengesOf, Std.ExtTreeMap.getElem?_filter',
      filter_eq_some_iff] at h
    exact .kept rfl ⟨challenge, h.1, rfl⟩
  | _ => exact .kept rfl ⟨challenge, h, rfl⟩

structure StillHolds (old user : UserRecord) : Prop where
  passwordHash : user.passwordHash = old.passwordHash
  mfaSecret : user.mfaSecret = old.mfaSecret
  recoveryCodeHashes : user.recoveryCodeHashes ⊆ old.recoveryCodeHashes

theorem StillHolds.step {first : UserRecord} (h : StillHolds first old)
    (hstep : UserStep service operation userId old new)
    (hold : service.users[userId]? = some old)
    (hrotates : operation.rotatesCredential = true →
      ∀ user, service.rewritten operation ≠ some (userId, user)) :
    StillHolds first new := by
  have hsame {new : UserRecord} (hnew : SameCredentials old new) :
      StillHolds first new :=
    ⟨hnew.passwordHash.trans h.passwordHash, hnew.mfaSecret.trans h.mfaSecret,
      hnew.recoveryCodeHashes ▸ h.recoveryCodeHashes⟩
  cases hstep with
  | kept hnew => exact hsame hnew
  | accepted hop hlater hnew =>
    exact ⟨hnew.passwordHash.trans h.passwordHash, hnew.mfaSecret.trans h.mfaSecret,
      hnew.recoveryCodeHashes ▸ h.recoveryCodeHashes⟩
  | spent hop hnew =>
    refine ⟨hnew.passwordHash.trans h.passwordHash, hnew.mfaSecret.trans h.mfaSecret, ?_⟩
    rw [hnew.recoveryCodeHashes]
    exact (Finset.erase_subset _ _).trans h.recoveryCodeHashes
  | rewritten hop hnew =>
    cases hrotated : operation.rotatesCredential with
    | true => exact absurd hop (hrotates hrotated _)
    | false =>
      have hkept := sameCredentials_of_rewritten hop hold hrotated
      exact hsame ⟨hnew.passwordHash.trans hkept.passwordHash,
        hnew.mfaSecret.trans hkept.mfaSecret,
        hnew.recoveryCodeHashes.trans hkept.recoveryCodeHashes,
        hnew.lastAcceptedTotpStep.trans hkept.lastAcceptedTotpStep⟩

omit [Cryptography] in
theorem rotatesCredential_of_password {password : String}
    (h : operation.password = some password) : operation.rotatesCredential = false := by
  cases operation with
  | beginLogin tenantId email password now drawn => rfl
  | _ => simp [Operation.password] at h

def Pending (operations : List Operation) (hash userId : String) : Prop :=
  ∃ user, (run operations).users[userId]? = some user ∧ Since IdentityService.after empty
      (fun service begin => service.Opens begin hash userId ∧
        ∃ old, service.Presented begin userId old ∧ StillHolds old user)
      (fun service begin => ∃ other, service.Opens begin hash other)
      operations

theorem allSettled_snoc : AllSettled (operations ++ [operation]) ↔
      AllSettled operations ∧ Settled (run operations) operation :=
  forall_visited_snoc Settled

theorem settled_of_not_rotates
    (h : operation.rotatesCredential = false) : Settled service operation := by
  intro hrotates
  rw [h] at hrotates
  contradiction

theorem settled_of_no_challenge (h : service.challenges = ∅) :
    Settled service operation := by
  intro _ userId user _ hash challenge hfound
  rw [h] at hfound
  simp at hfound

theorem run_challenges (hsettled : AllSettled operations) {challenge : MfaChallengeRecord}
    (h : (run operations).challenges[hash]? = some challenge) :
    Pending operations hash challenge.userId := by
  induction operations using List.reverseRec generalizing challenge with
  | nil => simp [run, empty] at h
  | append_singleton operations operation ih =>
    obtain ⟨hsettled, hsettles⟩ := allSettled_snoc.mp hsettled
    rw [run_snoc] at h
    have heffect := effect (run_keyed operations) operation
    rcases heffect.challenge h with
      ⟨⟨pending, hpending, hsame⟩, hother⟩ | ⟨token, old, htoken, hhash,
        hlogin, hpresented⟩
    · obtain ⟨user, huser, hsince⟩ := ih hsettled hpending
      rw [hsame] at huser hsince
      obtain ⟨new, hnew⟩ := heffect.users_mono huser
      refine ⟨new, by rw [run_snoc]; exact hnew, since_snoc.mpr (.inr ?_)⟩
      constructor
      · refine hsince.imp ?_
        rintro service begin ⟨hopens, old, hpresented, hholds⟩
        refine ⟨hopens, old, hpresented, ?_⟩
        apply hholds.step (heffect.userStep huser hnew) huser
        intro hrotates user' hrewritten
        exact hsettles hrotates _ _ hrewritten hash pending hpending hsame
      · rintro ⟨other, token, htoken, hhash, -⟩
        exact hother token htoken hhash
    · obtain ⟨password, hpassword, hold, hverifies⟩ := hpresented
      obtain ⟨new, hnew⟩ := heffect.users_mono hold
      refine ⟨new, by rw [run_snoc]; exact hnew, since_snoc.mpr (.inl ?_)⟩
      refine ⟨⟨token, htoken, hhash, hlogin⟩, old,
        ⟨password, hpassword, hold, hverifies⟩, ?_⟩
      apply StillHolds.step ⟨rfl, rfl, subset_rfl⟩
        (heffect.userStep hold hnew) hold
      intro hrotates
      rw [rotatesCredential_of_password hpassword] at hrotates
      contradiction

/-! ## Completing a login -/

theorem Effect.factor (heffect : Effect service operation reply after)
    {challengeToken : String}
    (hchallenge : operation.challengeToken = some challengeToken)
    (hlogin : service.loginUser operation = some userId)
    (huser : service.users[userId]? = some user)
    (hgrant : (grantOf reply).isSome = true) (hholds : StillHolds old user) :
    FactorHeld operation old user := by
  cases heffect with
  | completedTotp hadmitted henrolled hstep => exact hholds.mfaSecret.symm
  | completedRecovery hadmitted hholder =>
    have hfound := loginUser_of_admitted hadmitted
    have hsame := Option.some.inj (hlogin.symm.trans hfound)
    subst hsame
    obtain ⟨hholder, -, hcode⟩ := of_codeHolder hholder
    rw [huser] at hholder
    obtain rfl := Option.some.inj hholder
    exact hholds.recoveryCodeHashes hcode
  | loggedIn huser' hverifies hcheck => exact trivial
  | secured hrewritten hversion hplain hcheck =>
    rw [hplain.1] at hgrant
    contradiction
  | _ => contradiction

end IdentityService

end

namespace ChallengeRun

open IdentityService

def drawn : List UInt8 := List.replicate 32 0

def drawnNext : List UInt8 := List.replicate 32 17

@[reducible] def recordedDigests : ContentHash where
  hexDigest bytes :=
    if bytes = (randomToken drawn).toUTF8.toList then
      "60e05bd1b195af2f94112fa7197a5c88289058840ce7c6df9693756bc6250f55"
    else
      "3138bb9bc78df27c473ecfd1410f7bd45ebac1f59cf3ff9cfe4db77aab7aedd3"

/-- The keyed hashes of the first three time steps under `secret`. -/
@[reducible] def recordedCodes : Cryptography where
  hashPassword password _ := some ("$argon2id$" ++ password)
  verifyPassword password encoded := encoded == "$argon2id$" ++ password
  isArgon2id encoded := encoded.toList.take 10 == "$argon2id$".toList
  hmacSha1 _ message :=
    if message = bigEndian 0 then
      #v[204, 147, 207, 24, 80, 141, 148, 147, 76, 100, 182, 93, 139,
        167, 102, 127, 183, 205, 228, 176]
    else if message = bigEndian 1 then
      #v[117, 164, 138, 25, 212, 203, 225, 0, 100, 78, 138, 193, 57,
        126, 234, 116, 122, 45, 51, 171]
    else
      #v[11, 172, 183, 250, 8, 47, 239, 48, 120, 34, 17, 147, 139, 193,
        197, 231, 4, 22, 255, 68]

attribute [local instance] recordedDigests recordedCodes

def secret : List UInt8 := "12345678901234567890".toUTF8.toList

def enrolledLogin (secret : List UInt8) : List Operation :=
  [.createUser "user.alice" "tenant.acme" "Alice@Example.COM"
      "Correct-Horse-7!" {.trader} "salt",
    .setTotpSecret "user.alice" secret,
    .beginLogin "tenant.acme" "alice@example.com" "Correct-Horse-7!" 30 drawn]

def completion : Operation := .completeTotp (randomToken drawn) "287082" 59 drawnNext

theorem enrolledLogin_settled : AllSettled (enrolledLogin secret) := by
  have hsplit : enrolledLogin secret
      = (([] ++ [(enrolledLogin secret)[0]]) ++ [(enrolledLogin secret)[1]])
        ++ [(enrolledLogin secret)[2]] := rfl
  rw [hsplit, allSettled_snoc, allSettled_snoc, allSettled_snoc]
  refine ⟨⟨⟨by simp [AllSettled, visited], settled_of_not_rotates rfl⟩, settled_of_no_challenge ?_⟩,
    settled_of_not_rotates rfl⟩
  rw [← Std.ExtTreeMap.isEmpty_iff]
  decide

def replacedSecret : List Operation :=
  enrolledLogin (List.replicate 20 7) ++ [.setTotpSecret "user.alice" secret]

end ChallengeRun

end Follon.Identity
