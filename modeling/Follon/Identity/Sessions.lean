import Follon.Foundation.Transition
import Follon.Identity.Effects

/-!
# A session is a current grant

A stored session was opened by a login of its user, and nothing since has
ended it: every operation that succeeds on the user removes it.
-/

namespace Follon.Identity

open Foundation Domain

section
variable [ContentHash] [Cryptography]

namespace IdentityService

variable {service after : IdentityService} {operation : Operation}
  {reply : Result Answer}

/-! ## Users -/

inductive Rewrites (userId : String) (old : UserRecord) :
    Operation → UserRecord → Prop
  | enrolled (secret : List UInt8) :
      Rewrites userId old (.enrollTotp userId secret) { old with
        mfaSecret := some secret, recoveryCodeHashes := ∅
        lastAcceptedTotpStep := none }
  | secret (secret : List UInt8) :
      Rewrites userId old (.setTotpSecret userId secret) { old with
        mfaSecret := some secret, recoveryCodeHashes := ∅
        lastAcceptedTotpStep := none }
  | codes (draws : CodeDraws) :
      Rewrites userId old (.rotateRecoveryCodes userId draws) { old with
        recoveryCodeHashes := (drawCodes draws.drawn [] ∅).2 }
  | roles (roles : Finset Role) :
      Rewrites userId old (.setRoles userId roles) { old with roles := roles }
  | disabled :
      Rewrites userId old (.disableUser userId) { old with enabled := false }
  | password (token tenantId currentPassword newPassword : String) (now : Int)
      (salt encoded : String) :
      Rewrites userId old (.changePassword token tenantId currentPassword
        newPassword now salt) { old with passwordHash := encoded }

variable {userId hash : String} {old user : UserRecord} {now : Int}

omit [Cryptography] in
theorem Rewrites.userId_eq (h : Rewrites userId old operation user)
    : user.userId = old.userId := by
  cases h with
  | _ => rfl

theorem of_rewritten (h : service.rewritten operation = some (userId, user)) :
    ∃ old, service.users[userId]? = some old ∧ Rewrites userId old operation user ∧
      service.subject operation = some userId := by
  cases operation with
  | enrollTotp user' secret =>
    simp only [rewritten] at h
    split at h
    · contradiction
    · rw [map_eq_some_iff] at h
      obtain ⟨old, hold, h⟩ := h
      cases h
      exact ⟨old, hold, .enrolled secret, rfl⟩
  | setTotpSecret user' secret =>
    simp only [rewritten] at h
    split at h
    · contradiction
    · rw [map_eq_some_iff] at h
      obtain ⟨old, hold, h⟩ := h
      cases h
      exact ⟨old, hold, .secret secret, rfl⟩
  | rotateRecoveryCodes user' draws =>
    simp only [rewritten] at h
    rw [map_eq_some_iff] at h
    obtain ⟨old, hold, h⟩ := h
    cases h
    exact ⟨old, (filter_eq_some_iff.mp hold).1, .codes draws, rfl⟩
  | setRoles user' roles =>
    simp only [rewritten] at h
    split at h
    · contradiction
    · rw [map_eq_some_iff] at h
      obtain ⟨old, hold, h⟩ := h
      cases h
      exact ⟨old, hold, .roles roles, rfl⟩
  | disableUser user' =>
    simp only [rewritten] at h
    rw [map_eq_some_iff] at h
    obtain ⟨old, hold, h⟩ := h
    cases h
    exact ⟨old, hold, .disabled, rfl⟩
  | changePassword token tenantId current new now salt =>
    simp only [rewritten] at h
    split at h
    · simp only [bind_eq_bind, bind_eq_some_iff] at h
      obtain ⟨session, hsession, old, hold, h⟩ := h
      split at h
      · contradiction
      · cases h
        rw [liveSession, filter_eq_some_iff] at hsession
        rw [sessionUser, filter_eq_some_iff] at hold
        refine ⟨old, hold.1, .password _ _ _ _ _ _ _, ?_⟩
        simp [subject, hsession.1]
    · contradiction
  | _ => simp [rewritten] at h

omit [Cryptography] in
theorem opened_cases (service : IdentityService) (userId : String) (now : Int)
    (drawn : List UInt8) :
    (∃ error, opened userId now drawn service = (.error error, service)) ∨
      ∃ user expiry, service.users[userId]? = some user ∧ user.enabled = true ∧
        checkedAdd now sessionSeconds = some expiry ∧
        opened userId now drawn service
          = (.ok ⟨randomToken drawn, expiry⟩, { service with
              sessions := service.sessions.insert
                (tokenHash (randomToken drawn))
                ⟨user.userId, user.tenantId, expiry,
                  user.securityVersion⟩ }) := by
  unfold opened issueSession
  rw [run_read_bind]
  cases service.users[userId]? with
  | none => exact .inl ⟨_, rfl⟩
  | some user =>
    simp only
    cases henabled : user.enabled with
    | false => exact .inl ⟨_, rfl⟩
    | true =>
      cases checkedAdd now sessionSeconds with
      | none => exact .inl ⟨_, rfl⟩
      | some expiry => exact .inr ⟨user, expiry, rfl, henabled, rfl, rfl⟩

omit [Cryptography] in
theorem opened_users (service : IdentityService) (userId : String) (now : Int)
    (drawn : List UInt8) : (opened userId now drawn service).2.users = service.users := by
  rcases opened_cases service userId now drawn with
    ⟨error, h⟩ | ⟨user, expiry, -, -, -, h⟩
  · rw [h]
  · rw [h]

omit [ContentHash] [Cryptography] in
theorem Keyed.putUser (hkeyed : service.Keyed)
    (hold : service.users[userId]? = some old) (hid : user.userId = old.userId) :
    (service.putUser userId user).Keyed := by
  intro userId' user' h
  rw [putUser_users, getElem?_insert] at h
  split at h
  · rename_i hsame
    obtain rfl := Std.LawfulEqOrd.eq_of_compare hsame
    obtain rfl := Option.some.inj h
    rw [hid]
    exact hkeyed userId old hold
  · exact hkeyed userId' user' h

omit [ContentHash] [Cryptography] in
theorem Keyed.congr (hkeyed : service.Keyed)
    (h : after.users = service.users) : after.Keyed := by
  intro userId user huser
  rw [h] at huser
  exact hkeyed userId user huser

omit [Cryptography] in
@[simp] theorem spent_users (challengeToken userId : String)
    (user : UserRecord) (now : Int) : (service.spent challengeToken userId user now).users
      = service.users.insert userId user := by
  simp only [spent, clearFailures_users, dropChallenge_users, putUser_users,
    clearLapsedLock_users]

omit [Cryptography] in
@[simp] theorem spent_sessions (challengeToken userId : String)
    (user : UserRecord) (now : Int) :
    (service.spent challengeToken userId user now).sessions
      = service.sessions := by
  simp only [spent, clearFailures_sessions, dropChallenge_sessions,
    putUser_sessions, clearLapsedLock_sessions]

variable {challengeToken : String} {wrap : SessionGrant → Answer}
  {grant : SessionGrant}

omit [Cryptography] in
theorem Keyed.spent (hkeyed : service.Keyed)
    (hold : service.users[userId]? = some old) (hid : user.userId = old.userId) :
    (service.spent challengeToken userId user now).Keyed := by
  apply (hkeyed.putUser hold hid).congr
  rw [spent_users, putUser_users]

omit [ContentHash] [Cryptography] in
theorem of_enrolled {secret : List UInt8}
    (h : service.enrolled userId = some (user, secret)) :
    service.users[userId]? = some user ∧ user.enabled = true ∧
      user.mfaSecret = some secret := by
  simp only [enrolled, bind_eq_bind, bind_eq_some_iff,
    Option.pure_def, Option.some.injEq, Prod.mk.injEq,
    filter_eq_some_iff] at h
  obtain ⟨found, ⟨hfound, henabled⟩, found', hsecret, rfl, rfl⟩ := h
  exact ⟨hfound, henabled, hsecret⟩

omit [Cryptography] in
theorem of_codeHolder {recoveryCode : String}
    (h : service.codeHolder userId recoveryCode = some user) :
    service.users[userId]? = some user ∧ user.enabled = true ∧
      tokenHash recoveryCode ∈ user.recoveryCodeHashes := by
  simp only [codeHolder, filter_eq_some_iff, decide_eq_true_eq] at h
  exact h

theorem Effect.keyed (heffect : Effect service operation reply after)
    (hkeyed : service.Keyed) : after.Keyed := by
  cases heffect with
  | refused hcheck => exact hkeyed
  | authorized => exact hkeyed
  | entered hnew hcheck hsubject =>
    intro userId user h
    simp only [enterUser, getElem?_insert] at h
    split at h
    · rename_i hsame
      obtain rfl := Option.some.inj h
      exact Std.LawfulEqOrd.eq_of_compare hsame
    · exact hkeyed userId user h
  | dropped hcheck => exact hkeyed
  | lapsed htime hcheck =>
    exact hkeyed.congr (clearLapsedLock_users ..)
  | failedPassword hunlocked hcheck =>
    exact hkeyed.congr (clearLapsedLock_users ..)
  | failedFactor htime hunlocked hcheck =>
    exact hkeyed.congr (clearLapsedLock_users ..)
  | challenged huser hverifies hmfa hcheck =>
    exact hkeyed.congr (clearLapsedLock_users ..)
  | loggedIn huser hverifies hcheck =>
    apply hkeyed.congr
    rw [opened_users, clearFailures_users, clearLapsedLock_users]
  | completedTotp hadmitted henrolled hstep =>
    apply Keyed.congr _ (opened_users ..)
    exact hkeyed.spent (of_enrolled henrolled).1 rfl
  | completedRecovery hadmitted hholder =>
    apply Keyed.congr _ (opened_users ..)
    exact hkeyed.spent (of_codeHolder hholder).1 rfl
  | secured hrewritten hversion hplain hcheck =>
    obtain ⟨old, hold, hrewrites, -⟩ := of_rewritten hrewritten
    exact hkeyed.putUser hold hrewrites.userId_eq
  | disabled hrewritten hversion =>
    obtain ⟨old, hold, hrewrites, -⟩ := of_rewritten hrewritten
    exact hkeyed.putUser hold hrewrites.userId_eq
  | overflowed hrewritten hcheck =>
    obtain ⟨old, hold, hrewrites, -⟩ := of_rewritten hrewritten
    exact hkeyed.putUser hold hrewrites.userId_eq
  | revoked => exact hkeyed

/-! ## Sessions -/

def EndsSession (service : IdentityService) (operation : Operation)
    (userId token : String) : Prop :=
  ((∃ answer, service.answer operation = .ok answer) ∧
      service.subject operation = some userId) ∨
    operation = .revokeSession token

def Issues (service : IdentityService) (operation : Operation)
    (userId tenantId : String) (grant : SessionGrant) : Prop :=
  grantOf (service.answer operation) = some grant ∧
    service.loginUser operation = some userId ∧
    ∃ user, service.users[userId]? = some user ∧ user.tenantId = tenantId

def SessionFrom (service : IdentityService) (operation : Operation)
    (reply : Result Answer) (hash : String) (session : SessionRecord) : Prop :=
  (service.sessions[hash]? = some session ∧ (∀ answer, reply = .ok answer →
        service.subject operation ≠ some session.userId) ∧
      ∀ token, operation = .revokeSession token → tokenHash token ≠ hash) ∨
    ∃ token user, hash = tokenHash token ∧
      grantOf reply = some ⟨token, session.expiresAtEpochSeconds⟩ ∧
      service.loginUser operation = some session.userId ∧
      service.users[session.userId]? = some user ∧
      user.tenantId = session.tenantId

omit [Cryptography] in
theorem SessionFrom.kept {hash : String} {session : SessionRecord}
    (h : service.sessions[hash]? = some session)
    (hsubject : service.subject operation = none)
    (hrevoke : ∀ token, operation = .revokeSession token → tokenHash token ≠ hash) :
    service.SessionFrom operation reply hash session := by
  refine .inl ⟨h, fun answer hreply => ?_, hrevoke⟩
  rw [hsubject]
  exact nofun

omit [Cryptography] in
theorem SessionFrom.failed {session : SessionRecord} {error : IdentityError}
    (h : service.sessions[hash]? = some session)
    (hrevoke : ∀ token, operation = .revokeSession token →
      ∃ known, Except.error error = .ok (Answer.revoked known)) :
    service.SessionFrom operation (.error error) hash session := by
  refine .inl ⟨h, nofun, fun token htoken => ?_⟩
  obtain ⟨known, hknown⟩ := hrevoke token htoken
  contradiction

omit [Cryptography] in
theorem SessionFrom.opened {drawn : List UInt8} {before : IdentityService}
    {session : SessionRecord} (hkeyed : service.Keyed)
    (hwrap : ∀ grant, grantOf (.ok (wrap grant)) = some grant)
    (hbefore : before.sessions = service.sessions)
    (hlogin : service.loginUser operation = some userId)
    (hsubject : service.subject operation = none)
    (hrevoke : ∀ token, operation ≠ .revokeSession token)
    (hold : ∀ {user}, before.users[userId]? = some user →
      ∃ old, service.users[userId]? = some old ∧
        user.userId = old.userId ∧ user.tenantId = old.tenantId)
    (h : (IdentityService.opened userId now drawn before).2.sessions[hash]?
      = some session) : service.SessionFrom operation
      ((IdentityService.opened userId now drawn before).1.map wrap) hash
      session := by
  have hkept (h : service.sessions[hash]? = some session) :
      service.SessionFrom operation
        ((IdentityService.opened userId now drawn before).1.map wrap) hash
        session :=
    .kept h hsubject fun token htoken => absurd htoken (hrevoke token)
  rcases opened_cases before userId now drawn with
    ⟨error, hrun⟩ | ⟨user, expiry, huser, -, -, hrun⟩
  · rw [hrun, hbefore] at h
    exact hkept h
  · rw [hrun] at h
    simp only [getElem?_insert, hbefore] at h
    split at h
    · rename_i hsame
      obtain ⟨old, hold, hid, htenant⟩ := hold huser
      have hown := hkeyed userId old hold
      obtain rfl := Option.some.inj h
      right
      rw [hrun, hid, hown]
      exact ⟨randomToken drawn, old, (Std.LawfulEqOrd.eq_of_compare hsame).symm,
        hwrap _, hlogin, hold, htenant.symm⟩
    · exact hkept h

omit [Cryptography] in
theorem loginUser_of_admitted (h : service.admitted challengeToken now = some userId) :
    service.challenges[tokenHash challengeToken]?.map (·.userId)
      = some userId := by
  obtain ⟨challenge, hfound, huser, -⟩ := admitted_unlocked h
  rw [hfound, ← huser]
  rfl

theorem SessionFrom.secured {version : Nat} {session : SessionRecord}
    (hrewritten : service.rewritten operation = some (userId, user))
    (h : (service.secured userId user version).sessions[hash]? = some session)
    : service.SessionFrom operation reply hash session := by
  obtain ⟨-, -, -, hsubject⟩ := of_rewritten hrewritten
  simp only [IdentityService.secured, revokeUserSessions, putUser_sessions,
    Std.ExtTreeMap.getElem?_filter', filter_eq_some_iff,
    decide_eq_true_eq] at h
  refine .inl ⟨h.1, fun answer _ hsame => ?_, fun token htoken => ?_⟩
  · rw [hsubject] at hsame
    exact h.2 (Option.some.inj hsame).symm
  · rw [htoken] at hsubject
    exact nomatch hsubject

theorem Effect.session (heffect : Effect service operation reply after)
    (hkeyed : service.Keyed) (hrevoke : ∀ token, operation = .revokeSession token →
      ∃ known, reply = .ok (.revoked known)) {session : SessionRecord}
    (h : after.sessions[hash]? = some session) :
    service.SessionFrom operation reply hash session := by
  cases heffect with
  | refused hcheck => exact .failed h hrevoke
  | authorized => exact .kept h rfl (by simp)
  | entered hnew hcheck hsubject =>
    have hbefore : service.sessions[hash]? = some session := h
    refine .kept hbefore hsubject fun token htoken => ?_
    obtain ⟨known, hknown⟩ := hrevoke token htoken
    simp at hknown
  | dropped hcheck => exact .failed h hrevoke
  | lapsed htime hcheck =>
    rw [clearLapsedLock_sessions] at h
    exact .failed h hrevoke
  | failedPassword hunlocked hcheck =>
    rw [withFailure_sessions, clearLapsedLock_sessions] at h
    exact .failed h hrevoke
  | failedFactor htime hunlocked hcheck =>
    rw [withFailure_sessions, countAttempt_sessions,
      clearLapsedLock_sessions] at h
    exact .failed h hrevoke
  | challenged huser hverifies hmfa hcheck =>
    exact .kept (by simpa using h) rfl (by simp)
  | loggedIn huser hverifies hcheck =>
    refine .opened hkeyed (fun _ => rfl) ?_ huser rfl (by simp) ?_ h
    · rw [clearFailures_sessions, clearLapsedLock_sessions]
    · intro user huser
      rw [clearFailures_users, clearLapsedLock_users] at huser
      exact ⟨user, huser, rfl, rfl⟩
  | completedTotp hadmitted henrolled hstep =>
    refine .opened hkeyed (fun _ => rfl) ?_
      (loginUser_of_admitted hadmitted) rfl (by simp) ?_ h
    · exact spent_sessions ..
    · intro user huser
      rw [spent_users, Std.ExtTreeMap.getElem?_insert_self] at huser
      obtain rfl := Option.some.inj huser
      exact ⟨_, (of_enrolled henrolled).1, rfl, rfl⟩
  | completedRecovery hadmitted hholder =>
    refine .opened hkeyed (fun _ => rfl) ?_
      (loginUser_of_admitted hadmitted) rfl (by simp) ?_ h
    · exact spent_sessions ..
    · intro user huser
      rw [spent_users, Std.ExtTreeMap.getElem?_insert_self] at huser
      obtain rfl := Option.some.inj huser
      exact ⟨_, (of_codeHolder hholder).1, rfl, rfl⟩
  | secured hrewritten hversion hplain hcheck => exact .secured hrewritten h
  | disabled hrewritten hversion => exact .secured hrewritten h
  | overflowed hrewritten hcheck => exact .failed h hrevoke
  | revoked =>
    rw [getElem?_erase] at h
    split at h
    · contradiction
    · rename_i hother
      apply SessionFrom.kept h rfl
      intro token htoken hsame
      cases htoken
      exact hother (by simp [hsame])

omit [Cryptography] in
theorem opened_token {drawn : List UInt8}
    (hwrap : ∀ grant, grantOf (.ok (wrap grant)) = some grant)
    (h : grantOf ((opened userId now drawn service).1.map wrap) = some grant)
    : randomToken drawn = grant.token := by
  rcases opened_cases service userId now drawn with
    ⟨error, hrun⟩ | ⟨user, expiry, -, -, -, hrun⟩
  · rw [hrun] at h
    exact nomatch h
  · rw [hrun] at h
    have hgrant := (hwrap ⟨randomToken drawn, expiry⟩).symm.trans h
    exact congrArg SessionGrant.token (Option.some.inj hgrant)

theorem Effect.token (heffect : Effect service operation reply after)
    (h : grantOf reply = some grant) : operation.token = some grant.token := by
  cases heffect with
  | loggedIn huser hverifies hcheck =>
    exact congrArg some (opened_token (fun _ => rfl) h)
  | completedTotp hadmitted henrolled hstep =>
    exact congrArg some (opened_token (fun _ => rfl) h)
  | completedRecovery hadmitted hholder =>
    exact congrArg some (opened_token (fun _ => rfl) h)
  | secured hrewritten hversion hplain hcheck =>
    rw [hplain.1] at h
    contradiction
  | _ => exact nomatch h

/-! ## Runs -/

theorem run_keyed (operations : List Operation) : (run operations).Keyed := by
  induction operations using List.reverseRec with
  | nil =>
    intro userId user h
    simp [run, empty] at h
  | append_singleton operations operation ih =>
    rw [run_snoc]
    exact (effect ih operation).keyed ih

def StemsFrom (operations : List Operation) (token : String)
    (session : SessionRecord) : Prop :=
  Since IdentityService.after empty
    (fun service operation => service.Issues operation session.userId
      session.tenantId ⟨token, session.expiresAtEpochSeconds⟩)
    (fun service operation =>
      service.EndsSession operation session.userId token) operations

theorem run_sessions (operations : List Operation) {session : SessionRecord}
    (h : (run operations).sessions[hash]? = some session) :
    ∃ token, hash = tokenHash token ∧
      StemsFrom operations token session := by
  induction operations using List.reverseRec generalizing session with
  | nil => simp [run, empty] at h
  | append_singleton operations operation ih =>
    rw [run_snoc] at h
    have hkeyed := run_keyed operations
    have hrevoke : ∀ token, operation = .revokeSession token →
        ∃ known, (run operations).answer operation
          = .ok (.revoked known) := by
      rintro token rfl
      exact ⟨_, rfl⟩
    rcases (effect hkeyed operation).session hkeyed hrevoke h with
      ⟨hbefore, hsubject, hother⟩ | ⟨token, user, hhash, hgrant, hlogin, huser, htenant⟩
    · obtain ⟨token, rfl, hstems⟩ := ih hbefore
      refine ⟨token, rfl, since_snoc.mpr (.inr ⟨hstems, ?_⟩)⟩
      rintro (⟨⟨answer, hanswer⟩, hended⟩ | hended)
      · exact hsubject answer hanswer hended
      · exact hother token hended rfl
    · exact ⟨token, hhash, since_snoc.mpr (.inl ⟨hgrant, hlogin, user, huser, htenant⟩)⟩

def NoCollision (tokens : Set String) : Prop := Set.InjOn tokenHash tokens

def tokensOf (operations : List Operation) (token : String) : Set String :=
  {drawn | drawn = token ∨ ∃ operation ∈ operations,
    operation.token = some drawn}

/-- The login that issued a token is the only grant it needs, and it still
stands. -/
structure CurrentGrant (operations : List Operation) (token tenantId : String)
    (permission : Permission) (now : Int) (context : AuthorizationContext) :
    Prop where
  /-- The token was issued by a completed login of a user of the tenant, is
  not past its expiry, and nothing since has ended the session. -/
  issued : ∃ expiry, now ≤ expiry ∧ Since IdentityService.after empty
      (fun service operation => service.Issues operation context.userId
        tenantId ⟨token, expiry⟩)
      (fun service operation =>
        service.EndsSession operation context.userId token) operations
  current : ∃ user, (run operations).users[context.userId]? = some user ∧
    user.enabled = true ∧ user.tenantId = tenantId ∧
    ∃ role ∈ user.roles, role.grants permission = true

omit [Cryptography] in
theorem authorize_eq_ok {token tenantId : String} {permission : Permission}
    {context : AuthorizationContext} :
    service.authorize token tenantId permission now = .ok context ↔
      ∃ session user, service.sessions[tokenHash token]? = some session ∧
        now ≤ session.expiresAtEpochSeconds ∧ session.tenantId = tenantId ∧
        service.users[session.userId]? = some user ∧ user.enabled = true ∧
        user.tenantId = tenantId ∧
        user.securityVersion = session.securityVersion ∧
        (∃ role ∈ user.roles, role.grants permission = true) ∧
        context = ⟨user.userId, user.tenantId, user.roles⟩ := by
  unfold authorize
  constructor
  · intro h
    cases hsession : service.liveSession token tenantId now with
    | none => simp [hsession] at h
    | some session =>
      simp only [hsession] at h
      cases huser : service.sessionUser session tenantId with
      | none => simp [huser] at h
      | some user =>
        simp only [huser] at h
        split at h
        · rename_i hrole
          simp only [liveSession, filter_eq_some_iff,
            decide_eq_true_eq] at hsession
          simp only [sessionUser, filter_eq_some_iff,
            decide_eq_true_eq] at huser
          exact ⟨session, user, hsession.1, hsession.2.1, hsession.2.2, huser.1,
            huser.2.1, huser.2.2.1, huser.2.2.2, hrole, (Except.ok.inj h).symm⟩
        · contradiction
  · rintro ⟨session, user, hsession, hexpiry, hsame, huser, henabled, htenant,
      hversion, hrole, rfl⟩
    have hlive : service.liveSession token tenantId now = some session := by
      simp [liveSession, hsession, hexpiry, hsame, Option.filter]
    have hspeaks : service.sessionUser session tenantId = some user := by
      simp [sessionUser, huser, henabled, htenant, hversion, Option.filter]
    simp only [hlive, hspeaks, if_pos hrole]

/-- Authorization implies a current grant. -/
theorem authorize_current_grant {operations : List Operation}
    {token tenantId : String} {permission : Permission} {now : Int}
    {context : AuthorizationContext}
    (hcollision : NoCollision (tokensOf operations token))
    (h : (run operations).authorize token tenantId permission now = .ok context) :
    CurrentGrant operations token tenantId permission now context := by
  obtain ⟨session, user, hsession, hexpiry, hsame, huser, henabled, htenant,
    -, hrole, rfl⟩ := authorize_eq_ok.mp h
  have hown := run_keyed operations session.userId user huser
  obtain ⟨issued, hhash, hstems⟩ := run_sessions operations hsession
  have htoken : token = issued := by
    obtain ⟨before, login, after, rfl, hissues⟩ := hstems.exists
    apply hcollision (.inl rfl) (.inr ⟨login, by simp, ?_⟩) hhash
    exact (effect (run_keyed before) login).token hissues.1
  subst htoken hsame
  unfold StemsFrom at hstems
  rw [← hown] at hstems huser
  exact ⟨⟨_, hexpiry, hstems⟩, ⟨user, huser, henabled, htenant, hrole⟩⟩

end IdentityService

end

namespace SessionRun

open IdentityService

@[reducible] def recordedDigest : ContentHash where
  hexDigest _ :=
    "60e05bd1b195af2f94112fa7197a5c88289058840ce7c6df9693756bc6250f55"

@[reducible] def recordedCryptography : Cryptography where
  hashPassword password _ := some ("$argon2id$" ++ password)
  verifyPassword password encoded := encoded == "$argon2id$" ++ password
  isArgon2id encoded := encoded.toList.take 10 == "$argon2id$".toList
  hmacSha1 _ _ := Vector.replicate 20 0

attribute [local instance] recordedDigest recordedCryptography

def drawn : List UInt8 := List.replicate 32 0

def firstLogin : List Operation :=
  [.createUser "user.alice" "tenant.acme" "Alice@Example.COM"
      "Correct-Horse-7!" {.trader} "salt",
    .beginLogin "tenant.acme" "alice@example.com" "Correct-Horse-7!" 1000
      drawn]

theorem firstLogin_authorizes : ∃ context,
    (run firstLogin).authorize (randomToken drawn) "tenant.acme" .paperTrade
      1900 = .ok context := by
  decide +kernel

theorem firstLogin_tokens : NoCollision (tokensOf firstLogin (randomToken drawn)) := by
  have hone : ∀ token ∈ tokensOf firstLogin (randomToken drawn),
      token = randomToken drawn := by
    rintro token (h | ⟨operation, hmem, h⟩)
    · exact h
    · simp only [firstLogin, mem_cons, not_mem_nil,
        or_false] at hmem
      rcases hmem with rfl | rfl
      · contradiction
      · exact (Option.some.inj h).symm
  intro token htoken other hother _
  rw [hone token htoken, hone other hother]

theorem authorize_current_grant_first_login : ∃ context,
    NoCollision (tokensOf firstLogin (randomToken drawn)) ∧
      (run firstLogin).authorize (randomToken drawn) "tenant.acme"
        .paperTrade 1900 = .ok context ∧
      CurrentGrant firstLogin (randomToken drawn) "tenant.acme" .paperTrade
        1900 context := by
  obtain ⟨context, h⟩ := firstLogin_authorizes
  exact ⟨context, firstLogin_tokens, h, authorize_current_grant firstLogin_tokens h⟩

end SessionRun

end Follon.Identity
