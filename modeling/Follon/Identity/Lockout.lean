import Follon.Identity.Sessions

/-!
# Credential guessing is bounded

Five failures lock an account for 900 seconds, so any six failures of one
account are spread over more than one window of that length, unless a login
completed in between.  A password change verifies a credential outside this
scheme: it looks at no lock and counts no failure.
-/

namespace Follon.Identity

open Foundation Domain

section
variable [ContentHash] [Cryptography]

namespace IdentityService

/-! ## What a run has seen -/

def visited : IdentityService → List Operation → List (IdentityService × Operation)
  | _, [] => []
  | service, operation :: operations =>
    (service, operation) :: visited (service.after operation) operations

theorem visited_append (service : IdentityService)
    (operations more : List Operation) : visited service (operations ++ more)
      = visited service operations
        ++ visited (operations.foldl after service) more := by
  induction operations generalizing service with
  | nil => rfl
  | cons operation operations ih =>
    simp only [cons_append, visited, List.foldl_cons, ih]

theorem visited_snoc (operations : List Operation) (operation : Operation) :
    visited empty (operations ++ [operation])
      = visited empty operations ++ [(run operations, operation)] := by
  rw [visited_append]
  rfl

variable {operations : List Operation} {userId other : String}
  {now clock : Int} {count : Nat}

theorem forall_visited_snoc (P : IdentityService → Operation → Prop)
    {operation : Operation} : (∀ service operation',
        (service, operation') ∈ visited empty (operations ++ [operation]) →
          P service operation') ↔
      (∀ service operation', (service, operation') ∈ visited empty operations →
        P service operation') ∧ P (run operations) operation := by
  rw [visited_snoc]
  constructor
  · intro h
    constructor
    · intro service operation' hmem
      exact h service operation' (mem_append_left _ hmem)
    · exact h _ _ (mem_append_right _ mem_cons_self)
  · rintro ⟨hbefore, hlast⟩ service operation' hmem
    rw [mem_append, mem_singleton] at hmem
    cases hmem with
    | inl hmem => exact hbefore service operation' hmem
    | inr hsame =>
      obtain ⟨rfl, rfl⟩ := Prod.mk.inj hsame
      exact hlast

def failureTime (userId : String) (visit : IdentityService × Operation) : Option Int :=
  if visit.1.verification visit.2 = some (userId, false) then visit.2.time
  else none

def loginTime (userId : String) (visit : IdentityService × Operation) : Option Int :=
  if (grantOf (visit.1.answer visit.2)).isSome ∧
      visit.1.loginUser visit.2 = some userId then visit.2.time
  else none

def failureTimes (operations : List Operation) (userId : String) : List Int :=
  (visited empty operations).filterMap (failureTime userId)

def loginTimes (operations : List Operation) (userId : String) : List Int :=
  (visited empty operations).filterMap (loginTime userId)

/-- The failed verifications from `start` on, for 900 seconds. -/
def failuresFrom (operations : List Operation) (userId : String) (start : Int) : Nat :=
  ((failureTimes operations userId).filter fun time =>
    start ≤ time ∧ time < start + lockoutSeconds).length

/-- No window without a completed login sees more failures than the limit,
and no credential of a locked account is verified. -/
structure GuessingBounded (operations : List Operation) : Prop where
  bounded : ∀ userId start, (∀ time ∈ loginTimes operations userId,
      ¬(start ≤ time ∧ time < start + lockoutSeconds)) →
    failuresFrom operations userId start ≤ loginFailureLimit
  unlocked : ∀ service operation userId passed now,
    (service, operation) ∈ visited empty operations →
    service.verification operation = some (userId, passed) →
    operation.time = some now → service.isLockedAt userId now = false

def Ordered (operations : List Operation) : Prop :=
  (operations.filterMap Operation.time).Pairwise (· ≤ ·)

def Guarded (service : IdentityService) (operation : Operation) : Prop :=
  (∀ now, operation.time = some now → -2 ^ 63 ≤ now ∧ now + lockoutSeconds < 2 ^ 63) ∧
    (operation.changesPassword = true → ∀ userId passed now,
      service.verification operation = some (userId, passed) →
      operation.time = some now →
      passed = true ∧ service.isLockedAt userId now = false)

/-! ## The lock of an account -/

def effective (service : IdentityService) (userId : String) (now : Int) : Nat :=
  match service.failures[userId]? with
  | none => 0
  | some ⟨count, none⟩ => count
  | some ⟨_, some expiry⟩ => if now < expiry then loginFailureLimit else 0

def LockedOrBelow (service : IdentityService) (userId : String) : Prop :=
  ∀ failures, service.failures[userId]? = some failures →
    failures.lockedUntilEpochSeconds = none →
    failures.count < loginFailureLimit

inductive FailureStep (service : IdentityService) (operation : Operation)
    (reply : Result Answer) (after : IdentityService) (userId : String)
    (now : Int) : Prop
  | kept (hcheck : service.verification operation ≠ some (userId, false))
      (hsame : after.failures[userId]? = service.failures[userId]? ∨
        after.failures[userId]? = none ∧ service.effective userId now = 0) :
      FailureStep service operation reply after userId now
  | counted (htime : operation.time = some now)
      (hunlocked : service.isLockedAt userId now = false)
      (hcounted : after.failures[userId]? = some (countFailure
            ((service.clearLapsedLock userId now).failures[userId]?.getD
              ⟨0, none⟩) now)) :
      FailureStep service operation reply after userId now
  | cleared (htime : operation.time = some now)
      (hcheck : service.verification operation ≠ some (userId, false))
      (hgrant : (grantOf reply).isSome = true)
      (hlogin : service.loginUser operation = some userId)
      (hcleared : after.failures[userId]? = none) :
      FailureStep service operation reply after userId now

omit [ContentHash] [Cryptography] in
theorem clearLapsedLock_failures_of_ne (service : IdentityService) (now : Int)
    (hne : other ≠ userId) : (service.clearLapsedLock userId now).failures[other]?
      = service.failures[other]? := by
  cases clearLapsedLock_eq service userId now with
  | inl h => rw [h]
  | inr h =>
    rw [h, clearFailures_failures, getElem?_erase]
    simp [hne.symm]

omit [ContentHash] [Cryptography] in
theorem clearLapsedLock_failures (service : IdentityService)
    (userId : String) (now : Int) :
    (service.clearLapsedLock userId now).failures[userId]? = service.failures[userId]? ∨
      (service.clearLapsedLock userId now).failures[userId]? = none ∧
        service.effective userId now = 0 := by
  unfold clearLapsedLock lockExpiry effective
  cases hfound : service.failures[userId]? with
  | none => exact .inl hfound
  | some failures =>
    obtain ⟨count, expiry⟩ := failures
    cases expiry with
    | none => exact .inl hfound
    | some expiry =>
      simp only [bind_some]
      by_cases hlive : now < expiry
      · rw [if_pos hlive]
        exact .inl hfound
      · rw [if_neg hlive, if_neg hlive, clearFailures_failures]
        exact .inr ⟨by simp, rfl⟩

variable {service after : IdentityService} {operation : Operation}
  {reply : Result Answer}

omit [ContentHash] [Cryptography] in
theorem clearLapsedLock_same (service : IdentityService)
    (other userId : String) (now : Int) :
    (service.clearLapsedLock other now).failures[userId]? = service.failures[userId]? ∨
      (service.clearLapsedLock other now).failures[userId]? = none ∧
        service.effective userId now = 0 := by
  by_cases hsame : userId = other
  · rw [hsame]
    exact clearLapsedLock_failures service other now
  · exact .inl (clearLapsedLock_failures_of_ne service now hsame)

theorem not_failed_of_guarded (hguard : Guarded service operation)
    (hcheck : ∀ userId, service.verification operation = some (userId, false) →
      operation.changesPassword = true) (userId : String) :
    service.verification operation ≠ some (userId, false) := by
  intro h
  have hchanges := hcheck userId h
  cases operation with
  | changePassword token tenantId current new now salt =>
    exact nomatch (hguard.2 rfl userId false now h rfl).1
  | _ => simp [Operation.changesPassword] at hchanges

theorem FailureStep.failed (htime : operation.time = some now)
    (hunlocked : service.isLockedAt other now = false)
    (hcheck : ∀ userId passed, service.verification operation
      = some (userId, passed) → userId = other) (hafter : after.failures
      = (service.clearLapsedLock other now).failures.insert other
        (countFailure ((service.clearLapsedLock other now).failures[other]?.getD
            ⟨0, none⟩) now)) : FailureStep service operation reply after userId now := by
  by_cases hsame : userId = other
  · subst hsame
    apply FailureStep.counted htime hunlocked
    rw [hafter, Std.ExtTreeMap.getElem?_insert_self]
  · apply FailureStep.kept
    · intro h
      exact hsame (hcheck userId false h)
    · rw [hafter, getElem?_insert_of_ne _ _ (Ne.symm hsame)]
      exact .inl (clearLapsedLock_failures_of_ne service now hsame)

variable {user : UserRecord} {later time : Int}

omit [Cryptography] in
theorem opened_of (drawn : List UInt8) (huser : service.users[userId]? = some user)
    (henabled : user.enabled = true) (hlow : -2 ^ 63 ≤ now)
    (hhigh : now + lockoutSeconds < 2 ^ 63) :
    ∃ grant, opened userId now drawn service = (.ok grant,
      (opened userId now drawn service).2) ∧
      (opened userId now drawn service).2.failures = service.failures := by
  have hsum : checkedAdd now sessionSeconds = some (now + sessionSeconds) :=
    checkedAdd_of_le hlow (by decide) hhigh
  rcases opened_cases service userId now drawn with
    ⟨error, hrun⟩ | ⟨user', expiry, -, -, -, hrun⟩
  · exfalso
    unfold opened issueSession at hrun
    rw [run_read_bind] at hrun
    simp only [huser, henabled, hsum, Bool.true_eq_false, if_false] at hrun
    exact nomatch (Prod.mk.inj hrun).1
  · rw [hrun]
    exact ⟨_, rfl, rfl⟩

theorem FailureStep.login {drawn : List UInt8} {before : IdentityService}
    {wrap : SessionGrant → Answer}
    (hwrap : ∀ grant, grantOf (.ok (wrap grant)) = some grant)
    (hlogin : service.loginUser operation = some other)
    (hcheck : ∀ userId, service.verification operation ≠ some (userId, false))
    (hguard : Guarded service operation) (htime : operation.time = some now)
    (huser : ∃ user, before.users[other]? = some user ∧ user.enabled = true)
    (hbefore : before.failures
      = (service.clearLapsedLock other now).failures.erase other) :
    FailureStep service operation
      ((IdentityService.opened other now drawn before).1.map wrap)
      (IdentityService.opened other now drawn before).2 userId now := by
  obtain ⟨hlow, hhigh⟩ := hguard.1 now htime
  obtain ⟨user, huser, henabled⟩ := huser
  obtain ⟨grant, hrun, hfailures⟩ :=
    opened_of drawn huser henabled hlow hhigh
  by_cases hsame : userId = other
  · subst hsame
    apply FailureStep.cleared htime (hcheck userId) _ hlogin
    · rw [hfailures, hbefore, Std.ExtTreeMap.getElem?_erase_self]
    · rw [hrun]
      exact (congrArg Option.isSome (hwrap grant)).trans rfl
  · apply FailureStep.kept (hcheck userId)
    left
    rw [hfailures, hbefore, getElem?_erase]
    have hother : compare other userId ≠ .eq := fun h =>
      hsame (Std.LawfulEqOrd.eq_of_compare h).symm
    rw [if_neg hother]
    exact clearLapsedLock_failures_of_ne service now hsame

omit [Cryptography] in
@[simp] theorem spent_failures (challengeToken userId : String)
    (user : UserRecord) (now : Int) :
    (service.spent challengeToken userId user now).failures
      = (service.clearLapsedLock userId now).failures.erase userId := by
  simp only [spent, clearFailures_failures, dropChallenge_failures, putUser_failures]

omit [Cryptography] in
theorem spent_user {challengeToken : String} (henabled : user.enabled = true) :
    ∃ stored, (service.spent challengeToken userId user now).users[userId]?
      = some stored ∧ stored.enabled = true := by
  refine ⟨user, ?_, henabled⟩
  rw [spent_users, Std.ExtTreeMap.getElem?_insert_self]

theorem Effect.failureStep (heffect : Effect service operation reply after)
    (hguard : Guarded service operation) (userId : String)
    (htime : ∀ time, operation.time = some time → time = now) :
    FailureStep service operation reply after userId now := by
  cases heffect with
  | refused hcheck =>
    exact .kept (not_failed_of_guarded hguard hcheck userId) (.inl rfl)
  | authorized => exact .kept (by simp [verification]) (.inl rfl)
  | entered hnew hcheck hsubject =>
    exact .kept (by simp [hcheck]) (.inl rfl)
  | dropped hcheck => exact .kept (by simp [hcheck]) (.inl rfl)
  | lapsed htime' hcheck =>
    obtain rfl := htime _ htime'
    exact .kept (hcheck userId) (clearLapsedLock_same ..)
  | failedPassword hunlocked hcheck =>
    obtain rfl := htime _ rfl
    exact .failed rfl hunlocked hcheck rfl
  | failedFactor htime' hunlocked hcheck =>
    obtain rfl := htime _ htime'
    exact .failed htime' hunlocked hcheck rfl
  | challenged huser hverifies hmfa hcheck =>
    obtain rfl := htime _ rfl
    exact .kept (hcheck userId) (clearLapsedLock_same ..)
  | loggedIn huser hverifies hcheck =>
    obtain rfl := htime _ rfl
    obtain ⟨user, hfound, -⟩ := (passwordVerifies_eq _ _).mp hverifies
    rw [filter_eq_some_iff] at hfound
    refine .login (fun _ => rfl) huser hcheck hguard rfl ⟨user, ?_, hfound.2⟩
      (clearFailures_failures ..)
    rw [clearFailures_users, clearLapsedLock_users]
    exact hfound.1
  | completedTotp hadmitted henrolled hstep =>
    obtain rfl := htime _ rfl
    obtain ⟨huser, henabled, -⟩ := of_enrolled henrolled
    refine .login (fun _ => rfl) (loginUser_of_admitted hadmitted) ?_ hguard
      rfl (spent_user henabled) (spent_failures ..)
    simp [verification, hadmitted, henrolled, hstep]
  | completedRecovery hadmitted hholder =>
    obtain rfl := htime _ rfl
    obtain ⟨huser, henabled, hcode⟩ := of_codeHolder hholder
    refine .login (fun _ => rfl) (loginUser_of_admitted hadmitted) ?_ hguard
      rfl (spent_user henabled) (spent_failures ..)
    simp [verification, hadmitted, huser, Option.filter, henabled, hcode]
  | secured hrewritten hversion hplain hcheck =>
    exact .kept (hcheck userId) (.inl rfl)
  | disabled hrewritten hversion =>
    exact .kept (by simp [verification]) (.inl rfl)
  | overflowed hrewritten hcheck => exact .kept (hcheck userId) (.inl rfl)
  | revoked => exact .kept (by simp [verification]) (.inl rfl)

/-! ## What counts against an account -/

omit [ContentHash] [Cryptography] in
theorem effective_zero (h : service.effective userId now = 0)
    (hlater : now ≤ later) : service.effective userId later = 0 := by
  unfold effective at *
  cases hfound : service.failures[userId]? with
  | none => rfl
  | some failures =>
    obtain ⟨count, expiry⟩ := failures
    cases expiry with
    | none => simpa [hfound] using h
    | some expiry =>
      simp only [hfound] at h
      by_cases hlive : now < expiry
      · rw [if_pos hlive] at h
        contradiction
      · exact if_neg (by omega)

omit [ContentHash] [Cryptography] in
theorem clearLapsedLock_getD (hunlocked : service.isLockedAt userId now = false) :
    (service.clearLapsedLock userId now).failures[userId]?.getD ⟨0, none⟩
      = ⟨service.effective userId now, none⟩ := by
  unfold isLockedAt at hunlocked
  unfold clearLapsedLock effective
  unfold lockExpiry at *
  cases hfound : service.failures[userId]? with
  | none => simp [hfound]
  | some failures =>
    obtain ⟨count, expiry⟩ := failures
    cases expiry with
    | none => simp [hfound]
    | some expiry =>
      simp only [hfound, bind_some, decide_eq_false_iff_not]
        at hunlocked
      simp only [bind_some, if_neg hunlocked,
        clearFailures_failures, Std.ExtTreeMap.getElem?_erase_self]
      rfl

omit [ContentHash] [Cryptography] in
theorem effective_lt (hrecord : service.LockedOrBelow userId)
    (hunlocked : service.isLockedAt userId now = false) :
    service.effective userId now < loginFailureLimit := by
  unfold isLockedAt lockExpiry at hunlocked
  unfold effective
  cases hfound : service.failures[userId]? with
  | none => exact Nat.succ_pos 4
  | some failures =>
    obtain ⟨count, expiry⟩ := failures
    cases expiry with
    | none => exact hrecord _ hfound rfl
    | some expiry =>
      simp only [hfound, bind_some, decide_eq_false_iff_not]
        at hunlocked
      simp only [if_neg hunlocked]
      exact Nat.succ_pos 4

omit [ContentHash] [Cryptography] in
theorem countFailure_below (hcount : count + 1 < loginFailureLimit) :
    countFailure ⟨count, none⟩ now = ⟨count + 1, none⟩ := by
  unfold loginFailureLimit at hcount
  have hmin : min 255 (count + 1) = count + 1 := by omega
  unfold countFailure
  simp only [hmin]
  rw [if_neg]
  unfold loginFailureLimit
  omega

omit [ContentHash] [Cryptography] in
theorem countFailure_locks (hcount : count + 1 = loginFailureLimit)
    (hlow : -2 ^ 63 ≤ now) (hhigh : now + lockoutSeconds < 2 ^ 63) :
    countFailure ⟨count, none⟩ now
      = ⟨loginFailureLimit, some (now + lockoutSeconds)⟩ := by
  unfold countFailure
  rw [hcount, checkedAdd_of_le hlow (by decide) hhigh]
  rfl

omit [ContentHash] [Cryptography] in
theorem countFailure_cases (hcount : count < loginFailureLimit)
    (hlow : -2 ^ 63 ≤ now) (hhigh : now + lockoutSeconds < 2 ^ 63) :
    (count + 1 < loginFailureLimit ∧ countFailure ⟨count, none⟩ now = ⟨count + 1, none⟩) ∨
      (count + 1 = loginFailureLimit ∧ countFailure ⟨count, none⟩ now
        = ⟨loginFailureLimit, some (now + lockoutSeconds)⟩) := by
  cases Nat.lt_or_ge (count + 1) loginFailureLimit with
  | inl hbelow => exact .inl ⟨hbelow, countFailure_below hbelow⟩
  | inr hreached =>
    have hlast : count + 1 = loginFailureLimit := by omega
    exact .inr ⟨hlast, countFailure_locks hlast hlow hhigh⟩

/-! ## Watching one account -/

structure Watched (operations : List Operation) (userId : String)
    (clock : Int) : Prop where
  record : (run operations).LockedOrBelow userId
  failed : ∀ time ∈ failureTimes operations userId, time ≤ clock
  loggedIn : ∀ time ∈ loginTimes operations userId, time ≤ clock
  /-- The failures of a window that is still open are on record. -/
  counted : ∀ now start, clock ≤ now → start ≤ now → now < start + lockoutSeconds →
    (∀ time ∈ loginTimes operations userId, time < start) →
    ((failureTimes operations userId).filter (start ≤ ·)).length
      ≤ (run operations).effective userId now
  bounded : ∀ start, (∀ time ∈ loginTimes operations userId,
      ¬(start ≤ time ∧ time < start + lockoutSeconds)) →
    failuresFrom operations userId start ≤ loginFailureLimit

theorem failureTimes_snoc (operations : List Operation)
    (operation : Operation) (userId : String) :
    failureTimes (operations ++ [operation]) userId = failureTimes operations userId
        ++ (failureTime userId (run operations, operation)).toList := by
  rw [failureTimes, visited_snoc, filterMap_append]
  congr 1

theorem loginTimes_snoc (operations : List Operation)
    (operation : Operation) (userId : String) :
    loginTimes (operations ++ [operation]) userId = loginTimes operations userId
        ++ (loginTime userId (run operations, operation)).toList := by
  rw [loginTimes, visited_snoc, filterMap_append]
  congr 1

theorem failureTime_eq (htime : ∀ time, operation.time = some time → time = now) :
    failureTime userId (run operations, operation) = none ∨
      failureTime userId (run operations, operation) = some now := by
  unfold failureTime
  split
  · cases hop : operation.time with
    | none => exact .inl rfl
    | some time => exact .inr (congrArg some (htime time hop))
  · exact .inl rfl

theorem mem_loginTimes_snoc (htime : ∀ time, operation.time = some time → time = now)
    (h : time ∈ loginTimes (operations ++ [operation]) userId) :
    time ∈ loginTimes operations userId ∨ time = now := by
  rw [loginTimes_snoc, mem_append] at h
  refine h.imp_right fun hlast => ?_
  rw [Option.mem_toList, loginTime] at hlast
  split at hlast
  · exact htime time hlast
  · contradiction

theorem loginTimes_subset (h : time ∈ loginTimes operations userId) :
    time ∈ loginTimes (operations ++ [operation]) userId := by
  rw [loginTimes_snoc]
  exact mem_append_left _ h

theorem failuresFrom_open {start : Int} (hopen : now < start + lockoutSeconds)
    (hfailed : ∀ time ∈ failureTimes operations userId, time ≤ now) :
    failuresFrom operations userId start
      = ((failureTimes operations userId).filter (start ≤ ·)).length := by
  unfold failuresFrom
  congr 1
  apply List.filter_congr
  intro time htime
  have hbefore := hfailed time htime
  have hend : time < start + lockoutSeconds := by omega
  simp [hend]

theorem Watched.unfailed (hwatched : Watched operations userId clock)
    (hclock : clock ≤ now) (htime : ∀ time, operation.time = some time → time = now)
    (hcheck : (run operations).verification operation ≠ some (userId, false))
    (hrecord : ((run operations).after operation).LockedOrBelow userId)
    (hcounted : ∀ later start, now ≤ later → start ≤ later →
      later < start + lockoutSeconds →
      (∀ time ∈ loginTimes (operations ++ [operation]) userId, time < start) →
      ((failureTimes operations userId).filter (start ≤ ·)).length
        ≤ ((run operations).after operation).effective userId later) :
    Watched (operations ++ [operation]) userId now := by
  have hnone : failureTime userId (run operations, operation) = none :=
    if_neg hcheck
  have hsame : failureTimes (operations ++ [operation]) userId
      = failureTimes operations userId := by
    rw [failureTimes_snoc, hnone, Option.toList_none, append_nil]
  constructor
  · rw [run_snoc]
    exact hrecord
  · intro time hmem
    rw [hsame] at hmem
    exact (hwatched.failed time hmem).trans hclock
  · intro time hmem
    cases mem_loginTimes_snoc htime hmem with
    | inl hbefore => exact (hwatched.loggedIn time hbefore).trans hclock
    | inr hnow => exact hnow.le
  · intro later start hlater hstart hopen hlogins
    rw [hsame, run_snoc]
    exact hcounted later start hlater hstart hopen hlogins
  · intro start hlogins
    have hbound := hwatched.bounded start fun time hmem =>
      hlogins time (loginTimes_subset hmem)
    unfold failuresFrom at *
    rw [hsame]
    exact hbound

omit [ContentHash] [Cryptography] in
theorem LockedOrBelow.congr (hrecord : service.LockedOrBelow userId)
    (h : after.failures[userId]? = service.failures[userId]? ∨
      after.failures[userId]? = none) : after.LockedOrBelow userId := by
  intro failures hfound
  rcases h with h | h
  · rw [h] at hfound
    exact hrecord failures hfound
  · rw [h] at hfound
    contradiction

omit [ContentHash] [Cryptography] in
theorem effective_of_none (now : Int) (h : service.failures[userId]? = none) :
    service.effective userId now = 0 := by
  unfold effective
  rw [h]

omit [ContentHash] [Cryptography] in
theorem effective_congr (now : Int)
    (h : after.failures[userId]? = service.failures[userId]?) :
    after.effective userId now = service.effective userId now := by
  unfold effective
  rw [h]

theorem Watched.kept {operations : List Operation} {userId : String}
    {clock now : Int} (hwatched : Watched operations userId clock)
    (hclock : clock ≤ now) (htime : ∀ time, operation.time = some time → time = now)
    (hcheck : (run operations).verification operation ≠ some (userId, false))
    (hsame : ((run operations).after operation).failures[userId]?
        = (run operations).failures[userId]? ∨
      ((run operations).after operation).failures[userId]? = none ∧
        (run operations).effective userId now = 0) :
    Watched (operations ++ [operation]) userId now := by
  apply hwatched.unfailed hclock htime hcheck
  · exact hwatched.record.congr (hsame.imp_right (·.1))
  · intro later start hlater hstart hopen hlogins
    have hbefore := hwatched.counted later start (hclock.trans hlater) hstart
      hopen fun time hmem => hlogins time (loginTimes_subset hmem)
    rcases hsame with hsame | ⟨hnone, hzero⟩
    · rw [effective_congr later hsame]
      exact hbefore
    · rw [effective_of_none later hnone]
      rwa [effective_zero hzero hlater] at hbefore

theorem Watched.cleared (hwatched : Watched operations userId clock)
    (hclock : clock ≤ now) (htime : operation.time = some now)
    (hcheck : (run operations).verification operation ≠ some (userId, false))
    (hgrant : (grantOf ((run operations).answer operation)).isSome = true)
    (hlogin : (run operations).loginUser operation = some userId)
    (hcleared : ((run operations).after operation).failures[userId]? = none) :
    Watched (operations ++ [operation]) userId now := by
  have hnow : now ∈ loginTimes (operations ++ [operation]) userId := by
    rw [loginTimes_snoc, mem_append, loginTime, if_pos ⟨hgrant, hlogin⟩, htime]
    exact .inr mem_cons_self
  apply hwatched.unfailed hclock _ hcheck
  · exact hwatched.record.congr (.inr hcleared)
  · intro later start hlater hstart hopen hlogins
    have hafter := hlogins now hnow
    have hempty : (failureTimes operations userId).filter (start ≤ ·)
        = [] := by
      rw [List.filter_eq_nil_iff]
      intro time hmem
      have hbefore := hwatched.failed time hmem
      simp only [decide_eq_true_eq]
      omega
    rw [hempty]
    exact Nat.zero_le _
  · intro time h
    rw [htime] at h
    exact (Option.some.inj h).symm

omit [ContentHash] [Cryptography] in
theorem effective_countFailure (hcount : count < loginFailureLimit)
    (hlow : -2 ^ 63 ≤ now) (hhigh : now + lockoutSeconds < 2 ^ 63)
    (hcounted : after.failures[userId]?
      = some (countFailure ⟨count, none⟩ now)) (hlater : later < now + lockoutSeconds) :
    after.effective userId later = count + 1 := by
  unfold effective
  rw [hcounted]
  rcases countFailure_cases hcount hlow hhigh with ⟨-, h⟩ | ⟨hlast, h⟩
  · rw [h]
  · simp only [h, if_pos hlater, hlast]

omit [ContentHash] [Cryptography] in
theorem lockedOrBelow_countFailure (hcount : count < loginFailureLimit)
    (hlow : -2 ^ 63 ≤ now) (hhigh : now + lockoutSeconds < 2 ^ 63)
    (hcounted : after.failures[userId]?
      = some (countFailure ⟨count, none⟩ now)) : after.LockedOrBelow userId := by
  intro failures hfound hopen
  rw [hcounted] at hfound
  obtain rfl := Option.some.inj hfound
  rcases countFailure_cases hcount hlow hhigh with ⟨hbelow, h⟩ | ⟨-, h⟩
  · rw [h]
    exact hbelow
  · rw [h] at hopen
    contradiction

theorem Watched.failedAgain (hwatched : Watched operations userId clock)
    (hclock : clock ≤ now) (htime : ∀ time, operation.time = some time → time = now)
    (hlow : -2 ^ 63 ≤ now) (hhigh : now + lockoutSeconds < 2 ^ 63)
    (hunlocked : (run operations).isLockedAt userId now = false)
    (hcounted : ((run operations).after operation).failures[userId]? = some (countFailure
        (((run operations).clearLapsedLock userId now).failures[userId]?.getD
          ⟨0, none⟩) now)) : Watched (operations ++ [operation]) userId now := by
  have hbelow := effective_lt hwatched.record hunlocked
  rw [clearLapsedLock_getD hunlocked] at hcounted
  have hlist : ∃ last, failureTimes (operations ++ [operation]) userId
      = failureTimes operations userId ++ last ∧
        (last = [] ∨ last = [now]) := by
    refine ⟨_, failureTimes_snoc .., ?_⟩
    cases failureTime_eq htime with
    | inl h => exact .inl (by rw [h]; rfl)
    | inr h => exact .inr (by rw [h]; rfl)
  obtain ⟨last, hlist, hlast⟩ := hlist
  have hfailed : ∀ time ∈ failureTimes (operations ++ [operation]) userId,
      time ≤ now := by
    intro time hmem
    rw [hlist, mem_append] at hmem
    rcases hmem with hmem | hmem
    · exact (hwatched.failed time hmem).trans hclock
    · rcases hlast with rfl | rfl
      · contradiction
      · exact (mem_singleton.mp hmem).le
  -- a window that is open now has room for this failure
  have hopen : ∀ start, start ≤ now → now < start + lockoutSeconds →
      (∀ time ∈ loginTimes operations userId, time < start) →
      ((failureTimes (operations ++ [operation]) userId).filter (start ≤ ·)).length
        ≤ (run operations).effective userId now + 1 := by
    intro start hstart hend hlogins
    have hold := hwatched.counted now start hclock hstart hend hlogins
    rw [hlist, filter_append, length_append]
    have hone : (last.filter (start ≤ ·)).length ≤ 1 := by
      rcases hlast with rfl | rfl
      · exact Nat.zero_le _
      · exact List.length_filter_le _ _
    omega
  constructor
  · rw [run_snoc]
    exact lockedOrBelow_countFailure hbelow hlow hhigh hcounted
  · exact hfailed
  · intro time hmem
    cases mem_loginTimes_snoc htime hmem with
    | inl hbefore => exact (hwatched.loggedIn time hbefore).trans hclock
    | inr hnow => exact hnow.le
  · intro later start hlater hstart hend hlogins
    rw [run_snoc]
    by_cases hwithin : start ≤ now
    · rw [effective_countFailure hbelow hlow hhigh hcounted (by omega)]
      exact hopen start hwithin (by omega) fun time hmem =>
        hlogins time (loginTimes_subset hmem)
    · have hempty : (failureTimes (operations ++ [operation]) userId).filter
          (start ≤ ·) = [] := by
        rw [List.filter_eq_nil_iff]
        intro time hmem
        have hbefore := hfailed time hmem
        simp only [decide_eq_true_eq]
        omega
      rw [hempty]
      exact Nat.zero_le _
  · intro start hlogins
    have hlogins' : ∀ time ∈ loginTimes operations userId,
        ¬(start ≤ time ∧ time < start + lockoutSeconds) :=
      fun time hmem => hlogins time (loginTimes_subset hmem)
    by_cases hwithin : start ≤ now ∧ now < start + lockoutSeconds
    · rw [failuresFrom_open hwithin.2 hfailed]
      have hroom := hopen start hwithin.1 hwithin.2 fun time hmem => by
        have hbefore := hwatched.loggedIn time hmem
        have hout := hlogins' time hmem
        omega
      omega
    · have hbound := hwatched.bounded start hlogins'
      unfold failuresFrom at *
      rw [hlist, filter_append, length_append]
      have hnone : last.filter (fun time =>
          decide (start ≤ time ∧ time < start + lockoutSeconds)) = [] := by
        rcases hlast with rfl | rfl
        · rfl
        · rw [List.filter_eq_nil_iff]
          intro time hmem
          rw [mem_singleton.mp hmem]
          simpa using hwithin
      rw [hnone]
      exact hbound

/-! ## Runs -/

theorem Watched.step (hwatched : Watched operations userId clock)
    (hguard : Guarded (run operations) operation) (hclock : clock ≤ now)
    (htime : ∀ time, operation.time = some time → time = now) :
    Watched (operations ++ [operation]) userId now := by
  have hstep := (effect (run_keyed operations) operation).failureStep hguard
    userId htime
  cases hstep with
  | kept hcheck hsame => exact hwatched.kept hclock htime hcheck hsame
  | counted hnow hunlocked hcounted =>
    obtain ⟨hlow, hhigh⟩ := hguard.1 now hnow
    exact hwatched.failedAgain hclock htime hlow hhigh hunlocked hcounted
  | cleared hnow hcheck hgrant hlogin hcleared =>
    exact hwatched.cleared hclock hnow hcheck hgrant hlogin hcleared

def AllGuarded (operations : List Operation) : Prop :=
  ∀ service operation, (service, operation) ∈ visited empty operations →
    Guarded service operation

theorem allGuarded_snoc : AllGuarded (operations ++ [operation]) ↔
      AllGuarded operations ∧ Guarded (run operations) operation :=
  forall_visited_snoc Guarded

theorem guarded_of_login (hlogin : operation.changesPassword = false)
    (htime : ∀ now, operation.time = some now →
      -2 ^ 63 ≤ now ∧ now + lockoutSeconds < 2 ^ 63) : Guarded service operation := by
  refine ⟨htime, fun h => ?_⟩
  rw [hlogin] at h
  contradiction

omit [Cryptography] in
theorem Ordered.snoc {operations : List Operation}
    (h : Ordered (operations ++ [operation])) :
    Ordered operations ∧ ∀ time, operation.time = some time →
      ∀ earlier ∈ operations.filterMap Operation.time, earlier ≤ time := by
  unfold Ordered at *
  rw [filterMap_append, pairwise_append] at h
  refine ⟨h.1, fun time htime earlier hmem => ?_⟩
  exact h.2.2 earlier hmem time (by simp [htime])

theorem run_watched (hordered : Ordered operations)
    (hguarded : AllGuarded operations) (userId : String)
    : ∃ clock, Watched operations userId clock ∧
      (clock = -2 ^ 63 ∨ clock ∈ operations.filterMap Operation.time) := by
  induction operations using List.reverseRec with
  | nil =>
    refine ⟨-2 ^ 63, ?_, .inl rfl⟩
    constructor
    · intro failures hfound
      simp [run, empty] at hfound
    · exact List.forall_mem_nil _
    · exact List.forall_mem_nil _
    · intro now start _ _ _ _
      exact Nat.zero_le _
    · intro start _
      exact Nat.zero_le _
  | append_singleton operations operation ih =>
    obtain ⟨hordered, hlatest⟩ := hordered.snoc
    obtain ⟨hguarded, hguard⟩ := allGuarded_snoc.mp hguarded
    obtain ⟨clock, hwatched, hclock⟩ := ih hordered hguarded
    cases htime : operation.time with
    | none =>
      refine ⟨clock, hwatched.step hguard le_rfl ?_, hclock.imp_right ?_⟩
      · intro time h
        rw [htime] at h
        contradiction
      · intro hmem
        rw [filterMap_append]
        exact mem_append_left _ hmem
    | some now =>
      have hle : clock ≤ now := by
        cases hclock with
        | inl hfirst =>
          rw [hfirst]
          exact (hguard.1 now htime).1
        | inr hmem => exact hlatest now htime clock hmem
      refine ⟨now, hwatched.step hguard hle ?_, .inr ?_⟩
      · intro time h
        rw [htime] at h
        exact (Option.some.inj h).symm
      · rw [filterMap_append]
        simp [htime]

theorem verification_unlocked {passed : Bool}
    (h : service.verification operation = some (userId, passed))
    (hlogin : operation.changesPassword = false) (htime : operation.time = some now) :
    service.isLockedAt userId now = false := by
  cases operation with
  | beginLogin tenantId email password time drawn =>
    obtain rfl := Option.some.inj htime
    simp only [verification, bind_eq_bind,
      bind_eq_some_iff] at h
    obtain ⟨found, -, user, -, h⟩ := h
    split at h
    · contradiction
    · rename_i hunlocked
      cases h
      exact not_eq_true _ ▸ hunlocked
  | completeTotp challengeToken code time drawn =>
    obtain rfl := Option.some.inj htime
    simp only [verification, bind_eq_bind,
      bind_eq_some_iff] at h
    obtain ⟨found, hadmitted, entry, _, h⟩ := h
    cases h
    exact (admitted_unlocked hadmitted).choose_spec.2.2
  | completeRecoveryCode challengeToken recoveryCode time drawn =>
    obtain rfl := Option.some.inj htime
    simp only [verification, bind_eq_bind,
      bind_eq_some_iff] at h
    obtain ⟨found, hadmitted, entry, _, h⟩ := h
    cases h
    exact (admitted_unlocked hadmitted).choose_spec.2.2
  | changePassword token tenantId current new time salt => contradiction
  | _ => simp [verification] at h

end IdentityService

end

namespace LockoutRun

open IdentityService SessionRun

attribute [local instance] recordedDigest recordedCryptography

def passwordChange (currentPassword : String) : Operation :=
  .changePassword (randomToken drawn) "tenant.acme" currentPassword
    "Other-Horse-8!" 1001 "salt"

theorem firstLogin_guarded : AllGuarded firstLogin := by
  have hsplit : firstLogin = [] ++ [firstLogin.head (by simp [firstLogin])]
      ++ [firstLogin.getLast (by simp [firstLogin])] := rfl
  rw [hsplit, allGuarded_snoc, allGuarded_snoc]
  refine ⟨⟨by simp [AllGuarded, visited], guarded_of_login rfl fun now h => ?_⟩,
    guarded_of_login rfl fun now h => ?_⟩
  · cases h
  · obtain rfl := Option.some.inj h
    decide

theorem rightChange_guarded : Guarded (run firstLogin)
    (passwordChange "Correct-Horse-7!") := by
  have hcheck : (run firstLogin).verification
      (passwordChange "Correct-Horse-7!") = some ("user.alice", true) := by
    decide +kernel
  refine ⟨fun now h => ?_, fun _ userId passed now h htime => ?_⟩
  · obtain rfl := Option.some.inj h
    decide
  · rw [hcheck] at h
    obtain ⟨rfl, rfl⟩ := Prod.mk.inj (Option.some.inj h)
    obtain rfl := Option.some.inj htime
    exact ⟨rfl, by decide +kernel⟩

def guesses : List Operation :=
  firstLogin ++ List.replicate 6 (passwordChange "Wrong-Horse-7!")

end LockoutRun

end Follon.Identity
