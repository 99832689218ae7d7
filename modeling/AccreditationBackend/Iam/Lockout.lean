import AccreditationBackend.Foundation.Pacing
import AccreditationBackend.Iam.Effects

/-! Logins in sequential runs: the failures that count, and the lock that they set. -/

set_option autoImplicit false

namespace AccreditationBackend

open Foundation

def AuthConfig.lockoutDuration (config : AuthConfig) : Int := config.lockoutDurationMinutes * 60000

/-! ## One login -/

section Login

variable (services : AuthServices) (ambient : AuthAmbient) (email password : String)
  (context : LoginContext)
  {db : Accounts} {user : User}

/-- The end of the lock, when the account is locked at the moment of the login. -/
def User.lockAt (now : Time) (u : User) : Option Time := u.lockedUntil.filter (now < ·)

theorem refuseLogin_run {A : Type} (reason : String) (found : Option User) (why : DomainError)
    (db : Accounts) :
    (refuseLogin email reason context found why : AuthOp A).run handleAccount db =
      (.error (.failed (.domain why)), handleAccount.after
        (.publish (.loginFailed email reason context.ipAddress context.userAgent (found.map (·.id)))) db) := by
  unfold refuseLogin
  rw [announce_bind, Proc.run, handle_publish]
  rfl

theorem publish_row (event : UserEvent) (db : Accounts) (id : Uuid) :
    (handleAccount.after (.publish event) db).userById id = db.userById id := user_kept rfl db

/-- The counter and the lock after one more failure at this instant. -/
def User.failOnce (config : AuthConfig) (now : Time) (u : User) : User :=
  if u.failedLoginAttempts + 1 < config.maxFailedLoginAttempts then
    { u with failedLoginAttempts := u.failedLoginAttempts + 1 }
  else
    { u with failedLoginAttempts := u.failedLoginAttempts + 1, lockedUntil := some (now + config.lockoutDuration) }

theorem recordFailedLogin_run (config : AuthConfig) {id : Uuid} (found : db.userById id = some user) :
    ∃ r t, (recordFailedLogin config ambient id).run handleAccount db = (.ok r, t) ∧
      t.userById id = some (user.failOnce config (ambient.clock 1)) := by
  unfold recordFailedLogin
  have counted := row_updateUser found { failedLoginAttempts := some (.increment 1) }
  rw [writeAccount_bind, Proc.run, handle_updateUser found]
  dsimp only
  split
  next below =>
    exact ⟨_, _, rfl, counted.trans (congrArg some (if_pos below).symm)⟩
  next reached =>
    rw [writeAccount_bind, Proc.run, handle_updateUser counted]
    exact ⟨_, _, rfl, (row_updateUser counted _).trans (congrArg some (if_neg reached).symm)⟩

def loggedIn (now : Time) (u : User) : User :=
  { u with failedLoginAttempts := 0, lockedUntil := none, lastLoginAt := some now }

theorem login_locked (found : db.userByEmail (services.toLowerCase email) = some user) {until_ : Time}
    (locked : user.lockAt (ambient.clock 0) = some until_) :
    ∃ t, (login services ambient email password context).run handleAccount db =
        (.error (.failed (.domain (accountLocked until_))), t) ∧ t.userById user.id = some user := by
  unfold login
  rw [Proc.query_bind, Proc.run, found, Option.bind_some]
  rw [User.lockAt] at locked
  rw [locked]
  exact ⟨_, refuseLogin_run _ _ _ _ _ _, (publish_row _ db _).trans (userByEmail_id found)⟩

theorem login_wrong (found : db.userByEmail (services.toLowerCase email) = some user)
    (free : user.lockAt (ambient.clock 0) = none)
    (wrong : services.verifyPassword user.passwordHash password = false) :
    ∃ t, (login services ambient email password context).run handleAccount db =
        (.error (.failed (.domain invalidCredentials)), t) ∧
      t.userById user.id = some (user.failOnce services.config (ambient.clock 1)) := by
  unfold login
  rw [Proc.query_bind, Proc.run, found, Option.bind_some]
  rw [User.lockAt] at free
  rw [free]
  dsimp only
  rw [Option.filter_some, wrong]
  obtain ⟨r, t, failed, row⟩ := recordFailedLogin_run ambient services.config (userByEmail_id found)
  simp only [Bool.false_eq_true, if_false]
  rw [Proc.run_bind, failed]
  exact ⟨_, refuseLogin_run _ _ _ _ _ _, (publish_row _ t _).trans row⟩

theorem login_inactive (found : db.userByEmail (services.toLowerCase email) = some user)
    (free : user.lockAt (ambient.clock 0) = none)
    (right : services.verifyPassword user.passwordHash password = true)
    (inactive : user.status ≠ .active) :
    ∃ t, (login services ambient email password context).run handleAccount db =
        (.error (.failed (.domain accountInactive)), t) ∧ t.userById user.id = some user := by
  unfold login
  rw [Proc.query_bind, Proc.run, found, Option.bind_some]
  rw [User.lockAt] at free
  rw [free]
  dsimp only
  rw [Option.filter_some, right, if_pos rfl]
  dsimp only
  rw [if_pos inactive]
  exact ⟨_, refuseLogin_run _ _ _ _ _ _, (publish_row _ db _).trans (userByEmail_id found)⟩

/-- The database refuses a token for its keys alone. -/
theorem createRefreshToken_refusal {row : RefreshToken} {t : AccountTables} {reason : Failure}
    (applied : t.apply (.createRefreshToken row) = .error reason) (why : DomainError) :
    reason ≠ .domain why := by
  rintro rfl
  simp only [AccountTables.apply, require, orFail, bind, Except.bind, pure, Except.pure] at applied
  split at applied <;> grind

/-- What follows an accepted password. -/
def openSession (user : User) : AuthOp (AuthTokens × AuthenticatedUser) := do
  let tokens ← issueTokens services ambient user context
  let authenticated ← toAuthenticatedUser user
  return (tokens, authenticated)

/-- It can fail in the database, but refuses nothing. -/
theorem openSession_not_refused (user : User) (db : Accounts) (why : DomainError) :
    ((openSession services ambient context user).run handleAccount db).1 ≠ .error
      (.failed (.domain why)) := by
  unfold openSession issueTokens
  rw [writeAccount_bind, Proc.exec_bind, Proc.run]
  split
  next reply t created =>
    rw [Proc.pure_eq, Proc.done_bind, toAuthenticatedUser]
    cases user.kind <;> exact fun impossible => by cases impossible
  next other failed =>
    obtain ⟨reason, rfl, applied⟩ := handleAccount_error failed
    intro same
    cases same
    exact createRefreshToken_refusal applied why rfl

theorem openSession_keeps_users (user : User) (id : Uuid) :
    (openSession services ambient context user).Issues fun stmt : AccountStatement =>
      stmt.writesUser id = false := by
  refine Proc.issues_bind _ _ _ (issueTokens_issues services ambient _ _ fun _ => rfl) fun _ => ?_
  refine Proc.issues_bind _ _ _ (toAuthenticatedUser_issues _) fun _ => ?_
  trivial

/-- An accepted login clears the account, and then opens the session. -/
theorem login_opens (found : db.userByEmail (services.toLowerCase email) = some user)
    (free : user.lockAt (ambient.clock 0) = none)
    (right : services.verifyPassword user.passwordHash password = true)
    (active : user.status = .active) :
    ∃ t, (login services ambient email password context).run handleAccount db =
        (openSession services ambient context user).run handleAccount t ∧
      t.userById user.id = some (loggedIn (ambient.clock 1) user) ∧
      t.refreshTokens = db.refreshTokens := by
  have present := userByEmail_id found
  let data : UserData :=
    { failedLoginAttempts := some (.set 0), lockedUntil := some none, lastLoginAt := some (ambient.clock 1) }
  have cleared := row_updateUser present data
  have tokens :=
    congrArg AccountTables.refreshTokens (account_after_applied (apply_updateUser present data))
  unfold login
  rw [Proc.query_bind, Proc.run, found, Option.bind_some]
  rw [User.lockAt] at free
  rw [free]
  dsimp only
  rw [Option.filter_some, right, if_pos rfl]
  dsimp only
  rw [if_neg (by simpa using active)]
  unfold recordSuccessfulLogin
  rw [writeAccount_bind, Proc.exec_bind, Proc.run, handle_updateUser present]
  exact ⟨_, rfl, cleared, tokens⟩

theorem login_accepted (found : db.userByEmail (services.toLowerCase email) = some user)
    (free : user.lockAt (ambient.clock 0) = none)
    (right : services.verifyPassword user.passwordHash password = true)
    (active : user.status = .active) :
    ∃ r t, (login services ambient email password context).run handleAccount db = (r, t) ∧
      (∀ why, r ≠ .error (.failed (.domain why))) ∧
        t.userById user.id = some (loggedIn (ambient.clock 1) user) := by
  obtain ⟨s, ran, cleared, _⟩ :=
    login_opens services ambient email password context found free right active
  refine ⟨_, _, ran, openSession_not_refused services ambient context user s, ?_⟩
  exact (run_keeps_user (openSession_keeps_users services ambient context user user.id) _).trans cleared

end Login

/-! ## The operations that lift a lock -/

section Lifting

variable {db : Accounts} {user : User} {id : Uuid}

/-- A reactivation clears the counter and the lock, any other status leaves both. -/
def User.withStatus (status : UserStatus) (u : User) : User :=
  if status = .active then { u with status, failedLoginAttempts := 0, lockedUntil := none }
  else { u with status }

theorem updateStatus_run (found : db.userById id = some user) (status : UserStatus) (actorId : Uuid) :
    ∃ r t, (updateStatus id status actorId).run handleAccount db = (r, t) ∧
      (r.isOk = true ∧ t.userById id = some (user.withStatus status) ∨ r.isOk = false ∧
        t.userById id = some user) := by
  simp only [updateStatus, findById, Proc.query_bind, Proc.run, found, orRefuse_some_bind]
  split
  · exact ⟨_, _, rfl, .inr ⟨rfl, found⟩⟩
  · rw [writeAccount_bind, Proc.run, handle_updateUser found]
    dsimp only
    rw [announce_bind, Proc.run, handle_publish]
    refine ⟨_, _, rfl, .inl ⟨rfl, (publish_row _ _ _).trans ((row_updateUser found _).trans ?_)⟩⟩
    unfold User.withStatus
    split <;> rfl

theorem resetPassword_run (services : AuthServices) (ambient : AuthAmbient)
    (found : db.userById id = some user) (newPassword : String) (actorId : Uuid) :
    ∃ t, (resetPassword services ambient id newPassword actorId).run handleAccount db = (.ok (), t) ∧
      ∃ u, t.userById id = some u ∧ u.failedLoginAttempts = 0 ∧ u.lockedUntil = none := by
  have applied := apply_resetPassword found
    { passwordHash := some (services.hashPassword newPassword ambient.salt), failedLoginAttempts := some (.set 0),
      lockedUntil := some none } (ambient.clock 0)
  simp only [resetPassword, findById, Proc.query_bind, Proc.run, found, orRefuse_some_bind]
  rw [writeAccount_bind, Proc.run, handleAccount_replies applied]
  exact ⟨_, rfl, _, (publish_row _ _ _).trans (row_resetPassword found _ _), rfl, rfl⟩

end Lifting

/-! ## Runs -/

section Runs

variable (services : AuthServices) (userId : Uuid)

/-- The login is one on this account. -/
def attempts (db : Accounts) (email : String) : Bool :=
  (db.userByEmail (services.toLowerCase email)).any (·.id == userId)

/-- The instants of the failures counted since the last reset, the latest first,
once one more operation has been taken. A login that is refused for another
reason counts for nothing, and one that is not refused is a reset. -/
def tally (db : Accounts) (op : AccountOperation) (past : List Time) : List Time :=
  match op with
  | .login ambient email _ _ =>
      if attempts services userId db email then
        match accountOutcome services db op with
        | .error (.failed (.domain why)) =>
            if why = invalidCredentials then ambient.clock 0 :: past else past
        | _ => []
      else past
  | .updateStatus id status _ =>
      if id = userId ∧ status = .active ∧ (accountOutcome services db op).isOk then [] else past
  | .resetPassword _ id _ _ => if id = userId ∧ (accountOutcome services db op).isOk then [] else past
  | _ => past

def performTallied (state : Accounts × List Time) (op : AccountOperation) : Accounts × List Time :=
  (performAccount services state.1 op, tally services userId state.1 op state.2)

/-- The failures counted since the last reset of a run. -/
def counted (start : Accounts) (ops : List AccountOperation) : List Time :=
  (runFrom (performTallied services userId) (start, []) ops).2

theorem performTallied_accounts (state : Accounts × List Time) (ops : List AccountOperation) :
    (runFrom (performTallied services userId) state ops).1 =
      runFrom (performAccount services) state.1 ops :=
  runFrom_projected (fun _ _ => rfl) state ops

def refusedWith (code : String) : Except AuthFailure AccountReply → Bool
  | .error (.failed (.domain why)) => why.code == code
  | _ => false

def AccountOperation.Instantaneous : AccountOperation → Prop
  | .login ambient _ _ _ => ∀ k, ambient.clock k = ambient.clock 0
  | _ => True

/-- The end of the lock after these failures, the latest first. -/
def lockAfter (config : AuthConfig) (past : List Time) : Option Time :=
  if config.maxFailedLoginAttempts ≤ past.length then
    past.head?.map (· + config.lockoutDuration)
  else none

/-- The row of the user agrees with the failures counted. -/
structure Tallied (config : AuthConfig) (userId : Uuid) (past : List Time) (db : Accounts) : Prop where
  row : ∃ u, db.userById userId = some u ∧ u.failedLoginAttempts = past.length ∧
    u.lockedUntil = lockAfter config past
  paced : Paced config.maxFailedLoginAttempts config.lockoutDuration past

variable {services userId} {config : AuthConfig} {past : List Time} {db db' : Accounts}
  {op : AccountOperation}

theorem Tallied.kept (tallied : Tallied config userId past db)
    (same : db'.userById userId = db.userById userId) :
    Tallied config userId past db' := ⟨by simpa only [same] using tallied.row, tallied.paced⟩

theorem Tallied.cleared {u : User} (row : db.userById userId = some u) (zero : u.failedLoginAttempts = 0)
    (free : u.lockedUntil = none) : Tallied config userId [] db := by
  refine ⟨⟨u, row, zero, ?_⟩, .nil⟩
  rw [free, lockAfter]
  split <;> rfl

theorem lockAfter_live {now until_ : Time} :
    lockAfter config past = some until_ ∧ now < until_ ↔
      config.maxFailedLoginAttempts ≤ past.length ∧
      ∃ last ∈ past.head?, until_ = last + config.lockoutDuration ∧
        now < last + config.lockoutDuration := by
  unfold lockAfter
  split
  next full =>
    cases past.head? with
    | none => simp
    | some last =>
        simp only [Option.map_some, Option.some.injEq, full, true_and, Option.mem_def, exists_eq_left']
        exact ⟨fun both => ⟨both.1.symm, both.1 ▸ both.2⟩, fun both => ⟨both.1.symm, both.1 ▸ both.2⟩⟩
  next short => simp [short]

/-- One more counted failure, of an account that was not locked at its moment. -/
theorem Tallied.failed (tallied : Tallied config userId past db) {u : User} {now : Time}
    (row : db.userById userId = some u) (free : u.lockAt now = none)
    (failed : db'.userById userId = some (u.failOnce config now)) :
    Tallied config userId (now :: past) db' := by
  obtain ⟨u', row', counter, lock⟩ := tallied.row
  cases row.symm.trans row'
  refine ⟨⟨_, failed, ?_⟩, tallied.paced.cons fun full last latest => ?_⟩
  · unfold User.failOnce
    split
    next below =>
      refine ⟨by simp [counter], ?_⟩
      rw [lock, lockAfter, lockAfter, if_neg (by omega), if_neg (by simp; omega)]
    next reached =>
      refine ⟨by simp [counter], ?_⟩
      rw [lockAfter, if_pos (by simp; omega)]
      rfl
  · by_contra early
    rw [User.lockAt, lock] at free
    have locked :
        lockAfter config past = some (last + config.lockoutDuration) ∧
        now < last + config.lockoutDuration :=
      lockAfter_live.mpr ⟨full, last, latest, rfl, Int.not_le.mp early⟩
    rw [locked.1, Option.filter_some, if_pos (by simpa using locked.2)] at free
    cases free

theorem outcome_of_run {A : Type} {p : AuthOp A} {f : A → AccountReply} {r : Except AuthFailure A}
    {t : Accounts} (services : AuthServices) (op : AccountOperation)
    (calls : op.execute services = p >>= fun value => .done (f value))
    (ran : p.run handleAccount db = (r, t)) :
    accountOutcome services db op = r.map f ∧ performAccount services db op = t := by
  rw [accountOutcome, performAccount, calls, Proc.run_map, ran]
  exact ⟨rfl, rfl⟩

theorem login_outcome {ambient : AuthAmbient} {email password : String} {context : LoginContext}
    {r : Except AuthFailure (AuthTokens × AuthenticatedUser)} {t : Accounts}
    (ran : (login services ambient email password context).run handleAccount db = (r, t)) :
    accountOutcome services db (.login ambient email password context) =
      r.map (fun issued => .session issued.1 issued.2) ∧
      performAccount services db (.login ambient email password context) = t :=
  outcome_of_run services (.login ambient email password context) rfl ran

theorem login_elsewhere {ambient : AuthAmbient} {email password : String} {context : LoginContext}
    (other : attempts services userId db email = false) :
    (performAccount services db (.login ambient email password context)).userById userId =
      db.userById userId := by
  obtain ⟨rest, parts, issues⟩ :=
    login_parts (P := fun stmt => stmt.writesUser userId = false) services ambient email
      password context (fun _ => rfl) fun _ => rfl
  obtain ⟨r, t, ran⟩ : ∃ r t,
      (login services ambient email password context).run handleAccount db = (r, t) := ⟨_, _, rfl⟩
  rw [(login_outcome ran).2]
  rw [parts, findByEmail, Proc.query_bind, Proc.run] at ran
  have kept :=
    run_keeps_user (issues (db.userByEmail (services.toLowerCase email)) fun user found data _ => ?_) db
  · rwa [ran] at kept
  · simp only [attempts, Option.any_eq_false] at other
    simpa [AccountStatement.writesUser] using other user found

section OneLogin

variable {ambient : AuthAmbient} {email password : String} {context : LoginContext}

theorem tally_refused {why : DomainError}
    (outcome : accountOutcome services db (.login ambient email password context) =
      .error (.failed (.domain why)))
    (uncounted : why ≠ invalidCredentials) :
    tally services userId db (.login ambient email password context) past = past := by
  simp [tally, outcome, uncounted]

theorem tally_failed (mine : attempts services userId db email = true)
    (outcome : accountOutcome services db (.login ambient email password context) =
      .error (.failed (.domain invalidCredentials))) :
    tally services userId db (.login ambient email password context) past = ambient.clock 0 :: past := by
  simp [tally, outcome, mine]

theorem tally_accepted (mine : attempts services userId db email = true)
    (outcome : ∀ why, accountOutcome services db (.login ambient email password context) ≠
      .error (.failed (.domain why))) :
    tally services userId db (.login ambient email password context) past = [] := by
  simp only [tally, mine, if_true]

theorem refusedWith_false {code : String} {r : Except AuthFailure AccountReply}
    (unrefused : ∀ why, r ≠ .error (.failed (.domain why))) : ¬ refusedWith code r = true := by
  intro refused
  unfold refusedWith at refused
  split at refused
  next why => exact unrefused why rfl
  next => cases refused

theorem Tallied.locked_iff (tallied : Tallied config userId past db) {user : User}
    (row : db.userById userId = some user) (now until_ : Time) :
    user.lockAt now = some until_ ↔
      config.maxFailedLoginAttempts ≤ past.length ∧
        ∃ last ∈ past.head?, until_ = last + config.lockoutDuration ∧
          now < last + config.lockoutDuration := by
  obtain ⟨u, row', _, lock⟩ := tallied.row
  cases row.symm.trans row'
  rw [User.lockAt, lock, Option.filter_eq_some_iff, decide_eq_true_iff]
  exact lockAfter_live

theorem login_clears (context : LoginContext) {user : User}
    (found : db.userByEmail (services.toLowerCase email) = some user)
    (free : user.lockAt (ambient.clock 0) = none)
    (right : services.verifyPassword user.passwordHash password = true)
    (active : user.status = .active) :
    (∀ why, accountOutcome services db (.login ambient email password context) ≠
      .error (.failed (.domain why))) ∧
    (performAccount services db (.login ambient email password context)).userById user.id =
      some (loggedIn (ambient.clock 1) user) := by
  obtain ⟨r, t, ran, accepted, cleared⟩ :=
    login_accepted services ambient email password context found free right active
  obtain ⟨outcome, performed⟩ := login_outcome ran
  refine ⟨fun why same => ?_, by rwa [performed]⟩
  rw [outcome] at same
  cases r with
  | ok issued => cases same
  | error reason =>
      cases same
      exact accepted why rfl

theorem Tallied.login (tallied : Tallied services.config userId past db)
    (instantaneous : ∀ k, ambient.clock k = ambient.clock 0)
    (mine : attempts services userId db email = true) :
    Tallied services.config userId (tally services userId db (.login ambient email password context) past)
        (performAccount services db (.login ambient email password context)) ∧
      (refusedWith "ACCOUNT_LOCKED" (accountOutcome services db (.login ambient email password context)) = true ↔
        services.config.maxFailedLoginAttempts ≤ past.length ∧
          ∃ last ∈ past.head?, ambient.clock 0 < last + services.config.lockoutDuration) := by
  obtain ⟨user, found, named⟩ := (Option.any_eq_true _ _).mp mine
  obtain rfl : user.id = userId := beq_iff_eq.mp named
  have row := userByEmail_id found
  cases locked : user.lockAt (ambient.clock 0) with
  | some until_ =>
      obtain ⟨t, ran, kept⟩ := login_locked services ambient email password context found locked
      obtain ⟨outcome, performed⟩ := login_outcome ran
      obtain ⟨full, last, latest, _, live⟩ := (tallied.locked_iff row _ until_).mp locked
      have uncounted : accountLocked until_ ≠ invalidCredentials :=
        fun same => absurd (congrArg DomainError.code same) (by simp [accountLocked, invalidCredentials])
      rw [performed, tally_refused outcome uncounted, outcome]
      exact ⟨tallied.kept (kept.trans row.symm), iff_of_true rfl ⟨full, last, latest, live⟩⟩
  | none =>
      have free : ¬ (services.config.maxFailedLoginAttempts ≤ past.length ∧
          ∃ last ∈ past.head?, ambient.clock 0 < last + services.config.lockoutDuration) := by
        rintro ⟨full, last, latest, live⟩
        cases locked.symm.trans ((tallied.locked_iff row _ _).mpr ⟨full, last, latest, rfl, live⟩)
      cases valid : services.verifyPassword user.passwordHash password with
      | false =>
          obtain ⟨t, ran, failed⟩ :=
            login_wrong services ambient email password context found locked valid
          obtain ⟨outcome, performed⟩ := login_outcome ran
          rw [performed, tally_failed mine outcome, outcome]
          rw [instantaneous] at failed
          exact ⟨tallied.failed row locked failed, iff_of_false (by decide) free⟩
      | true =>
          by_cases active : user.status = .active
          · obtain ⟨unrefused, cleared⟩ := login_clears context found locked valid active
            rw [tally_accepted mine unrefused]
            exact ⟨.cleared cleared rfl rfl, iff_of_false (refusedWith_false unrefused) free⟩
          · obtain ⟨t, ran, kept⟩ :=
              login_inactive services ambient email password context found locked valid active
            obtain ⟨outcome, performed⟩ := login_outcome ran
            rw [performed, tally_refused outcome (by decide), outcome]
            exact ⟨tallied.kept (kept.trans row.symm), iff_of_false (by decide) free⟩

end OneLogin

theorem Tallied.quiet (tallied : Tallied services.config userId past db)
    (quiet : ∀ stmt, op.Footprint stmt → stmt.writesUser userId = false) :
    Tallied services.config userId past (performAccount services db op) :=
  tallied.kept (run_keeps_user (Proc.issues_mono _ (account_issues services op) quiet) db)

theorem Tallied.updateStatus (tallied : Tallied services.config userId past db)
    (status : UserStatus) (actorId : Uuid) :
    Tallied services.config userId (tally services userId db (.updateStatus userId status actorId) past)
      (performAccount services db (.updateStatus userId status actorId)) := by
  obtain ⟨user, row, counter, lock⟩ := tallied.row
  obtain ⟨r, t, ran, done⟩ := updateStatus_run row status actorId
  obtain ⟨outcome, performed⟩ :=
    outcome_of_run services (.updateStatus userId status actorId) rfl ran
  rw [performed]
  simp only [tally, outcome, true_and]
  rcases done with ⟨ok, written⟩ | ⟨refused, kept⟩
  · cases r with
    | error why => cases ok
    | ok safe =>
        unfold User.withStatus at written
        by_cases active : status = .active
        · rw [if_pos active] at written
          rw [if_pos ⟨active, rfl⟩]
          exact .cleared written rfl rfl
        · rw [if_neg active] at written
          rw [if_neg fun both => active both.1]
          exact ⟨⟨_, written, counter, lock⟩, tallied.paced⟩
  · cases r with
    | ok safe => cases refused
    | error why =>
        rw [if_neg fun both => by cases both.2]
        exact tallied.kept (kept.trans row.symm)

theorem Tallied.resetPassword (tallied : Tallied services.config userId past db)
    (ambient : AuthAmbient) (newPassword : String) (actorId : Uuid) :
    Tallied services.config userId
      (tally services userId db (.resetPassword ambient userId newPassword actorId) past)
      (performAccount services db (.resetPassword ambient userId newPassword actorId)) := by
  obtain ⟨user, row, _⟩ := tallied.row
  obtain ⟨t, ran, u, written, zero, free⟩ := resetPassword_run services ambient row newPassword actorId
  obtain ⟨outcome, performed⟩ :=
    outcome_of_run services (.resetPassword ambient userId newPassword actorId) rfl ran
  rw [performed, tally, outcome, if_pos ⟨rfl, rfl⟩]
  exact .cleared written zero free

theorem Tallied.step (tallied : Tallied services.config userId past db)
    (instantaneous : op.Instantaneous) :
    Tallied services.config userId (tally services userId db op past)
      (performAccount services db op) := by
  cases op with
  | login ambient email password context =>
      by_cases mine : attempts services userId db email = true
      · exact (tallied.login instantaneous mine).1
      · simp only [tally, mine]
        exact tallied.kept (login_elsewhere (by simpa using mine))
  | refresh ambient token context =>
      refine tallied.quiet fun stmt footprint => ?_
      rcases footprint with ⟨_, _, rfl⟩ | ⟨_, rfl⟩ <;> rfl
  | logout ambient token =>
      refine tallied.quiet fun stmt footprint => ?_
      obtain ⟨_, _, rfl⟩ := footprint
      rfl
  | updateStatus id status actorId =>
      by_cases mine : id = userId
      · subst mine
        exact tallied.updateStatus status actorId
      · simp only [tally, mine, false_and, if_false]
        refine tallied.quiet fun stmt footprint => ?_
        rcases footprint with ⟨_, rfl⟩ | ⟨_, _, rfl, _⟩
        · rfl
        · simpa [AccountStatement.writesUser] using mine
  | resetPassword ambient id newPassword actorId =>
      by_cases mine : id = userId
      · subst mine
        exact tallied.resetPassword ambient newPassword actorId
      · simp only [tally, mine, false_and, if_false]
        refine tallied.quiet fun stmt footprint => ?_
        rcases footprint with ⟨_, rfl⟩ | ⟨_, _, rfl, _⟩
        · rfl
        · simpa [AccountStatement.writesUser] using mine

variable (services) in
theorem counted_tallied {start : Accounts} {ops : List AccountOperation} {u : User}
    (row : start.userById userId = some u) (zero : u.failedLoginAttempts = 0)
    (free : u.lockedUntil = none) (instantaneous : ∀ op ∈ ops, op.Instantaneous) :
    Tallied services.config userId (counted services userId start ops)
      (runFrom (performAccount services) start ops) := by
  rw [← performTallied_accounts services userId (start, [])]
  exact runFrom_invariant
    (I := fun state : Accounts × List Time => Tallied services.config userId state.2 state.1)
    (fun state op tallied once => tallied.step once) (Tallied.cleared row zero free)
    (along_of_forall instantaneous _)

end Runs

/-- The lockout over every sequential run. The counter is the number of failures
counted since the last reset; a login on the account is answered that it is
locked exactly when they reach the threshold and the last of them is less than
the lockout ago; and within any period since the reset there are at most the
threshold, and one more for each lockout that fits into the period. -/
theorem lockout_exact (services : AuthServices)
    (threshold : 0 < services.config.maxFailedLoginAttempts)
    (lasting : 0 < services.config.lockoutDurationMinutes) (start : Accounts) (userId : Uuid)
    (u : User) (row : start.userById userId = some u) (zero : u.failedLoginAttempts = 0)
    (free : u.lockedUntil = none) (ops : List AccountOperation)
    (instantaneous : ∀ op ∈ ops, op.Instantaneous) :
    (∀ front back, ops = front ++ back →
      (∃ v, (runFrom (performAccount services) start front).userById userId = some v ∧
        v.failedLoginAttempts = (counted services userId start front).length) ∧
      ∀ (since : Time) (period : Nat),
        (∀ t ∈ counted services userId start front, since ≤ t ∧ t ≤ since + period) →
        ((counted services userId start front).length : Int) ≤
          services.config.maxFailedLoginAttempts + period / services.config.lockoutDuration) ∧
    ∀ front ambient email password context back,
      ops = front ++ .login ambient email password context :: back →
      attempts services userId (runFrom (performAccount services) start front) email = true →
      (refusedWith "ACCOUNT_LOCKED" (accountOutcome services (runFrom (performAccount services) start front)
          (.login ambient email password context)) = true ↔
        services.config.maxFailedLoginAttempts ≤ (counted services userId start front).length ∧
          ∃ last ∈ (counted services userId start front).head?,
            ambient.clock 0 < last + services.config.lockoutDuration) := by
  constructor
  · rintro front back rfl
    have tallied :=
      counted_tallied services row zero free fun op member => instantaneous op
        (List.mem_append_left back member)
    obtain ⟨v, row', counter, _⟩ := tallied.row
    refine ⟨⟨v, row', counter⟩, fun since period within => ?_⟩
    have lasts : 0 < services.config.lockoutDuration := by
      rw [AuthConfig.lockoutDuration]
      omega
    have bound := tallied.paced.length_le threshold lasts (fun t member => (within t member).1)
      (fun t member => (within t member).2)
      (Int.le_add_of_nonneg_right (Int.natCast_nonneg period))
    rwa [Int.add_comm since, Int.add_sub_cancel] at bound
  · rintro front ambient email password context back rfl mine
    have tallied :=
      counted_tallied services row zero free fun op member => instantaneous op
        (List.mem_append_left _ member)
    have once : (AccountOperation.login ambient email password context).Instantaneous :=
      instantaneous _ (by simp)
    exact (tallied.login once mine).2

/-- Two wrong passwords lock the account; the third login, with the right one, counts for nothing. -/
theorem lockout_exact_twice_wrong :
    ∃ v, (runFrom (performAccount { sampleAuth with config := { maxFailedLoginAttempts := 2 } }) sampleAccounts
        [.login {} "awa@fsf.sn" "guess" {}, .login {} "awa@fsf.sn" "guess" {},
        .login {} "awa@fsf.sn" "secret" {}]).userById
          "awa" = some v ∧ v.failedLoginAttempts = 2 := by
  obtain ⟨v, row, counter⟩ :=
    ((lockout_exact { sampleAuth with config := { maxFailedLoginAttempts := 2 } } (by decide)
      (by decide) sampleAccounts "awa" _ rfl rfl rfl
      [.login {} "awa@fsf.sn" "guess" {}, .login {} "awa@fsf.sn" "guess" {}, .login {} "awa@fsf.sn" "secret" {}]
      (by simp [AccountOperation.Instantaneous])).1 _ [] (List.append_nil _).symm).1
  exact ⟨v, row, counter.trans (by decide)⟩

end AccreditationBackend
