import AccreditationBackend.Foundation.Stability
import AccreditationBackend.Iam.Footprint
import AccreditationBackend.Iam.Guards
import AccreditationBackend.Iam.Registration

/-! Suspended accounts: whatever runs after the suspension, there is no way in. -/

set_option autoImplicit false

namespace AccreditationBackend

open Foundation

/-! ## Calls -/

/-- An operation on accounts, or a request that a route's guard lets through or not. -/
inductive AccountCall where
  | operation (op : PeopleOperation)
  | request (route : Route) (payload : Option JwtPayload)

inductive AccountAnswer where
  | reply (reply : PeopleReply)
  | admitted (user : Option AuthenticatedUser)

def AccountCall.execute (services : AuthServices) : AccountCall → AuthOp AccountAnswer
  | .operation op => return .reply (← op.execute services)
  | .request route payload => return .admitted (← JwtAuthGuard.canActivate route payload)

/-- The call neither reactivates the account nor gives its id to a new one. -/
def UserOperation.Leaves (id : Uuid) : UserOperation → Prop
  | .session (.updateStatus other status _) => other = id → status ≠ .active
  | .createRequesterAccount ambient _ _ => ambient.freshUserId ≠ id
  | .createStaffUser ambient _ _ => ambient.freshUserId ≠ id
  | _ => True

def PeopleOperation.Leaves (id : Uuid) : PeopleOperation → Prop
  | .account op => op.Leaves id
  | .registerRequester ambient .. => ambient.freshUserId ≠ id
  | .addJournalist ambient .. => ambient.freshUserId ≠ id

def AccountCall.Leaves (id : Uuid) : AccountCall → Prop
  | .operation op => op.Leaves id
  | .request .. => True

/-! ## The invariant -/

/-- The account is not active, and has no session but those of the start. -/
structure ShutOut (start : Accounts) (id : Uuid) (db : Accounts) : Prop where
  inactive : ∀ u, db.userById id = some u → u.status ≠ .active
  unopened : ∀ r ∈ db.refreshTokens.rows, r.userId = id → r.id ∈ start.refreshTokens.column (·.id)

def AccountStatement.Shuts (id : Uuid) : AccountStatement → Prop
  | .createUser row => row.id ≠ id
  | .updateUser other data => other = id → data.status ≠ some .active
  | .resetPassword other data _ => other = id → data.status ≠ some .active
  | .createRefreshToken row => row.userId ≠ id
  | _ => True

/-- A session is one that was there, with its owner, or the new one. -/
theorem token_step (stmt : AccountStatement) (db : Accounts) :
    ∀ r ∈ (handleAccount.after stmt db).refreshTokens.rows,
      (∃ old ∈ db.refreshTokens.rows, old.id = r.id ∧ old.userId = r.userId) ∨ stmt = .createRefreshToken r := by
  intro r inside
  obtain same | ⟨reply, applied⟩ := account_after_cases stmt db
  · rw [same] at inside
    exact .inl ⟨r, inside, rfl, rfl⟩
  · generalize (handleAccount.after stmt db).toAccountTables = t at applied inside
    have kept (same : t.refreshTokens = db.refreshTokens) : ∃ old ∈ db.refreshTokens.rows,
        old.id = r.id ∧ old.userId = r.userId := ⟨r, same ▸ inside, rfl, rfl⟩
    have revoked {q : RefreshToken → Bool} {revokedAt : Time}
        (same : t.refreshTokens = db.refreshTokens.update q (RefreshToken.revoke revokedAt)
          (RefreshToken.revoke_key revokedAt)) : ∃ old ∈ db.refreshTokens.rows,
        old.id = r.id ∧ old.userId = r.userId := by
      rw [same] at inside
      obtain ⟨old, stored, rfl⟩ := (Table.mem_update _ _ _ _).mp inside
      exact ⟨old, stored, by split <;> rfl, by split <;> rfl⟩
    cases stmt <;> simp only [AccountTables.apply, bind_ok, orFail_ok, require_ok, pure_ok, Except.ok.injEq,
      Prod.mk.injEq] at applied
    case publish event =>
      obtain ⟨_, rfl⟩ := applied
      exact .inl (kept rfl)
    case createUser row =>
      obtain ⟨_, _, _, rfl⟩ := applied
      exact .inl (kept rfl)
    case updateUser id data =>
      obtain ⟨_, _, _, rfl⟩ := applied
      exact .inl (kept rfl)
    case resetPassword id data revokedAt =>
      obtain ⟨_, _, _, rfl⟩ := applied
      exact .inl (revoked rfl)
    case createRefreshToken row =>
      obtain ⟨_, _, refreshTokens, inserted, _, rfl⟩ := applied
      rw [Table.insert_rows inserted, List.mem_append, List.mem_singleton] at inside
      obtain old | rfl := inside
      · exact .inl ⟨r, old, rfl, rfl⟩
      · exact .inr rfl
    case revokeRefreshToken id revokedAt =>
      obtain ⟨_, _, _, rfl⟩ := applied
      exact .inl (revoked rfl)
    case revokeByHash tokenHash revokedAt =>
      obtain ⟨_, rfl⟩ := applied
      exact .inl (revoked rfl)
    case deleteUser id =>
      obtain ⟨u, _, deleted⟩ | ⟨_, _, _, rfl⟩ := apply_deleteUser applied
      · rw [(deleteUser_ok deleted).2.2.2.1] at inside
        exact .inl ⟨r, (List.mem_filter.mp inside).1, rfl, rfl⟩
      · exact .inl (kept rfl)
    case createProfile row =>
      obtain ⟨_, _, _, _, _, _, _, rfl⟩ := applied
      exact .inl (kept rfl)

section ShutOut

variable {start : Accounts} {id : Uuid}

theorem shut_kept {stmt : AccountStatement} {db : Accounts} (shuts : stmt.Shuts id) (shut : ShutOut start id db) :
    ShutOut start id (handleAccount.after stmt db) where
  inactive := by
    have step := user_step stmt db id
    generalize before : db.userById id = old at step
    generalize (handleAccount.after stmt db).userById id = new at step
    have still {data : UserData} {u : User} (found : db.userById id = some u) (other : data.status ≠ some .active) :
        (data.apply u).status ≠ .active := by
      have inactive := shut.inactive u found
      cases status : data.status with
      | none => simpa [UserData.apply, status] using inactive
      | some given => simpa [UserData.apply, status] using other
    cases step with
    | created named => exact absurd named shuts
    | updated =>
        rintro _ ⟨⟩
        exact still before (shuts rfl)
    | reset =>
        rintro _ ⟨⟩
        exact still before (shuts rfl)
    | deleted => exact fun _ gone => by cases gone
    | unchanged => exact fun u found => shut.inactive u (before.trans found)
  unopened r inside mine := by
    obtain ⟨old, stored, sameId, sameUser⟩ | rfl := token_step stmt db r inside
    · exact sameId ▸ shut.unopened old stored (sameUser.trans mine)
    · exact absurd mine shuts

theorem ShutOut.other {db : Accounts} (shut : ShutOut start id db) {key : Uuid} {u : User}
    (found : db.userById key = some u) (active : u.status = .active) : u.id ≠ id := by
  rintro rfl
  rw [← userById_id found] at found
  exact shut.inactive u found active

theorem shut_announced (event : UserEvent) : (AccountStatement.publish event).Shuts id := trivial

theorem shut_bookkept {other : Uuid} {data : UserData} (kept : data.Bookkeeping) :
    (AccountStatement.updateUser other data).Shuts id := fun _ => by
  rw [kept.2.2.1]
  simp

/-! ## Operations -/

section Rules

variable {A B : Type} {Q : Except AuthFailure A → Prop}

/-- The call keeps the account out, whatever runs beside it. -/
abbrev Foundation.Proc.Excludes (p : AuthOp A) (start : Accounts) (id : Uuid)
    (Q : Except AuthFailure A → Prop) : Prop := p.Respects handleAccount (ShutOut start id) Q

theorem excludes_frame {p : AuthOp B} {f : B → AuthOp A} (issues : p.Issues (AccountStatement.Shuts id))
    (rest : ∀ value, (f value).Excludes start id Q) (failed : ∀ why, Q (.error why)) :
    (p >>= f).Excludes start id Q :=
  Proc.respects_frame (fun _ _ shuts shut => shut_kept shuts shut) issues rest failed

theorem excludes_mono {p : AuthOp A} {Q' : Except AuthFailure A → Prop} (excludes : p.Excludes start id Q')
    (implies : ∀ r, Q' r → Q r) : p.Excludes start id Q :=
  Proc.outline_mono _ _ _ _ excludes fun r _ => implies r

theorem excludes_seq {p : AuthOp B} {f : B → AuthOp A} {P : B → Prop}
    (first : p.Excludes start id fun r => ∀ value, r = .ok value → P value)
    (rest : ∀ value, P value → (f value).Excludes start id Q) (failed : ∀ why, Q (.error why)) :
    (p >>= f).Excludes start id Q := by
  refine Proc.outline_seq first fun r _ told => ?_
  cases r with
  | ok value => exact rest value (told value rfl)
  | error why => exact failed why

end Rules

variable (services : AuthServices) (ambient : AuthAmbient)

/-- An access token of an account other than this one. -/
def SignedForOther (id : Uuid) (tokens : AuthTokens) : Prop :=
  ∃ claims now, claims.sub ≠ id ∧ tokens.accessToken = services.signAccess claims services.config.accessTtl now

theorem issueTokens_excludes {user : User} (other : user.id ≠ id) (context : LoginContext) :
    (issueTokens services ambient user context).Excludes start id fun r =>
      ∀ tokens, r = .ok tokens → SignedForOther services id tokens := by
  unfold issueTokens
  rw [writeAccount_bind]
  refine Proc.respects_exec (fun _ shut => shut_kept other shut) (fun _ => ?_) fun _ _ failed => by cases failed
  rintro _ ⟨⟩
  exact ⟨_, _, other, rfl⟩

theorem toAuthenticatedUser_excludes (user : User) :
    (toAuthenticatedUser user).Excludes start id fun r => ∀ self, r = .ok self → self.id = user.id := by
  unfold toAuthenticatedUser
  cases user.kind with
  | staff =>
      rintro _ ⟨⟩
      rfl
  | requester =>
      rintro _ _ _ ⟨⟩
      rfl

theorem refuseLogin_excludes {A : Type} (email reason : String) (context : LoginContext) (user : Option User)
    (why : DomainError) {Q : Except AuthFailure A → Prop} (failed : ∀ why, Q (.error why)) :
    (refuseLogin email reason context user why : AuthOp A).Excludes start id Q :=
  Proc.respects_exec (fun _ shut => shut_kept trivial shut) (fun _ => failed _) failed

theorem login_excludes (email password : String) (context : LoginContext) :
    (login services ambient email password context).Excludes start id fun r =>
      ∀ session, r = .ok session → SignedForOther services id session.1 ∧ session.2.id ≠ id := by
  have failed (why : AuthFailure) : ∀ session : AuthTokens × AuthenticatedUser,
      Except.error why = .ok session → SignedForOther services id session.1 ∧ session.2.id ≠ id :=
    fun _ same => by cases same
  unfold login
  rw [Proc.query_bind]
  intro db shut
  dsimp only
  split
  · exact refuseLogin_excludes _ _ _ _ _ failed
  · split
    · split
      · refine excludes_frame (recordFailedLogin_issues ambient _ _ fun _ kept => shut_bookkept kept) (fun _ => ?_)
          failed
        exact refuseLogin_excludes _ _ _ _ _ failed
      · exact refuseLogin_excludes _ _ _ _ _ failed
    next user verified =>
      split
      · exact refuseLogin_excludes _ _ _ _ _ failed
      next active =>
        have found := (Option.filter_eq_some_iff.mp verified).1
        have other : user.id ≠ id := shut.other (userByEmail_id found) (not_not.mp active)
        refine excludes_frame (recordSuccessfulLogin_issues ambient _ fun _ kept => shut_bookkept kept) (fun _ => ?_)
          failed
        refine excludes_frame (writeAccount_issues (shut_announced _)) (fun _ => ?_) failed
        refine excludes_seq (issueTokens_excludes services ambient other context) (fun tokens signed => ?_) failed
        refine excludes_seq (toAuthenticatedUser_excludes user) (fun self named => ?_) failed
        rintro _ ⟨⟩
        exact ⟨signed, named ▸ other⟩

theorem refresh_excludes (token : String) (context : LoginContext) :
    (refresh services ambient token context).Excludes start id fun r =>
      ∀ tokens, r = .ok tokens → SignedForOther services id tokens := by
  have failed (why : AuthFailure) : ∀ tokens : AuthTokens,
      Except.error why = .ok tokens → SignedForOther services id tokens := fun _ same => by cases same
  unfold refresh
  refine excludes_frame (fun _ => trivial) (fun found => ?_) failed
  refine excludes_frame (orUnauthorized_issues _ _) (fun stored => ?_) failed
  unfold findById
  rw [Proc.query_bind]
  intro db shut
  dsimp only
  cases live : (db.userById stored.userId).filter (·.status == .active) with
  | none => exact failed _
  | some user =>
      obtain ⟨account, active⟩ := Option.filter_eq_some_iff.mp live
      have other := shut.other account (beq_iff_eq.mp active)
      rw [orUnauthorized_some_bind]
      refine excludes_frame (writeAccount_issues trivial) (fun _ => ?_) failed
      exact issueTokens_excludes services ambient other context

/-- A token of the account is worth nothing on a guarded route. -/
theorem canActivate_excludes (route : Route) (payload : Option JwtPayload) :
    (JwtAuthGuard.canActivate route payload).Excludes start id fun r =>
      route.isPublic = false → ∀ p ∈ payload, p.sub = id → ∃ why, r = .error why := by
  unfold JwtAuthGuard.canActivate
  split
  next isPublic => exact fun guarded => by rw [isPublic] at guarded; cases guarded
  · cases payload with
    | none => exact fun _ _ none_ => by cases none_
    | some payload =>
        rw [orUnauthorized_some_bind]
        unfold JwtStrategy.validate findById
        rw [Proc.query_bind]
        intro db shut
        dsimp only
        cases live : (db.userById payload.sub).filter (·.status == .active) with
        | none => exact fun _ _ _ _ => ⟨_, rfl⟩
        | some user =>
            obtain ⟨account, active⟩ := Option.filter_eq_some_iff.mp live
            have other := shut.other account (beq_iff_eq.mp active)
            rw [orUnauthorized_some_bind]
            refine excludes_seq (P := fun _ => True) (excludes_mono (toAuthenticatedUser_excludes user)
              fun _ _ _ _ => trivial) (fun self _ _ p same mine => ?_) fun why _ _ _ _ => ⟨why, rfl⟩
            cases same
            exact absurd ((userById_id account).trans mine) other

/-! ## Every call -/

/-- The call opens nothing for the account, and lets no request of the account in. -/
structure KeptOut (id : Uuid) (call : AccountCall) (result : Except AuthFailure AccountAnswer) : Prop where
  session : ∀ tokens self, result = .ok (.reply (.user (.account (.session tokens self)))) →
    SignedForOther services id tokens ∧ self.id ≠ id
  registration : ∀ tokens self, result = .ok (.reply (.session tokens self)) →
    SignedForOther services id tokens ∧ self.id ≠ id
  tokens : ∀ tokens, result = .ok (.reply (.user (.account (.tokens tokens)))) → SignedForOther services id tokens
  request : ∀ route payload, call = .request route (some payload) → route.isPublic = false →
    payload.sub = id → ∃ why, result = .error why

theorem KeptOut.failed (call : AccountCall) (why : AuthFailure) : KeptOut services id call (.error why) where
  session _ _ same := by cases same
  registration _ _ same := by cases same
  tokens _ same := by cases same
  request _ _ _ _ _ := ⟨why, rfl⟩

/-- The answer of an operation hands out tokens. -/
def UserReply.opens : UserReply → Bool
  | .account (.session ..) => true
  | .account (.tokens _) => true
  | _ => false

theorem KeptOut.plain (op : UserOperation) {reply : UserReply} (closed : reply.opens = false) :
    KeptOut services id (.operation (.account op)) (.ok (.reply (.user reply))) where
  session _ _ same := by
    cases same
    cases closed
  registration _ _ same := by cases same
  tokens _ same := by
    cases same
    cases closed
  request _ _ same := by cases same

theorem answers_excludes {A B : Type} {p : AuthOp A} {f : A → B} {Q : B → Prop}
    (issues : p.Issues (AccountStatement.Shuts id)) (shape : ∀ value, Q (f value)) :
    (do let value ← p; return f value : AuthOp B).Excludes start id fun r => ∀ answer, r = .ok answer → Q answer := by
  refine excludes_frame issues (fun value => ?_) fun _ _ same => by cases same
  rintro _ ⟨⟩
  exact shape value

theorem updateStatus_shuts {other : Uuid} {status : UserStatus} (actorId : Uuid)
    (leaves : other = id → status ≠ .active) : (updateStatus other status actorId).Issues (AccountStatement.Shuts id) :=
  updateStatus_issues other status actorId (fun _ => trivial) fun _ _ _ written mine active =>
    leaves mine (Option.some.inj (written.symm.trans active))

theorem resetPassword_shuts (other : Uuid) (newPassword : String) (actorId : Uuid) :
    (resetPassword services ambient other newPassword actorId).Issues (AccountStatement.Shuts id) :=
  resetPassword_issues services ambient other newPassword actorId (fun _ => trivial) fun _ _ _ plain _ => by
    rw [plain]
    simp

theorem execute_closed {op : UserOperation} (leaves : op.Leaves id)
    (login : ∀ ambient email password context, op ≠ .session (.login ambient email password context))
    (refresh : ∀ ambient token context, op ≠ .session (.refresh ambient token context)) :
    (op.execute services).Excludes start id fun r => ∀ reply, r = .ok reply → reply.opens = false := by
  have session {op : AccountOperation} {A : Type} {p : AuthOp A} {f : A → AccountReply}
      (execute : op.execute services = do let value ← p; return f value)
      (issues : p.Issues (AccountStatement.Shuts id)) (shape : ∀ value, (UserReply.account (f value)).opens = false) :
      ((UserOperation.session op).execute services).Excludes start id fun r =>
        ∀ reply, r = .ok reply → reply.opens = false := by
    have whole : (UserOperation.session op).execute services =
        (do let reply ← op.execute services; return .account reply) := rfl
    rw [whole, execute, Proc.bind_assoc]
    exact answers_excludes issues shape
  cases op with
  | session op =>
      cases op with
      | login ambient email password context => exact absurd rfl (login ambient email password context)
      | refresh ambient token context => exact absurd rfl (refresh ambient token context)
      | logout ambient token => exact session rfl ⟨trivial, fun _ => trivial⟩ fun _ => rfl
      | updateStatus other status actorId => exact session rfl (updateStatus_shuts actorId leaves) fun _ => rfl
      | resetPassword ambient other newPassword actorId =>
          exact session rfl (resetPassword_shuts services ambient other newPassword actorId) fun _ => rfl
  | createRequesterAccount ambient email password =>
      refine answers_excludes (Proc.issues_bind _ _ _ (refuseUsedEmail_issues services email) fun _ => ?_) fun _ => rfl
      exact ⟨leaves, fun user => ⟨trivial, fun _ => trivial⟩⟩
  | createStaffUser ambient dto actorId =>
      refine answers_excludes (Proc.issues_bind _ _ _ (refuseUsedEmail_issues services dto.email) fun _ => ?_)
        fun _ => rfl
      exact ⟨leaves, fun user => ⟨trivial, fun _ => trivial⟩⟩
  | updateOwnDisplayName other displayName =>
      exact answers_excludes ⟨fun _ => by simp, fun _ => trivial⟩ fun _ => rfl
  | updateStaffUser other dto actorId =>
      exact answers_excludes (updateStaffUser_issues other dto actorId (fun _ => trivial) fun _ => by simp) fun _ => rfl
  | deleteStaffUser other actorId =>
      exact answers_excludes (deleteStaffUser_issues other actorId (fun _ => trivial) fun _ => trivial) fun _ => rfl
  | recordSuccessfulLogin ambient other =>
      exact answers_excludes (recordSuccessfulLogin_issues ambient other fun _ kept => shut_bookkept kept) fun _ => rfl
  | recordFailedLogin ambient other =>
      exact answers_excludes (recordFailedLogin_issues ambient services.config other fun _ kept => shut_bookkept kept)
        fun _ => rfl

theorem operation_excludes {op : UserOperation} (leaves : op.Leaves id) :
    ((AccountCall.operation (.account op)).execute services).Excludes start id
      (KeptOut services id (.operation (.account op))) := by
  by_cases login : ∃ ambient email password context, op = .session (.login ambient email password context)
  · obtain ⟨ambient, email, password, context, rfl⟩ := login
    simp only [AccountCall.execute, PeopleOperation.execute, UserOperation.execute, AccountOperation.execute,
      Proc.bind_assoc]
    refine excludes_seq (login_excludes services ambient email password context)
      (fun session signed => ?_) fun why => .failed services _ why
    refine ⟨fun tokens self same => ?_, fun _ _ same => (by cases same), fun _ same => (by cases same),
      fun _ _ same => by cases same⟩
    cases same
    exact signed
  · by_cases refresh : ∃ ambient token context, op = .session (.refresh ambient token context)
    · obtain ⟨ambient, token, context, rfl⟩ := refresh
      simp only [AccountCall.execute, PeopleOperation.execute, UserOperation.execute, AccountOperation.execute,
        Proc.bind_assoc]
      refine excludes_seq (refresh_excludes services ambient token context) (fun tokens signed => ?_)
        fun why => .failed services _ why
      refine ⟨fun _ _ same => (by cases same), fun _ _ same => (by cases same), fun tokens same => ?_,
        fun _ _ same => by cases same⟩
      cases same
      exact signed
    · simp only [AccountCall.execute, PeopleOperation.execute, Proc.bind_assoc]
      refine excludes_seq (execute_closed services leaves (fun ambient email password context same =>
        login ⟨ambient, email, password, context, same⟩) fun ambient token context same =>
          refresh ⟨ambient, token, context, same⟩) (fun reply closed => ?_) fun why => .failed services _ why
      exact .plain services op closed

/-- Who registers gets a session of their own, whosever address they try. -/
theorem registration_excludes (dto : RegisterRequesterDto) (ipAddress userAgent : Option String)
    (leaves : ambient.freshUserId ≠ id) :
    (registerRequester services ambient dto ipAddress userAgent).Excludes start id fun r =>
      ∀ session, r = .ok session → SignedForOther services id session.1 ∧ session.2.id ≠ id := by
  have failed (why : AuthFailure) : ∀ session : AuthTokens × AuthenticatedUser,
      Except.error why = .ok session → SignedForOther services id session.1 ∧ session.2.id ≠ id :=
    fun _ same => by cases same
  unfold registerRequester
  refine excludes_frame (createRequesterAccount_issues services ambient _ _ shut_announced fun row named _ _ => ?_)
    (fun user => ?_) failed
  · exact fun same => leaves (named.symm.trans same)
  · refine excludes_frame (createRequesterProfile_issues services ambient _ _ fun _ _ => trivial) (fun _ => ?_) failed
    exact login_excludes services ambient _ _ _

theorem call_excludes {call : AccountCall} (leaves : call.Leaves id) :
    (call.execute services).Excludes start id (KeptOut services id call) := by
  cases call with
  | request route payload =>
      refine Proc.outline_seq (canActivate_excludes route payload) fun r _ refused => ?_
      cases r with
      | error why => exact .failed services _ why
      | ok admitted =>
          refine ⟨fun _ _ same => (by cases same), fun _ _ same => (by cases same), fun _ same => (by cases same),
            fun _ _ same guarded mine => ?_⟩
          cases same
          obtain ⟨why, failed⟩ := refused guarded _ rfl mine
          cases failed
  | operation op =>
      cases op with
      | account op => exact operation_excludes services leaves
      | registerRequester ambient dto ipAddress userAgent =>
          simp only [AccountCall.execute, PeopleOperation.execute, Proc.bind_assoc]
          refine excludes_seq (registration_excludes services ambient dto ipAddress userAgent leaves)
            (fun session signed => ?_) fun why => .failed services _ why
          refine ⟨fun _ _ same => (by cases same), fun tokens self same => ?_, fun _ same => (by cases same),
            fun _ _ same => by cases same⟩
          cases same
          exact signed
      | addJournalist ambient userId dto =>
          simp only [AccountCall.execute, PeopleOperation.execute, Proc.bind_assoc]
          refine excludes_frame (addJournalist_issues services ambient userId dto shut_announced
            (fun row named _ _ => ?_) fun _ => trivial) (fun profile => ?_) fun why => .failed services _ why
          · exact fun same => leaves (named.symm.trans same)
          · exact ⟨fun _ _ same => (by cases same), fun _ _ same => (by cases same), fun _ same => (by cases same),
              fun _ _ same => by cases same⟩

end ShutOut

def callPool {ι : Type} (services : AuthServices) (start : Accounts) (calls : ι → AccountCall) :
    Pool ι accountStore Accounts AuthFailure AccountAnswer := ⟨start, fun i => (calls i).execute services⟩

/-- Once an account is not active, and whatever calls start then that do not reactivate it,
however they interleave: no session is opened for it, no token is signed for it, and no
guarded route lets a token of it in. -/
theorem suspended_shut_out {ι : Type} [DecidableEq ι] (services : AuthServices) (start : Accounts)
    (calls : ι → AccountCall) (schedule : List ι) {u : User} (stored : start.userById u.id = some u)
    (suspended : u.status ≠ .active) (leaves : ∀ i, (calls i).Leaves u.id) :
    ShutOut start u.id ((callPool services start calls).play handleAccount schedule).2.store ∧
    ∀ i result, (((callPool services start calls).play handleAccount schedule).2.procs i).ended = some result →
      KeptOut services u.id (calls i) result := by
  have begun : ShutOut start u.id start := by
    refine ⟨fun other found => ?_, fun r inside _ => List.mem_map_of_mem inside⟩
    rw [stored] at found
    exact Option.some.inj found ▸ suspended
  exact Pool.play_respects handleAccount schedule (callPool services start calls) begun
    fun i => call_excludes services (leaves i)

/-- An account that was suspended while it had a session. -/
def suspendedAccounts : Accounts where
  users := ⟨[{
      id := "binta"
      email := "binta@fsf.sn"
      passwordHash := "secret"
      kind := .staff
      role := some .superviseur
      status := .suspended }], List.pairwise_singleton _ _⟩
  refreshTokens := ⟨[{ id := "t0", userId := "binta", tokenHash := "hopaque", expiresAt := 9 }],
    List.pairwise_singleton _ _⟩
  referential := ⟨by simp [Table.column], by simp [Table.column, Table.empty], by simp [Table.column, Table.empty],
    Archive.within_empty _ _⟩

/-- It tries all doors at once. -/
def allDoors : Fin 4 → AccountCall
  | 0 => .operation (.account (.session (.login {} "binta@fsf.sn" "secret" {})))
  | 1 => .operation (.account (.session (.refresh {} "opaque" {})))
  | 2 => .request {} (some ⟨"binta"⟩)
  | 3 => .operation (.registerRequester { freshUserId := "again" }
      { mediaId := "daily", firstName := "Binta", lastName := "Sow", phone := "", function := "press",
        email := "binta@fsf.sn", password := "secret" } none none)

theorem suspended_shut_out_binta :
    ShutOut suspendedAccounts "binta"
      ((callPool sampleAuth suspendedAccounts allDoors).play handleAccount [3, 0, 1, 2, 3, 0, 1, 2]).2.store ∧
    ∀ i result, (((callPool sampleAuth suspendedAccounts allDoors).play handleAccount
      [3, 0, 1, 2, 3, 0, 1, 2]).2.procs i).ended = some result → KeptOut sampleAuth "binta" (allDoors i) result :=
  suspended_shut_out sampleAuth suspendedAccounts allDoors [3, 0, 1, 2, 3, 0, 1, 2]
    (u := suspendedAccounts.users.rows.head (by decide)) rfl (by decide) fun i => by
      match i with
      | 0 | 1 | 2 => trivial
      | 3 => exact (by decide : ("again" : Uuid) ≠ "binta")

end AccreditationBackend
