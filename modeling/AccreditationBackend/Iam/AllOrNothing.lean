import AccreditationBackend.Iam.Lockout
import AccreditationBackend.Iam.Registration

/-! Registrations in sequential runs: an account with its profile, or nothing. -/

set_option autoImplicit false

namespace AccreditationBackend

open Foundation

/-! ## Profiles that stay -/

def AccountStatement.deletes : AccountStatement → Bool
  | .deleteUser _ => true
  | _ => false

/-- The user is there, with a profile. -/
def HasProfile (db : Accounts) (id : Uuid) : Prop :=
  (db.userById id).isSome = true ∧ (db.profileByUserId id).isSome = true

/-- If the user is there, so is a profile. -/
def Profiled (db : Accounts) (id : Uuid) : Prop :=
  (db.userById id).isSome = true → (db.profileByUserId id).isSome = true

section Kept

variable {db : Accounts} {id : Uuid}

theorem profile_kept {stmt : AccountStatement} (keeps : stmt.deletes = false)
    (held : (db.profileByUserId id).isSome = true) :
    ((handleAccount.after stmt db).profileByUserId id).isSome = true := by
  rcases account_after_cases stmt db with same | ⟨reply, applied⟩
  · rwa [same]
  · generalize (handleAccount.after stmt db).toAccountTables = t at applied
    simp only [AccountTables.profileByUserId] at held ⊢
    cases stmt <;>
      simp only [AccountTables.apply, bind_ok, orFail_ok, require_ok, pure_ok, Except.ok.injEq,
      Prod.mk.injEq, AccountStatement.deletes, reduceCtorEq] at applied keeps
    case createProfile row =>
      obtain ⟨_, _, _, _, profiles, inserted, _, rfl⟩ := applied
      rw [Table.find_insert inserted]
      obtain ⟨p, found⟩ := Option.isSome_iff_exists.mp held
      rw [found]
      rfl
    all_goals grind

theorem hasProfile_kept {stmt : AccountStatement} (keeps : stmt.deletes = false)
    (held : HasProfile db id) :
    HasProfile (handleAccount.after stmt db) id := by
  refine ⟨?_, profile_kept keeps held.2⟩
  have step := user_step stmt db id
  have there := held.1
  generalize db.userById id = before at step there
  generalize (handleAccount.after stmt db).userById id = after at step ⊢
  cases step with
  | created => cases there
  | deleted => cases keeps
  | unchanged => exact there
  | _ => rfl

theorem profiled_deleted (held : Profiled db id) (other : Uuid) :
    Profiled (handleAccount.after (.deleteUser other) db) id := by
  rcases account_after_cases (.deleteUser other) db with same | ⟨reply, applied⟩
  · rwa [same]
  · rw [Profiled]
    generalize (handleAccount.after (.deleteUser other) db).toAccountTables = t at applied
    rcases apply_deleteUser applied with ⟨u, _, deleted⟩ | ⟨_, _, _, rfl⟩
    · obtain ⟨_, _, users, _, profiles, _⟩ := deleteUser_ok deleted
      rw [AccountTables.userById, AccountTables.profileByUserId, users, profiles, find_deleted]
      split
      next => exact fun impossible => by cases impossible
      next apart =>
        rw [Table.find_delete db.profiles fun p named => by simpa [beq_iff_eq.mp named] using apart]
        exact held
    · exact held

theorem profiled_kept {stmt : AccountStatement} (creates : ∀ row, stmt ≠ .createUser row)
    (held : Profiled db id) :
    Profiled (handleAccount.after stmt db) id := by
  by_cases deletes : ∃ other, stmt = .deleteUser other
  · obtain ⟨other, rfl⟩ := deletes
    exact profiled_deleted held other
  · have keeps : stmt.deletes = false := by
      cases stmt <;> first | rfl | exact absurd ⟨_, rfl⟩ deletes
    refine fun there => profile_kept keeps (held ?_)
    have step := user_step stmt db id
    generalize db.userById id = before at step ⊢
    generalize (handleAccount.after stmt db).userById id = after at step there
    cases step with
    | created => exact absurd rfl (creates _)
    | deleted => cases there
    | unchanged => exact there
    | _ => rfl

theorem hasProfile_iff :
    HasProfile db id ↔ (db.userById id).isSome = true ∧ db.profiles.count (·.userId == id) = 1 := by
  have selects : Table.Selects (ρ := RegisteredProfile) (·.userId == id) := by
    intro a b left right
    exact Or.inr ((beq_iff_eq.mp left).trans (beq_iff_eq.mp right).symm)
  rw [HasProfile, Table.count_selects selects, ← AccountTables.profileByUserId]
  split <;> simp [*]

end Kept

/-! ## One registration -/

section Registering

variable (services : AuthServices) (ambient : AuthAmbient) {db : Accounts}

/-- The account that a registration creates. -/
def newRequester (email password : String) : User where
  id := ambient.freshUserId
  email := services.toLowerCase email
  passwordHash := services.hashPassword password ambient.salt
  kind := .requester
  status := .active

theorem createRequesterAccount_used {email : String} (password : String)
    (used : (db.userByEmail (services.toLowerCase email)).isSome = true) :
    (createRequesterAccount services ambient email password).run handleAccount db =
      (.error (.failed (.domain userEmailAlreadyUsed)), db) := by
  simp only [createRequesterAccount, refuseUsedEmail, findByEmail, Proc.query_bind, Proc.read_bind,
    Proc.run, used, if_true]
  rfl

/-- A new account with nothing else changed. -/
structure Opened (row : User) (db t : Accounts) : Prop where
  user : t.userById row.id = some row
  media : t.media = db.media
  profiles : t.profiles = db.profiles
  refreshTokens : t.refreshTokens = db.refreshTokens

theorem createRequesterAccount_opens {email : String} (password : String)
    (free : db.userByEmail (services.toLowerCase email) = none)
    (fresh : db.userById ambient.freshUserId = none) :
    ∃ t, (createRequesterAccount services ambient email password).run handleAccount db =
        (.ok (newRequester services ambient email password), t) ∧
        Opened (newRequester services ambient email password) db t := by
  have apart :
      ∀ u ∈ db.users.rows,
        ¬ Keyed.Clash (Keyed.key u) (Keyed.key (newRequester services ambient email password)) := by
    intro u member clash
    have other := Table.find_eq_none.mp fresh u member
    have otherEmail := Table.find_eq_none.mp free u member
    rcases clash with same | same
    · simp [show u.id = ambient.freshUserId from same] at other
    · simp [show u.email = services.toLowerCase email from same] at otherEmail
  obtain ⟨users, inserted⟩ := Table.insert_accepted.mpr apart
  have applied : db.toAccountTables.apply (.createUser (newRequester services ambient email password)) =
      .ok (newRequester services ambient email password, { db.toAccountTables with users }) := by
    simp [AccountTables.apply, inserted, orFail, bind, Except.bind, pure, Except.pure]
  have same := account_after_applied applied
  have replied := handleAccount_replies applied
  have stored := congrArg AccountTables.users same
  have media := congrArg AccountTables.media same
  have profiles := congrArg AccountTables.profiles same
  have refreshTokens := congrArg AccountTables.refreshTokens same
  have found :
      (handleAccount.after (.createUser (newRequester services ambient email password)) db).userById
      ambient.freshUserId = some (newRequester services ambient email password) := by
    rw [AccountTables.userById] at fresh ⊢
    rw [stored, Table.find_insert inserted, fresh]
    simp [newRequester]
  simp only [createRequesterAccount, refuseUsedEmail, findByEmail, Proc.query_bind, Proc.read_bind,
    Proc.run, free, Option.isSome_none, Bool.false_eq_true, if_false]
  rw [Proc.pure_eq, Proc.done_bind, writeAccount_bind, Proc.run]
  unfold newRequester at replied
  rw [replied]
  exact ⟨_, rfl, found, media, profiles, refreshTokens⟩

theorem createRequesterProfile_refused (userId : Uuid) {dto : CreateRequesterProfileDto}
    (unfit : ¬ ((db.media.find (·.id == dto.mediaId)).isSome = true ∧ services.readable dto.birthDate = true)) :
    ∃ why, (createRequesterProfile services ambient userId dto).run handleAccount db =
      (.error why, db) := by
  simp only [createRequesterProfile, getMedia, Proc.query_bind, Proc.read_bind, Proc.run]
  cases found : db.media.find (·.id == dto.mediaId) with
  | none => exact ⟨_, rfl⟩
  | some medium =>
      rw [found, Option.isSome_some] at unfit
      rw [orRefuse_some_bind, readBirthDate_fails (by simpa using unfit)]
      exact ⟨_, rfl⟩

theorem createRequesterProfile_creates (userId : Uuid) {dto : CreateRequesterProfileDto}
    (user : (db.userById userId).isSome = true)
    (medium : (db.media.find (·.id == dto.mediaId)).isSome = true)
    (readable : services.readable dto.birthDate = true)
    (fresh : ∀ p ∈ db.profiles.rows, p.id ≠ ambient.freshProfileId ∧ p.userId ≠ userId) :
    ∃ p t, (createRequesterProfile services ambient userId dto).run handleAccount db = (.ok p, t) ∧
      (t.profileByUserId userId).isSome = true ∧ t.users = db.users ∧
      t.refreshTokens = db.refreshTokens := by
  obtain ⟨u, account⟩ := Option.isSome_iff_exists.mp user
  obtain ⟨m, found⟩ := Option.isSome_iff_exists.mp medium
  obtain ⟨date, read⟩ := readBirthDate_done readable
  let row : RegisteredProfile := {
    id := ambient.freshProfileId
    userId
    mediaId := dto.mediaId
    firstName := dto.firstName
    lastName := dto.lastName
    birthDate := date
    nationality := dto.nationality
    phone := dto.phone
    address := dto.address
    function := dto.function
    specialty := dto.specialty
    pressCardNumber := dto.pressCardNumber
    professionalPhone := dto.professionalPhone
    professionalEmail := dto.professionalEmail }
  obtain ⟨profiles, inserted⟩ :=
    Table.insert_accepted.mpr fun p member (clash : Keyed.Clash (Keyed.key p) (Keyed.key row)) =>
      clash.elim (fresh p member).1 (fresh p member).2
  have known : userId ∈ db.users.column (·.id) := by
    rw [← userById_id account]
    exact List.mem_map_of_mem (Table.find_some_mem account).1
  have stored : dto.mediaId ∈ db.media.column (·.id) := by
    rw [← beq_iff_eq.mp (Table.find_some_mem found).2]
    exact List.mem_map_of_mem (Table.find_some_mem found).1
  have applied :
      db.toAccountTables.apply (.createProfile row) =
        .ok (row, { db.toAccountTables with profiles }) := by
    simp only [AccountTables.apply, bind_ok, orFail_ok, require_ok, pure_ok, Prod.mk.injEq]
    exact ⟨(), known, (), stored, profiles, inserted, trivial, rfl⟩
  have same := account_after_applied applied
  have users := congrArg AccountTables.users same
  have tokens := congrArg AccountTables.refreshTokens same
  have rows := congrArg AccountTables.profiles same
  simp only [createRequesterProfile, getMedia, Proc.query_bind, Proc.read_bind, Proc.run, found]
  rw [orRefuse_some_bind, read, Proc.done_bind]
  refine ⟨row, handleAccount.after (.createProfile row) db, ?_, ?_, users, tokens⟩
  · exact writeAccount_run (handleAccount_replies applied)
  · rw [AccountTables.profileByUserId, rows, Table.find_insert inserted]
    simp [row]

/-- The id of a token and its hash are drawn anew. -/
def TokenFresh (db : Accounts) : Prop :=
  ∀ r ∈ db.refreshTokens.rows, r.id ≠ ambient.freshId ∧
    r.tokenHash ≠ services.hashToken ambient.opaqueToken

theorem issueTokens_returns {user : User} (context : LoginContext)
    (there : (db.userById user.id).isSome = true) (fresh : TokenFresh services ambient db) :
    ∃ tokens t, (issueTokens services ambient user context).run handleAccount db = (.ok tokens, t) := by
  let row : RefreshToken := {
    id := ambient.freshId
    userId := user.id
    tokenHash := services.hashToken ambient.opaqueToken
    expiresAt := addDuration (ambient.clock 3) services.config.refreshTtl
    createdByIp := context.ipAddress
    userAgent := context.userAgent }
  obtain ⟨refreshTokens, inserted⟩ := Table.insert_accepted.mpr fun r member
    (clash : Keyed.Clash (Keyed.key r) (Keyed.key row)) => clash.elim (fresh r member).1
    (fresh r member).2
  obtain ⟨account, found⟩ := Option.isSome_iff_exists.mp there
  have owner : user.id ∈ db.users.column (·.id) := by
    rw [← userById_id found]
    exact List.mem_map_of_mem (Table.find_some_mem found).1
  have applied :
      db.toAccountTables.apply (.createRefreshToken row) =
        .ok (row, { db.toAccountTables with refreshTokens }) := by
    simp only [AccountTables.apply, bind_ok, orFail_ok, require_ok, pure_ok, Prod.mk.injEq]
    exact ⟨(), owner, refreshTokens, inserted, trivial, rfl⟩
  have replied := handleAccount_replies applied
  unfold issueTokens
  rw [writeAccount_bind, Proc.run, replied]
  exact ⟨_, _, rfl⟩

theorem login_returns {email password : String} (context : LoginContext) {user : User}
    (found : db.userByEmail (services.toLowerCase email) = some user) (free : user.lockedUntil = none)
    (right : services.verifyPassword user.passwordHash password = true) (active : user.status = .active)
    (fresh : TokenFresh services ambient db) :
    ∃ issued t, (login services ambient email password context).run handleAccount db =
      (.ok issued, t) := by
  have unlocked : user.lockAt (ambient.clock 0) = none := by rw [User.lockAt, free, Option.filter_none]
  obtain ⟨s, ran, row, tokens⟩ :=
    login_opens services ambient email password context found unlocked right active
  have drawn : TokenFresh services ambient s := by rwa [TokenFresh, tokens]
  obtain ⟨issued, t, issues⟩ := issueTokens_returns services ambient context (by rw [row]; rfl) drawn
  rw [ran, openSession, Proc.run_bind, issues]
  dsimp only
  unfold toAuthenticatedUser
  split <;> exact ⟨_, _, rfl⟩

end Registering

/-! ## One registration, its account and its profile -/

/-- What a registration asks for, and what is drawn for it. -/
structure Registration where
  ambient : AuthAmbient
  email : String
  password : String
  profile : CreateRequesterProfileDto

namespace Registration

variable (services : AuthServices) (r : Registration) {db : Accounts}

def row : User := newRequester services r.ambient r.email r.password

/-- The two steps that both kinds of registration share. -/
def accountWithProfile : AuthOp RegisteredProfile := do
  let user ← createRequesterAccount services r.ambient r.email r.password
  createRequesterProfile services r.ambient user.id r.profile

/-- Ids and tokens are drawn anew. -/
structure Fresh (db : Accounts) : Prop where
  user : db.userById r.ambient.freshUserId = none
  profile : ∀ p ∈ db.profiles.rows, p.id ≠ r.ambient.freshProfileId
  token : TokenFresh services r.ambient db

theorem Fresh.unprofiled {services : AuthServices} {r : Registration} {db : Accounts}
    (fresh : r.Fresh services db) :
    db.profileByUserId r.ambient.freshUserId = none := by
  refine Table.find_eq_none.mpr fun p member => beq_eq_false_iff_ne.mpr fun same => ?_
  obtain ⟨u, found⟩ := Table.find_of_column (db.referential.profile_user (List.mem_map_of_mem member))
  rw [same] at found
  cases fresh.user.symm.trans found

/-- It names a medium that is there, and no date that is none. -/
def Fits (db : Accounts) : Prop :=
  (db.media.find (·.id == r.profile.mediaId)).isSome = true ∧ services.readable r.profile.birthDate = true

def Free (db : Accounts) : Prop := db.userByEmail (services.toLowerCase r.email) = none

variable {services r}

theorem used (taken : ¬ r.Free services db) :
    (r.accountWithProfile services).run handleAccount db =
      (.error (.failed (.domain userEmailAlreadyUsed)), db) := by
  have some_ : (db.userByEmail (services.toLowerCase r.email)).isSome = true :=
    Option.isSome_iff_ne_none.mpr taken
  rw [accountWithProfile, Proc.run_bind, createRequesterAccount_used services r.ambient r.password some_]

/-- Without a medium or with no date, the account is created and stays without a profile. -/
theorem half (free : r.Free services db) (fresh : r.Fresh services db) (unfit : ¬ r.Fits services db) :
    ∃ why t, (r.accountWithProfile services).run handleAccount db = (.error why, t) ∧
      t.userById r.ambient.freshUserId = some (r.row services) ∧
      t.profileByUserId r.ambient.freshUserId = none := by
  obtain ⟨t, ran, opened⟩ := createRequesterAccount_opens services r.ambient r.password free fresh.user
  have still : ¬ ((t.media.find (·.id == r.profile.mediaId)).isSome = true ∧
      services.readable r.profile.birthDate = true) := by rwa [opened.media]
  obtain ⟨why, refused⟩ := createRequesterProfile_refused services r.ambient (r.row services).id still
  refine ⟨why, t, ?_, opened.user, ?_⟩
  · rw [accountWithProfile, Proc.run_bind, ran]
    exact refused
  · rw [AccountTables.profileByUserId, opened.profiles]
    exact fresh.unprofiled

theorem whole (free : r.Free services db) (fresh : r.Fresh services db) (fits : r.Fits services db) :
    ∃ p t, (r.accountWithProfile services).run handleAccount db = (.ok p, t) ∧
      t.userById r.ambient.freshUserId = some (r.row services) ∧
      (t.profileByUserId r.ambient.freshUserId).isSome = true ∧ t.refreshTokens = db.refreshTokens := by
  obtain ⟨t, ran, opened⟩ := createRequesterAccount_opens services r.ambient r.password free fresh.user
  have apart :
      ∀ p ∈ t.profiles.rows, p.id ≠ r.ambient.freshProfileId ∧ p.userId ≠ (r.row services).id := by
    rw [opened.profiles]
    exact fun p member =>
      ⟨fresh.profile p member, beq_eq_false_iff_ne.mp (Table.find_eq_none.mp fresh.unprofiled p member)⟩
  obtain ⟨p, t', created, profile, users, tokens⟩ := createRequesterProfile_creates services r.ambient
    (r.row services).id (by rw [show t.userById (r.row services).id = _ from opened.user]; rfl)
    (by rw [opened.media]; exact fits.1) fits.2 apart
  refine ⟨p, t', ?_, ?_, profile, tokens.trans opened.refreshTokens⟩
  · rw [accountWithProfile, Proc.run_bind, ran]
    exact created
  · rw [AccountTables.userById, users]
    exact opened.user

end Registration

/-! ## The operations that register -/

namespace PeopleOperation

def registers : PeopleOperation → Bool
  | .account _ => false
  | _ => true

/-- What the operation registers; somebody who is no editor in chief registers nobody. -/
def registration (db : Accounts) : PeopleOperation → Option Registration
  | .account _ => none
  | .registerRequester ambient dto _ _ =>
      some ⟨ambient, dto.email, dto.password, dto.toCreateRequesterProfileDto⟩
  | .addJournalist ambient userId dto =>
      ((db.profileByUserId userId).filter (·.isEditorInChief)).map fun editor =>
        ⟨ambient, dto.email, dto.temporaryPassword,
          { dto.toCreateRequesterProfileDto with mediaId := editor.mediaId }⟩

/-- Its ids and tokens are drawn anew. -/
def Fresh (services : AuthServices) (db : Accounts) (op : PeopleOperation) : Prop :=
  ∀ r ∈ op.registration db, r.Fresh services db

/-- With a free address come a medium that is there and, where one is given, a date. -/
def Registrable (services : AuthServices) (db : Accounts) (op : PeopleOperation) : Prop :=
  ∀ r ∈ op.registration db, r.Free services db → r.Fits services db

variable {services : AuthServices} {db : Accounts} {op : PeopleOperation} {r : Registration}

theorem login_keeps (ambient : AuthAmbient) (email password : String) (context : LoginContext) :
    (login services ambient email password context).Issues fun stmt : AccountStatement =>
      stmt.deletes = false :=
  login_issues services ambient email password context (fun _ => rfl) (fun _ _ _ => rfl) fun _ => rfl

/-- After the account and its profile, nothing is deleted, and nothing fails any more. -/
theorem execute_registers
    (verifies : ∀ password salt,
      services.verifyPassword (services.hashPassword password salt) password = true)
    (registers : op.registration db = some r) :
    ∃ rest : RegisteredProfile → AuthOp PeopleReply,
      (op.execute services).run handleAccount db =
        (r.accountWithProfile services >>= rest).run handleAccount db ∧
      (∀ p, (rest p).Issues fun stmt : AccountStatement => stmt.deletes = false) ∧
      ∀ p t, t.userById r.ambient.freshUserId = some (r.row services) → TokenFresh services r.ambient t →
        ∃ reply t', (rest p).run handleAccount t = (.ok reply, t') := by
  cases op with
  | account op => cases registers
  | registerRequester ambient dto ipAddress userAgent =>
      cases registers
      refine ⟨fun _ => login services ambient dto.email dto.password ⟨ipAddress, userAgent⟩ >>= fun issued =>
        .done (.session issued.1 issued.2), ?_, fun p => ?_, fun p t row fresh => ?_⟩
      · simp only [execute, AccreditationBackend.registerRequester, Registration.accountWithProfile,
          Proc.bind_assoc, Proc.pure_eq]
      · exact Proc.issues_bind _ _ _ (login_keeps _ _ _ _) fun _ => trivial
      · obtain ⟨issued, t', ran⟩ := login_returns services ambient ⟨ipAddress, userAgent⟩
          (userById_email row) rfl (verifies _ _) rfl fresh
        rw [Proc.run_map, ran]
        exact ⟨_, _, rfl⟩
  | addJournalist ambient userId dto =>
      obtain ⟨editor, chief, rfl⟩ := Option.map_eq_some_iff.mp registers
      refine ⟨fun p => .done (.profile p), ?_, fun _ => trivial, fun p t _ _ => ⟨_, _, rfl⟩⟩
      simp only [execute, AccreditationBackend.addJournalist, assertEditor, getRequesterProfileByUserId,
        Registration.accountWithProfile, Proc.query_bind, Proc.read_bind, Proc.run, chief,
        Proc.bind_assoc, Proc.pure_eq,
        Proc.done_bind]

/-- Somebody who is no editor in chief changes nothing. -/
theorem registers_nobody (registers : op.registers = true) (nobody : op.registration db = none) :
    (peopleOutcome services db op).isOk = false ∧ performPeople services db op = db := by
  cases op with
  | account op => cases registers
  | registerRequester ambient dto ipAddress userAgent => cases nobody
  | addJournalist ambient userId dto =>
      have none_ : (db.profileByUserId userId).filter (·.isEditorInChief) = none :=
        Option.map_eq_none_iff.mp nobody
      simp only [peopleOutcome, performPeople, execute, AccreditationBackend.addJournalist, assertEditor,
        getRequesterProfileByUserId, Proc.query_bind, Proc.read_bind, Proc.run, none_, Proc.fail_bind]
      exact ⟨rfl, trivial⟩

section Registered

variable
  (verifies : ∀ password salt, services.verifyPassword (services.hashPassword password salt) password = true)
  (registers : op.registration db = some r)

include verifies registers

theorem registered_used (taken : ¬ r.Free services db) :
    (peopleOutcome services db op).isOk = false ∧ performPeople services db op = db := by
  obtain ⟨rest, same, _⟩ := execute_registers verifies registers
  rw [peopleOutcome, performPeople, same, Proc.run_bind, Registration.used taken]
  exact ⟨rfl, rfl⟩

theorem registered_half (free : r.Free services db) (fresh : r.Fresh services db)
    (unfit : ¬ r.Fits services db) :
    (performPeople services db op).userById r.ambient.freshUserId = some (r.row services) ∧
      (performPeople services db op).profileByUserId r.ambient.freshUserId = none := by
  obtain ⟨rest, same, _⟩ := execute_registers verifies registers
  obtain ⟨why, t, ran, row, unprofiled⟩ := Registration.half free fresh unfit
  rw [performPeople, same, Proc.run_bind, ran]
  exact ⟨row, unprofiled⟩

theorem registered_whole (free : r.Free services db) (fresh : r.Fresh services db)
    (fits : r.Fits services db) :
    (peopleOutcome services db op).isOk = true ∧
    HasProfile (performPeople services db op) r.ambient.freshUserId := by
  obtain ⟨rest, same, keeps, returns⟩ := execute_registers verifies registers
  obtain ⟨p, t, ran, row, profile, tokens⟩ := Registration.whole free fresh fits
  have drawn : TokenFresh services r.ambient t := by
    rw [TokenFresh, tokens]
    exact fresh.token
  obtain ⟨reply, t', returned⟩ := returns p t row drawn
  have held : HasProfile t r.ambient.freshUserId := ⟨by rw [row]; rfl, profile⟩
  have kept :=
    (rest p).run_frame (R := fun s t => HasProfile s r.ambient.freshUserId →
      HasProfile t r.ambient.freshUserId)
    handleAccount (fun _ held => held) (fun _ _ _ first second held => second (first held))
    (fun _ _ keeps held => hasProfile_kept keeps held) (keeps p) t held
  rw [returned] at kept
  rw [peopleOutcome, performPeople, same, Proc.run_bind, ran]
  dsimp only
  rw [returned]
  exact ⟨rfl, kept⟩

end Registered

section Keeps

variable (services) (ambient : AuthAmbient)

theorem registerRequester_keeps (dto : RegisterRequesterDto) (ipAddress userAgent : Option String) :
    (execute services (.registerRequester ambient dto ipAddress userAgent)).Issues
      fun stmt : AccountStatement =>
      stmt.deletes = false := by
  unfold execute AccreditationBackend.registerRequester
  refine Proc.issues_bind _ _ _ ?_ fun _ => trivial
  refine Proc.issues_bind _ _ _ ?_ fun user => Proc.issues_bind _ _ _ ?_ fun _ => login_keeps ambient _ _ _
  · exact createRequesterAccount_issues services ambient _ _ (fun _ => rfl) fun _ _ _ _ => rfl
  · exact createRequesterProfile_issues services ambient _ _ fun _ _ => rfl

theorem addJournalist_keeps (userId : Uuid) (dto : AddJournalistDto) :
    (execute services (.addJournalist ambient userId dto)).Issues fun stmt : AccountStatement =>
      stmt.deletes = false :=
  Proc.issues_return _
    (addJournalist_issues services ambient userId dto (fun _ => rfl) (fun _ _ _ _ => rfl) fun _ => rfl)

theorem account_keeps {op : UserOperation} (other : ∀ id actorId, op ≠ .deleteStaffUser id actorId) :
    (op.execute services).Issues fun stmt : AccountStatement => stmt.deletes = false := by
  refine Proc.issues_mono _ (user_issues services op) fun stmt footprint => ?_
  cases op with
  | session op =>
      have keeps := account_footprint_keepsPeople footprint
      cases stmt <;> first | rfl | cases keeps
  | deleteStaffUser id actorId => exact absurd rfl (other id actorId)
  | createRequesterAccount | createStaffUser | updateStaffUser =>
      rcases footprint with ⟨_, rfl⟩ | ⟨_, rfl, _⟩ <;> rfl
  | updateOwnDisplayName | recordSuccessfulLogin | recordFailedLogin =>
      obtain ⟨_, rfl, _⟩ := footprint
      rfl

end Keeps

variable (services) in
/-- No operation takes the profile from an account that stays. -/
theorem profile_stays (op : PeopleOperation) {id : Uuid} (held : HasProfile db id)
    (there : ((performPeople services db op).userById id).isSome = true) :
    HasProfile (performPeople services db op) id := by
  have kept (keeps : (op.execute services).Issues fun stmt : AccountStatement => stmt.deletes = false) :
      HasProfile (performPeople services db op) id :=
    (op.execute services).run_frame (R := fun s t => HasProfile s id →
      HasProfile t id) handleAccount (fun _ held => held)
      (fun _ _ _ first second held => second (first held))
      (fun _ _ keeps held => hasProfile_kept keeps held) keeps db held
  cases op with
  | registerRequester ambient dto ipAddress userAgent =>
      exact kept (registerRequester_keeps services ambient dto ipAddress userAgent)
  | addJournalist ambient userId dto => exact kept (addJournalist_keeps services ambient userId dto)
  | account op =>
      have mapped : performPeople services db (.account op) = performUser services db op :=
        congrArg Prod.snd (Proc.run_map handleAccount (op.execute services) PeopleReply.user db)
      by_cases deletes : ∃ other actorId, op = .deleteStaffUser other actorId
      · obtain ⟨other, actorId, rfl⟩ := deletes
        have profiled := ((UserOperation.deleteStaffUser other actorId).execute services).run_frame
          (R := fun s t => Profiled s id → Profiled t id) handleAccount (fun _ held => held)
          (fun _ _ _ first second held => second (first held))
          (fun _ _ creates held => profiled_kept creates held)
          (Proc.issues_mono _ (user_issues services _) fun stmt footprint row => by
            rcases footprint with ⟨_, rfl⟩ | ⟨_, rfl⟩ <;> exact nofun) db fun _ => held.2
        rw [mapped] at there ⊢
        exact ⟨there, profiled there⟩
      · exact kept (Proc.issues_bind _ _ _ (account_keeps services fun other actorId same =>
          deletes ⟨other, actorId, same⟩) fun _ => trivial)

end PeopleOperation

/-! ## Registrations in a run -/

/-- The operation, and the accounts that registrations have opened up to now and that are still there. -/
def performRegistered (services : AuthServices) (state : Accounts × List Uuid)
    (op : PeopleOperation) : Accounts × List Uuid :=
  let after := performPeople services state.1 op
  let opened :=
    ((op.registration state.1).map (·.ambient.freshUserId)).filter fun id => (state.1.userById id).isNone
  (after, (opened.toList ++ state.2).filter fun id => (after.userById id).isSome)

/-- The accounts that the registrations of a run have opened and that are still there. -/
def registered (services : AuthServices) (start : Accounts) (ops : List PeopleOperation) : List Uuid :=
  (runFrom (performRegistered services) (start, []) ops).2

section Steps

variable {services : AuthServices}
  (verifies : ∀ password salt, services.verifyPassword (services.hashPassword password salt) password = true)
  {state : Accounts × List Uuid} {op : PeopleOperation}

variable (services) in
theorem performRegistered_accounts (state : Accounts × List Uuid) (op : PeopleOperation) :
    (performRegistered services state op).1 = performPeople services state.1 op := rfl

theorem mem_performRegistered {id : Uuid} :
    id ∈ (performRegistered services state op).2 ↔
      ((∃ r, op.registration state.1 = some r ∧ r.ambient.freshUserId = id ∧
        state.1.userById id = none) ∨ id ∈ state.2) ∧
      ((performPeople services state.1 op).userById id).isSome = true := by
  simp only [performRegistered, List.mem_filter, List.mem_append, Option.mem_toList,
    Option.filter_eq_some_iff, Option.map_eq_some_iff, Option.isNone_iff_eq_none]
  grind

include verifies

theorem registered_kept (held : ∀ id ∈ state.2, HasProfile state.1 id) (fresh : op.Fresh services state.1)
    (registrable : op.Registrable services state.1) :
    ∀ id ∈ (performRegistered services state op).2,
      HasProfile (performPeople services state.1 op) id := by
  intro id member
  obtain ⟨opened | past, there⟩ := mem_performRegistered.mp member
  · obtain ⟨r, registers, rfl, absent⟩ := opened
    by_cases free : r.Free services state.1
    · exact (PeopleOperation.registered_whole verifies registers free (fresh r registers)
        (registrable r registers free)).2
    · rw [(PeopleOperation.registered_used verifies registers free).2, absent] at there
      cases there
  · exact PeopleOperation.profile_stays services op (held id past) there

theorem registered_broken (fresh : op.Fresh services state.1)
    (held : ∀ id ∈ (performRegistered services state op).2, HasProfile (performPeople services state.1 op) id) :
    op.Registrable services state.1 := by
  intro r registers free
  by_contra unfit
  obtain ⟨row, unprofiled⟩ :=
    PeopleOperation.registered_half verifies registers free (fresh r registers) unfit
  have opened : r.ambient.freshUserId ∈ (performRegistered services state op).2 :=
    mem_performRegistered.mpr ⟨.inl ⟨r, registers, rfl, (fresh r registers).user⟩, by rw [row]; rfl⟩
  cases unprofiled ▸ (held _ opened).2

theorem failed_unchanged {db : Accounts} (fresh : op.Fresh services db)
    (registrable : op.Registrable services db) (registers : op.registers = true)
    (fails : (peopleOutcome services db op).isOk = false) :
    performPeople services db op = db := by
  cases asked : op.registration db with
  | none => exact (PeopleOperation.registers_nobody registers asked).2
  | some r =>
      by_cases free : r.Free services db
      · have whole :=
          (PeopleOperation.registered_whole verifies asked free (fresh r asked) (registrable r asked free)).1
        cases fails.symm.trans whole
      · exact (PeopleOperation.registered_used verifies asked free).2

omit verifies in
theorem registered_there (start : Accounts) (ops : List PeopleOperation) :
    ∀ id ∈ registered services start ops,
      ((runFrom (performPeople services) start ops).userById id).isSome = true := by
  rw [registered, ← runFrom_projected (f := Prod.fst) (performRegistered_accounts services) (start, []) ops]
  refine runFrom_invariant (P := fun _ _ => True)
    (I := fun state : Accounts × List Uuid => ∀ id ∈ state.2, (state.1.userById id).isSome = true)
    (fun state op _ _ id member => (mem_performRegistered.mp member).2)
    (fun id member => by cases member) ?_
  exact along_iff.mpr fun _ _ _ _ => trivial

end Steps

/-- In every state of a run each account that a registration opened has one
profile, and each registration that fails has left the users as they were,
exactly when no registration with a free address lacks its medium or its date. -/
theorem registration_all_or_nothing (services : AuthServices)
    (verifies : ∀ password salt, services.verifyPassword (services.hashPassword password salt) password = true)
    (start : Accounts) (ops : List PeopleOperation)
    (fresh : Along (performPeople services) (PeopleOperation.Fresh services) start ops) :
    ((∀ front back, ops = front ++ back → ∀ id ∈ registered services start front,
        (runFrom (performPeople services) start front).profiles.count (·.userId == id) = 1) ∧
      ∀ front op back, ops = front ++ op :: back → op.registers = true →
        (peopleOutcome services (runFrom (performPeople services) start front) op).isOk = false →
        (performPeople services (runFrom (performPeople services) start front) op).users =
          (runFrom (performPeople services) start front).users) ↔
    Along (performPeople services) (PeopleOperation.Registrable services) start ops := by
  have accounts (front : List PeopleOperation) :
      (runFrom (performRegistered services) (start, []) front).1 =
      runFrom (performPeople services) start front :=
    runFrom_projected (f := Prod.fst) (performRegistered_accounts services) (start, []) front
  have each : (∀ front back, ops = front ++ back → ∀ id ∈ registered services start front,
      HasProfile (runFrom (performRegistered services) (start, []) front).1 id) ↔
        Along (performPeople services) (PeopleOperation.Registrable services) start ops := by
    rw [← along_projected (f := Prod.fst) (s := (start, [])) (performRegistered_accounts services)]
    exact runFrom_exact_within
      (I := fun state : Accounts × List Uuid => ∀ id ∈ state.2, HasProfile state.1 id)
      (fun state op held fresh registrable => registered_kept verifies held fresh registrable)
      (fun state op _ fresh held => registered_broken verifies fresh held)
      (fun id member => by cases member)
      ((along_projected (f := Prod.fst) (performRegistered_accounts services)).mpr fresh)
  constructor
  · rintro ⟨profiles, _⟩
    refine each.mp fun front back split id member => ?_
    rw [accounts]
    exact hasProfile_iff.mpr ⟨registered_there start front id member, profiles front back split id member⟩
  · intro registrable
    refine ⟨fun front back split id member => ?_, fun front op back split registers fails => ?_⟩
    · have held := each.mpr registrable front back split id member
      rw [accounts] at held
      exact (hasProfile_iff.mp held).2
    · rw [failed_unchanged verifies (along_iff.mp fresh front op back split)
        (along_iff.mp registrable front op back split) registers fails]

/-- One medium, and nobody yet. -/
def pressAccounts : Accounts where
  media := ⟨[{ id := "rts", name := "RTS" }], List.pairwise_singleton _ _⟩
  referential := ⟨List.nil_subset _, List.nil_subset _, List.nil_subset _, Archive.within_empty _ _⟩

/-- Somebody registers for a medium. -/
def fatou (mediaId : Uuid) : PeopleOperation :=
  .registerRequester
    { freshUserId := "fatou", freshProfileId := "p1", freshId := "t1", opaqueToken := "opaque" }
    { mediaId, firstName := "Fatou", lastName := "Ndiaye", phone := "+221", function := "Journaliste",
      email := "fatou@rts.sn", password := "secret" } none none

theorem fatou_fresh (mediaId : Uuid) : (fatou mediaId).Fresh sampleAuth pressAccounts := by
  intro r asked
  cases asked
  exact ⟨rfl, fun p member => (by cases member), fun token member => (by cases member)⟩

theorem fatou_registered :
    (runFrom (performPeople sampleAuth) pressAccounts [fatou "rts"]).profiles.count
      (·.userId == "fatou") = 1 := by
  refine ((registration_all_or_nothing sampleAuth (fun _ _ => beq_self_eq_true _) pressAccounts [fatou "rts"]
    ⟨fatou_fresh "rts", trivial⟩).mpr ⟨fun r asked _ => ?_, trivial⟩).1 _ []
    (List.append_nil _).symm "fatou" (by decide)
  cases asked
  exact ⟨rfl, rfl⟩

/-- Without the medium the registration fails, the account stays without a profile, and the address is taken. -/
theorem fatou_half_registered :
    (peopleOutcome sampleAuth pressAccounts (fatou "rfm")).isOk = false ∧
      registered sampleAuth pressAccounts [fatou "rfm"] = ["fatou"] ∧
      (performPeople sampleAuth pressAccounts (fatou "rfm")).profiles.count (·.userId == "fatou") = 0 ∧
      (performPeople sampleAuth pressAccounts (fatou "rfm")).users.rows ≠ pressAccounts.users.rows ∧
      peopleOutcome sampleAuth (performPeople sampleAuth pressAccounts (fatou "rfm")) (fatou "rts") =
        .error (.failed (.domain userEmailAlreadyUsed)) := by
  decide

end AccreditationBackend
