import AccreditationBackend.Iam.Rows
import AccreditationBackend.Iam.Archive
import AccreditationBackend.Store.Integrity

/-! The accounts: their tables with the foreign keys as a field, and the statements that write them. -/

set_option autoImplicit false

namespace AccreditationBackend

open Foundation (Table Interface Handler Proc)

structure AccountTables where
  users : Table User := .empty
  refreshTokens : Table RefreshToken := .empty
  media : Table Media := .empty
  profiles : Table RegisteredProfile := .empty
  archive : Archive := {}
  /-- Published on the in-process bus, in order. -/
  events : List UserEvent := []

structure AccountReferential (t : AccountTables) : Prop where
  token_user : t.refreshTokens.column (·.userId) ⊆ t.users.column (·.id)
  profile_user : t.profiles.column (·.userId) ⊆ t.users.column (·.id)
  profile_media : t.profiles.column (·.mediaId) ⊆ t.media.column (·.id)
  archived : t.archive.Within (t.users.column (·.id)) (t.profiles.column (·.id))

/-- A state the accounts can be in: no foreign key dangles. -/
structure Accounts extends AccountTables where
  referential : AccountReferential toAccountTables

theorem Archive.within_empty (users profiles : List Uuid) : ({} : Archive).Within users profiles := by
  constructor <;> exact fun r member => by cases member

def Accounts.empty : Accounts :=
  ⟨{}, List.nil_subset _, List.nil_subset _, List.nil_subset _, Archive.within_empty _ _⟩

instance : Inhabited Accounts := ⟨.empty⟩

section Lookups

variable (t : AccountTables)

def AccountTables.userById (id : Uuid) : Option User := t.users.find (·.id == id)

def AccountTables.userByEmail (email : String) : Option User := t.users.find (·.email == email)

def AccountTables.tokenByHash (tokenHash : String) : Option RefreshToken :=
  t.refreshTokens.find (·.tokenHash == tokenHash)

def AccountTables.profileByUserId (userId : Uuid) : Option RegisteredProfile :=
  t.profiles.find (·.userId == userId)

/-- The profile of the user has requests. -/
def AccountTables.profileInUse (id : Uuid) : Bool :=
  t.profiles.rows.any fun p => p.userId == id && requestRequester.blocks p.id t.archive.requests

/-- A foreign key forbids to delete the user: one of the archive, or one that its profile meets. -/
def AccountTables.restricted (id : Uuid) : Bool := t.archive.blocks id || t.profileInUse id

end Lookups

theorem selects_userId (id : Uuid) : Table.Selects (ρ := User) (·.id == id) := by
  intro a b left right
  exact Or.inl ((beq_iff_eq.mp left).trans (beq_iff_eq.mp right).symm)

theorem selects_userEmail (email : String) : Table.Selects (ρ := User) (·.email == email) := by
  intro a b left right
  exact Or.inr ((beq_iff_eq.mp left).trans (beq_iff_eq.mp right).symm)

theorem selects_refreshTokenId (id : Uuid) : Table.Selects (ρ := RefreshToken) (·.id == id) := by
  intro a b left right
  exact Or.inl ((beq_iff_eq.mp left).trans (beq_iff_eq.mp right).symm)

theorem selects_refreshTokenHash (tokenHash : String) :
    Table.Selects (ρ := RefreshToken) (·.tokenHash == tokenHash) := by
  intro a b left right
  exact Or.inr ((beq_iff_eq.mp left).trans (beq_iff_eq.mp right).symm)

/-! ## Statements -/

inductive AccountStatement where
  | publish (event : UserEvent)
  | createUser (row : User)
  | updateUser (id : Uuid) (data : UserData)
  /-- One `$transaction`: the user, and the refresh tokens that are not revoked. -/
  | resetPassword (id : Uuid) (data : UserData) (revokedAt : Time)
  | createRefreshToken (row : RefreshToken)
  | revokeRefreshToken (id : Uuid) (revokedAt : Time)
  | revokeByHash (tokenHash : String) (revokedAt : Time)
  /-- The caller takes a refusal as a reply. -/
  | deleteUser (id : Uuid)
  | createProfile (row : RegisteredProfile)

abbrev AccountStatement.Reply : AccountStatement → Type
  | .publish _ => Unit
  | .createUser _ => User
  | .updateUser .. => User
  | .resetPassword .. => Unit
  | .createRefreshToken _ => RefreshToken
  | .revokeRefreshToken .. => RefreshToken
  | .revokeByHash .. => Nat
  | .deleteUser _ => Except Failure User
  | .createProfile _ => RegisteredProfile

abbrev accountStore : Interface := ⟨AccountStatement, AccountStatement.Reply⟩

/-- The `WHERE` clause of a bulk revocation. -/
def unrevokedOf (owns : RefreshToken → Bool) (r : RefreshToken) : Bool := owns r && r.revokedAt == none

/-- Tokens and profile go with the user; the archive follows its own foreign keys. -/
def AccountTables.deleteUser (id : Uuid) (t : AccountTables) : Except Failure (User × AccountTables) := do
  let u ← orFail (t.userById id) .recordNotFound
  require (t.restricted id = false) .foreignKeyViolation
  return (u,
    { t with
      users := t.users.delete (·.id == id)
      refreshTokens := t.refreshTokens.delete (·.userId == id)
      profiles := t.profiles.delete (·.userId == id)
      archive := t.archive.onDelete id })

def AccountTables.apply :
    (stmt : AccountStatement) → AccountTables → Except Failure (stmt.Reply × AccountTables)
  | .publish event, t => .ok ((), { t with events := t.events ++ [event] })
  | .createUser row, t => do
      let users ← orFail (t.users.insert row) .uniqueViolation
      return (row, { t with users })
  | .updateUser id data, t => do
      let u ← orFail (t.users.find (·.id == id)) .recordNotFound
      return (data.apply u, { t with users := t.users.update (·.id == id) data.apply data.apply_key })
  | .resetPassword id data revokedAt, t => do
      let _ ← orFail (t.users.find (·.id == id)) .recordNotFound
      return ((),
        { t with
          users := t.users.update (·.id == id) data.apply data.apply_key
          refreshTokens := t.refreshTokens.update (unrevokedOf (·.userId == id))
            (RefreshToken.revoke revokedAt)
            (RefreshToken.revoke_key revokedAt) })
  | .createRefreshToken row, t => do
      require (row.userId ∈ t.users.column (·.id)) .foreignKeyViolation
      let refreshTokens ← orFail (t.refreshTokens.insert row) .uniqueViolation
      return (row, { t with refreshTokens })
  -- The update names the id alone: a token that is revoked already is revoked again.
  | .revokeRefreshToken id revokedAt, t => do
      let r ← orFail (t.refreshTokens.find (·.id == id)) .recordNotFound
      return (r.revoke revokedAt,
        { t with
          refreshTokens := t.refreshTokens.update (·.id == id) (RefreshToken.revoke revokedAt)
            (RefreshToken.revoke_key revokedAt) })
  -- `updateMany` never fails: it replies with the number of rows that matched.
  | .revokeByHash tokenHash revokedAt, t =>
      .ok (t.refreshTokens.count (unrevokedOf (·.tokenHash == tokenHash)),
        { t with
          refreshTokens := t.refreshTokens.update (unrevokedOf (·.tokenHash == tokenHash))
            (RefreshToken.revoke revokedAt) (RefreshToken.revoke_key revokedAt) })
  | .deleteUser id, t =>
      match t.deleteUser id with
      | .ok (u, t') => .ok (.ok u, t')
      | .error why => .ok (.error why, t)
  | .createProfile row, t => do
      require (row.userId ∈ t.users.column (·.id)) .foreignKeyViolation
      require (row.mediaId ∈ t.media.column (·.id)) .foreignKeyViolation
      let profiles ← orFail (t.profiles.insert row) .uniqueViolation
      return (row, { t with profiles })

/-! ## Foreign keys -/

section Referential

variable {t t' : AccountTables}

/-- A user update moves no id. -/
theorem AccountReferential.updateUser (sound : AccountReferential t) (q : User → Bool) (data : UserData) :
    AccountReferential { t with users := t.users.update q data.apply data.apply_key } := by
  have same : (t.users.update q data.apply data.apply_key).column (·.id) = t.users.column (·.id) :=
    Table.column_update _ _ _ data.apply_key _ fun _ => rfl
  exact ⟨by simpa only [same] using sound.token_user,
    by simpa only [same] using sound.profile_user, sound.profile_media,
    by simpa only [same] using sound.archived⟩

theorem AccountReferential.revoke (sound : AccountReferential t) (q : RefreshToken → Bool)
    (revokedAt : Time) :
    AccountReferential { t with
      refreshTokens := t.refreshTokens.update q (RefreshToken.revoke revokedAt)
        (RefreshToken.revoke_key revokedAt) } := by
  have same :
      (t.refreshTokens.update q (RefreshToken.revoke revokedAt)
        (RefreshToken.revoke_key revokedAt)).column (·.userId) = t.refreshTokens.column (·.userId) :=
    Table.column_update _ _ _ (RefreshToken.revoke_key revokedAt) _ fun _ => rfl
  exact ⟨by simpa only [same] using sound.token_user, sound.profile_user, sound.profile_media, sound.archived⟩

theorem AccountReferential.createUser (sound : AccountReferential t) {row : User} {users : Table User}
    (inserted : t.users.insert row = some users) : AccountReferential { t with users } := by
  have grown : t.users.column (·.id) ⊆ users.column (·.id) := subset_column_insert inserted _
  exact ⟨List.Subset.trans sound.token_user grown, List.Subset.trans sound.profile_user grown,
    sound.profile_media, sound.archived.mono grown (List.Subset.refl _)⟩

theorem AccountReferential.createProfile (sound : AccountReferential t) {row : RegisteredProfile}
    {profiles : Table RegisteredProfile} (inserted : t.profiles.insert row = some profiles)
    (user : row.userId ∈ t.users.column (·.id)) (media : row.mediaId ∈ t.media.column (·.id)) :
    AccountReferential { t with profiles } := by
  have grown : t.profiles.column (·.id) ⊆ profiles.column (·.id) := subset_column_insert inserted _
  exact ⟨sound.token_user, column_insert_subset inserted _ sound.profile_user user,
    column_insert_subset inserted _ sound.profile_media media,
    sound.archived.mono (List.Subset.refl _) grown⟩

/-- What refers to the user goes with it, or is told to forget it. -/
theorem AccountReferential.deleteUser (sound : AccountReferential t) {id : Uuid} {u : User}
    (deleted : t.deleteUser id = .ok (u, t')) : AccountReferential t' := by
  simp only [AccountTables.deleteUser, bind_ok, require_ok, pure_ok, Prod.mk.injEq,
    AccountTables.restricted, Bool.or_eq_false_iff] at deleted
  obtain ⟨_, _, _, ⟨free, unused⟩, _, rfl⟩ := deleted
  have others (k : Uuid) (known : k ∈ t.users.column (·.id)) (other : k ≠ id) :
      k ∈ (t.users.delete (·.id == id)).column (·.id) := by
    obtain ⟨a, member, rfl⟩ := List.mem_map.mp known
    exact List.mem_map_of_mem (List.mem_filter.mpr ⟨member, by simpa using other⟩)
  refine ⟨fun k held => ?_, fun k held => ?_, fun k held => ?_, sound.archived.onDelete free others ?_⟩
  · obtain ⟨r, member, rfl⟩ := List.mem_map.mp held
    obtain ⟨inside, other⟩ := List.mem_filter.mp member
    exact others _ (sound.token_user (List.mem_map_of_mem inside)) (by simpa using other)
  · obtain ⟨p, member, rfl⟩ := List.mem_map.mp held
    obtain ⟨inside, other⟩ := List.mem_filter.mp member
    exact others _ (sound.profile_user (List.mem_map_of_mem inside)) (by simpa using other)
  · obtain ⟨p, member, rfl⟩ := List.mem_map.mp held
    exact sound.profile_media (List.mem_map_of_mem (List.mem_filter.mp member).1)
  · intro r member k holds
    obtain ⟨p, inside, rfl⟩ := List.mem_map.mp (sound.archived.request_requester r member k holds)
    refine List.mem_map_of_mem (List.mem_filter.mpr ⟨inside, ?_⟩)
    -- The profile of the deleted user has no requests.
    by_contra mine
    have used : requestRequester.blocks p.id t.archive.requests = true :=
      Foundation.Reference.inUse_iff.mpr ⟨r, member, Option.mem_def.mp holds⟩
    have free := List.any_eq_false.mp unused p inside
    exact free (by simpa [used] using mine)

theorem account_referential {stmt : AccountStatement} {reply : stmt.Reply} (sound : AccountReferential t)
    (applied : t.apply stmt = .ok (reply, t')) : AccountReferential t' := by
  cases stmt <;> simp only [AccountTables.apply, bind_ok, orFail_ok, require_ok, pure_ok, Except.ok.injEq,
    Prod.mk.injEq] at applied
  case publish event =>
    obtain ⟨_, rfl⟩ := applied
    exact { sound with }
  case createUser row =>
    obtain ⟨users, inserted, _, rfl⟩ := applied
    exact sound.createUser inserted
  case updateUser id data =>
    obtain ⟨_, _, _, rfl⟩ := applied
    exact sound.updateUser _ data
  case resetPassword id data revokedAt =>
    obtain ⟨_, _, _, rfl⟩ := applied
    exact (sound.updateUser _ data).revoke _ revokedAt
  case createRefreshToken row =>
    obtain ⟨_, owner, refreshTokens, inserted, _, rfl⟩ := applied
    exact ⟨column_insert_subset inserted _ sound.token_user owner, sound.profile_user,
      sound.profile_media, sound.archived⟩
  case revokeRefreshToken id revokedAt =>
    obtain ⟨_, _, _, rfl⟩ := applied
    exact sound.revoke _ revokedAt
  case revokeByHash tokenHash revokedAt =>
    obtain ⟨_, rfl⟩ := applied
    exact sound.revoke _ revokedAt
  case deleteUser id =>
    cases gone : t.deleteUser id with
    | ok result =>
        rw [gone] at applied
        cases applied
        exact sound.deleteUser gone
    | error why =>
        rw [gone] at applied
        cases applied
        exact sound
  case createProfile row =>
    obtain ⟨_, user, _, media, profiles, inserted, _, rfl⟩ := applied
    exact sound.createProfile inserted user media

end Referential

/-- Why a call on accounts ends without a result: the session or the caller's rights
are refused, or it fails as any other. -/
inductive AuthFailure where
  | unauthorized (message : String)
  | forbidden (message : String)
  | failed (why : Failure)
  deriving DecidableEq, Repr

def handleAccount : Handler accountStore Accounts AuthFailure := fun stmt db =>
  match applied : db.toAccountTables.apply stmt with
  | .ok (reply, t) => .ok (reply, ⟨t, account_referential db.referential applied⟩)
  | .error why => .error (.failed why)

theorem handleAccount_ok {stmt : AccountStatement} {db db' : Accounts} {reply : stmt.Reply} :
    handleAccount stmt db = .ok (reply, db') ↔
      db.toAccountTables.apply stmt = .ok (reply, db'.toAccountTables) := by
  obtain ⟨t', sound'⟩ := db'
  unfold handleAccount
  split
  next reply' t applied => simp only [applied, Except.ok.injEq, Prod.mk.injEq, Accounts.mk.injEq]
  next why applied => simp only [applied, reduceCtorEq]

theorem handleAccount_error {stmt : AccountStatement} {db : Accounts} {why : AuthFailure}
    (failed : handleAccount stmt db = .error why) :
    ∃ reason, why = .failed reason ∧ db.toAccountTables.apply stmt = .error reason := by
  unfold handleAccount at failed
  split at failed
  next reply t applied => cases failed
  next reason applied =>
    cases failed
    exact ⟨reason, rfl, applied⟩

section Applied

variable {stmt : AccountStatement} {db : Accounts} {reply : stmt.Reply} {t : AccountTables}
  (applied : db.toAccountTables.apply stmt = .ok (reply, t))

include applied

theorem handleAccount_replies : handleAccount stmt db = .ok (reply, handleAccount.after stmt db) := by
  have replied : handleAccount stmt db = .ok (reply, ⟨t, account_referential db.referential applied⟩) :=
    handleAccount_ok.mpr applied
  rw [handleAccount.after_ok replied]
  exact replied

theorem account_after_applied : (handleAccount.after stmt db).toAccountTables = t := by
  have both := applied.symm.trans (handleAccount_ok.mp (handleAccount_replies applied))
  exact (congrArg Prod.snd (Except.ok.inj both)).symm

end Applied

section Accepted

variable {t : AccountTables} {id : Uuid}

theorem apply_resetPassword {user : User} (found : t.userById id = some user) (data : UserData)
    (revokedAt : Time) :
    t.apply (.resetPassword id data revokedAt) = .ok ((),
      { t with
        users := t.users.update (·.id == id) data.apply data.apply_key
        refreshTokens := t.refreshTokens.update (unrevokedOf (·.userId == id))
          (RefreshToken.revoke revokedAt)
          (RefreshToken.revoke_key revokedAt) }) := by
  rw [AccountTables.userById] at found
  simp [AccountTables.apply, found, orFail, bind, Except.bind, pure, Except.pure]

theorem apply_revokeRefreshToken {r : RefreshToken}
    (found : t.refreshTokens.find (·.id == id) = some r) (revokedAt : Time) :
    t.apply (.revokeRefreshToken id revokedAt) = .ok (r.revoke revokedAt,
      { t with
        refreshTokens := t.refreshTokens.update (·.id == id) (RefreshToken.revoke revokedAt)
          (RefreshToken.revoke_key revokedAt) }) := by
  simp [AccountTables.apply, found, orFail, bind, Except.bind, pure, Except.pure]

end Accepted

theorem account_after_cases (stmt : AccountStatement) (db : Accounts) :
    handleAccount.after stmt db = db ∨
      ∃ reply, db.toAccountTables.apply stmt =
        .ok (reply, (handleAccount.after stmt db).toAccountTables) := by
  cases replied : handleAccount stmt db with
  | error why => exact .inl (handleAccount.after_error replied)
  | ok result =>
      rw [handleAccount.after_ok replied]
      exact .inr ⟨result.1, handleAccount_ok.mp replied⟩

end AccreditationBackend
