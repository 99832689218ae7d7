import AccreditationBackend.Iam.Effects

/-! The operations on user accounts as one machine, and the statements that each can issue. -/

set_option autoImplicit false

namespace AccreditationBackend

open Foundation

inductive UserOperation where
  | session (op : AccountOperation)
  | createRequesterAccount (ambient : AuthAmbient) (email password : String)
  | createStaffUser (ambient : AuthAmbient) (dto : CreateStaffUserDto) (actorId : Uuid)
  | updateOwnDisplayName (id : Uuid) (displayName : String)
  | updateStaffUser (id : Uuid) (dto : UpdateStaffUserDto) (actorId : Uuid)
  | deleteStaffUser (id actorId : Uuid)
  | recordSuccessfulLogin (ambient : AuthAmbient) (id : Uuid)
  | recordFailedLogin (ambient : AuthAmbient) (id : Uuid)

inductive UserReply where
  | account (reply : AccountReply)
  | created (user : User)
  | safe (user : SafeUser)
  | failedLogin (failure : FailedLogin)
  | nothing
  deriving DecidableEq, Repr

def UserOperation.execute (services : AuthServices) : UserOperation → AuthOp UserReply
  | .session op => return .account (← op.execute services)
  | .createRequesterAccount ambient email password =>
      return .created (← AccreditationBackend.createRequesterAccount services ambient email password)
  | .createStaffUser ambient dto actorId =>
      return .safe (← AccreditationBackend.createStaffUser services ambient dto actorId)
  | .updateOwnDisplayName id displayName =>
      return .safe (← AccreditationBackend.updateOwnDisplayName id displayName)
  | .updateStaffUser id dto actorId =>
      return .safe (← AccreditationBackend.updateStaffUser id dto actorId)
  | .deleteStaffUser id actorId => do
      AccreditationBackend.deleteStaffUser id actorId
      return .nothing
  | .recordSuccessfulLogin ambient id => do
      AccreditationBackend.recordSuccessfulLogin ambient id
      return .nothing
  | .recordFailedLogin ambient id =>
      return .failedLogin (← AccreditationBackend.recordFailedLogin services.config ambient id)

section Sequential

variable (services : AuthServices)

def performUser (db : Accounts) (op : UserOperation) : Accounts :=
  ((op.execute services).run handleAccount db).2

end Sequential

/-! ## Statements -/

def UserOperation.Footprint (op : UserOperation) (stmt : AccountStatement) : Prop :=
  match op with
  | .session op => op.Footprint stmt
  | .createRequesterAccount .. =>
      stmt.Announces ∨ ∃ row : User, stmt = .createUser row ∧ row.kind = .requester ∧ row.role = none
  | .createStaffUser _ dto _ =>
      stmt.Announces ∨ ∃ row : User, stmt = .createUser row ∧ row.kind = .staff ∧ row.role = some dto.role
  | .updateOwnDisplayName id _ =>
      ∃ data : UserData, stmt = .updateUser id data ∧ data.role = none ∧ data.status = none
  | .updateStaffUser id dto _ =>
      stmt.Announces ∨ ∃ data : UserData, stmt = .updateUser id data ∧ data.role = dto.role ∧
        data.status = none
  | .deleteStaffUser id actorId => stmt.Announces ∨ id ≠ actorId ∧ stmt = .deleteUser id
  | .recordSuccessfulLogin _ id => ∃ data : UserData, stmt = .updateUser id data ∧ data.Bookkeeping
  | .recordFailedLogin _ id => ∃ data : UserData, stmt = .updateUser id data ∧ data.Bookkeeping

section Issues

variable {P : AccountStatement → Prop} (services : AuthServices) (ambient : AuthAmbient)

theorem refuseUsedEmail_issues (email : String) : (refuseUsedEmail services email).Issues P := by
  unfold refuseUsedEmail findByEmail
  rw [Proc.query_bind]
  intro db
  dsimp only
  split <;> trivial

theorem createRequesterAccount_issues (email password : String) (announces : ∀ event, P (.publish event))
    (creates : ∀ row : User, row.id = ambient.freshUserId → row.kind = .requester → row.role = none →
      P (.createUser row)) :
    (createRequesterAccount services ambient email password).Issues P := by
  unfold createRequesterAccount
  refine Proc.issues_bind P _ _ (refuseUsedEmail_issues services email) fun _ => ?_
  exact ⟨creates _ rfl rfl rfl, fun user => ⟨announces _, fun _ => trivial⟩⟩

theorem createStaffUser_issues (dto : CreateStaffUserDto) (actorId : Uuid)
    (announces : ∀ event, P (.publish event))
    (creates : ∀ row : User, row.kind = .staff → row.role = some dto.role → P (.createUser row)) :
    (createStaffUser services ambient dto actorId).Issues P := by
  unfold createStaffUser
  refine Proc.issues_bind P _ _ (refuseUsedEmail_issues services dto.email) fun _ => ?_
  exact ⟨creates _ rfl rfl, fun user => ⟨announces _, fun _ => trivial⟩⟩

/-- What follows the checks of `updateStaffUser`. -/
theorem roleUpdated_issues (id : Uuid) (dto : UpdateStaffUserDto) (actorId : Uuid) (user : User)
    (announces : ∀ event, P (.publish event))
    (writes : P (.updateUser id { role := dto.role, displayName := dto.displayName })) :
    (do
      let updated : User ←
        writeAccount (.updateUser id { role := dto.role, displayName := dto.displayName })
      if let some role := dto.role then
        if user.role ≠ some role then announce (.roleUpdated id user.role role actorId)
      return updated.safe : AuthOp SafeUser).Issues P := by
  rw [writeAccount_bind]
  refine ⟨writes, fun updated => ?_⟩
  dsimp only
  split
  · split
    · exact ⟨announces _, fun _ => trivial⟩
    · trivial
  · trivial

theorem updateStaffUser_issues (id : Uuid) (dto : UpdateStaffUserDto) (actorId : Uuid)
    (announces : ∀ event, P (.publish event))
    (writes : P (.updateUser id { role := dto.role, displayName := dto.displayName })) :
    (updateStaffUser id dto actorId).Issues P := by
  unfold updateStaffUser
  refine Proc.issues_bind P _ _ (findById_issues id) fun found => ?_
  refine Proc.issues_bind P _ _ (orRefuse_issues _ _) fun user => ?_
  split
  · trivial
  · exact roleUpdated_issues id dto actorId user announces writes

theorem deleteStaffUser_issues (id actorId : Uuid) (announces : ∀ event, P (.publish event))
    (deletes : id ≠ actorId → P (.deleteUser id)) : (deleteStaffUser id actorId).Issues P := by
  unfold deleteStaffUser
  refine Proc.issues_bind P _ _ (findById_issues id) fun found => ?_
  refine Proc.issues_bind P _ _ (orRefuse_issues _ _) fun user => ?_
  split
  · trivial
  next other =>
    rw [writeAccount_bind]
    refine ⟨deletes other, fun deleted => ?_⟩
    dsimp only
    split
    · exact ⟨announces _, fun _ => trivial⟩
    · trivial
    · trivial

theorem user_issues (op : UserOperation) : (op.execute services).Issues op.Footprint := by
  cases op with
  | session op => exact Proc.issues_return _ (account_issues services op)
  | createRequesterAccount ambient email password =>
      exact Proc.issues_return _
        (createRequesterAccount_issues services ambient email password (fun e => .inl ⟨e, rfl⟩)
        fun row _ kind role => .inr ⟨row, rfl, kind, role⟩)
  | createStaffUser ambient dto actorId =>
      exact Proc.issues_return _ (createStaffUser_issues services ambient dto actorId (fun e => .inl ⟨e, rfl⟩)
        fun row kind role => .inr ⟨row, rfl, kind, role⟩)
  | updateOwnDisplayName id displayName => exact ⟨⟨_, rfl, rfl, rfl⟩, fun _ => trivial⟩
  | updateStaffUser id dto actorId =>
      exact Proc.issues_return _
        (updateStaffUser_issues id dto actorId (fun e => .inl ⟨e, rfl⟩) (.inr ⟨_, rfl, rfl, rfl⟩))
  | deleteStaffUser id actorId =>
      exact Proc.issues_return _
        (deleteStaffUser_issues id actorId (fun e => .inl ⟨e, rfl⟩) fun other => .inr ⟨other, rfl⟩)
  | recordSuccessfulLogin ambient id =>
      exact Proc.issues_return _
        (recordSuccessfulLogin_issues ambient id fun data kept => ⟨data, rfl, kept⟩)
  | recordFailedLogin ambient id =>
      exact Proc.issues_return _
        (recordFailedLogin_issues ambient services.config id fun data kept => ⟨data, rfl, kept⟩)

end Issues

/-! ## What `updateStaffUser` writes -/

section StaffUpdates

variable (services : AuthServices) {db : Accounts} {id : Uuid} {u : User}

theorem updateStaffUser_performed (dto : UpdateStaffUserDto) (actorId : Uuid) :
    performUser services db (.updateStaffUser id dto actorId) =
      ((updateStaffUser id dto actorId).run handleAccount db).2 :=
  congrArg Prod.snd (Proc.run_map handleAccount (updateStaffUser id dto actorId) UserReply.safe db)

/-- Nothing keeps the update from an internal account, or from an update without a role. -/
theorem updateStaffUser_written (found : db.userById id = some u) (dto : UpdateStaffUserDto)
    (actorId : Uuid) (allowed : dto.role.isSome → u.kind = .staff) :
    (performUser services db (.updateStaffUser id dto actorId)).userById id =
      some (({ role := dto.role, displayName := dto.displayName } : UserData).apply u) := by
  have written := row_updateUser found { role := dto.role, displayName := dto.displayName }
  have unrefused : ¬ (dto.role.isSome ∧ u.kind ≠ .staff) := fun both => both.2 (allowed both.1)
  rw [updateStaffUser_performed]
  simp only [updateStaffUser, findById, Proc.query_bind, Proc.run, found, orRefuse_some_bind]
  rw [if_neg unrefused, writeAccount_bind, Proc.run, handle_updateUser found]
  refine (run_keeps_user ?_ _).trans written
  split
  · split
    · exact ⟨rfl, fun _ => trivial⟩
    · trivial
  · trivial

theorem updateStaffUser_refused (found : db.userById id = some u) {dto : UpdateStaffUserDto}
    (actorId : Uuid) (role : dto.role.isSome) (kind : u.kind ≠ .staff) :
    performUser services db (.updateStaffUser id dto actorId) = db := by
  rw [updateStaffUser_performed]
  simp only [updateStaffUser, findById, Proc.query_bind, Proc.run, found, orRefuse_some_bind]
  rw [if_pos ⟨role, kind⟩]
  rfl

theorem updateStaffUser_missing (missing : db.userById id = none) (dto : UpdateStaffUserDto)
    (actorId : Uuid) :
    performUser services db (.updateStaffUser id dto actorId) = db := by
  rw [updateStaffUser_performed]
  simp only [updateStaffUser, findById, Proc.query_bind, Proc.run, missing]
  rfl

theorem updateStaffUser_others {other : Uuid} (apart : other ≠ id) (dto : UpdateStaffUserDto)
    (actorId : Uuid) :
    (performUser services db (.updateStaffUser id dto actorId)).userById other = db.userById other := by
  refine run_keeps_user ?_ db
  refine Proc.issues_mono _ (user_issues services _) fun stmt footprint => ?_
  rcases footprint with ⟨_, rfl⟩ | ⟨data, rfl, _⟩
  · rfl
  · simpa [AccountStatement.writesUser] using apart.symm

end StaffUpdates

end AccreditationBackend
