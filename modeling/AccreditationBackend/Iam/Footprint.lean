import AccreditationBackend.Iam.Service

/-! The statements that each account operation can issue, whatever the store replies. -/

set_option autoImplicit false

namespace AccreditationBackend

open Foundation (Proc)

/-- The columns that logins keep, and no others. -/
def UserData.Bookkeeping (data : UserData) : Prop :=
  data.passwordHash = none ∧ data.role = none ∧ data.status = none ∧ data.displayName = none

def AccountStatement.Announces (stmt : AccountStatement) : Prop := ∃ event, stmt = .publish event

def AccountStatement.CountsLogin (stmt : AccountStatement) : Prop :=
  ∃ id data, stmt = .updateUser id data ∧ data.Bookkeeping

def AccountStatement.IssuesToken (stmt : AccountStatement) : Prop := ∃ row, stmt = .createRefreshToken row

def AccountOperation.Footprint (op : AccountOperation) (stmt : AccountStatement) : Prop :=
  match op with
  | .login .. => stmt.Announces ∨ stmt.CountsLogin ∨ stmt.IssuesToken
  | .refresh .. => (∃ id revokedAt, stmt = .revokeRefreshToken id revokedAt) ∨ stmt.IssuesToken
  | .logout .. => ∃ tokenHash revokedAt, stmt = .revokeByHash tokenHash revokedAt
  | .updateStatus id status actorId =>
      stmt.Announces ∨ id ≠ actorId ∧ ∃ data : UserData, stmt = .updateUser id data ∧ data.role = none ∧
        data.status = some status
  | .resetPassword _ id _ _ =>
      stmt.Announces ∨ ∃ (data : UserData) (revokedAt : Time), stmt = .resetPassword id data revokedAt ∧
        data.role = none ∧ data.status = none

section Issues

variable {P : AccountStatement → Prop} (services : AuthServices) (ambient : AuthAmbient)

theorem orRefuse_issues {A : Type} (found : Option A) (why : DomainError) :
    (orRefuse found why).Issues P := by
  cases found <;> trivial

theorem orUnauthorized_issues {A : Type} (found : Option A) (message : String) :
    (orUnauthorized found message).Issues P := by
  cases found <;> trivial

theorem writeAccount_issues {stmt : AccountStatement} (allowed : P stmt) : (writeAccount stmt).Issues P :=
  ⟨allowed, fun _ => trivial⟩

theorem findById_issues (id : Uuid) : (findById id).Issues P := fun _ => trivial

theorem toAuthenticatedUser_issues (user : User) : (toAuthenticatedUser user).Issues P := by
  unfold toAuthenticatedUser
  cases user.kind with
  | requester => exact fun _ => trivial
  | staff => trivial

theorem issueTokens_issues (user : User) (context : LoginContext)
    (creates : ∀ row, P (.createRefreshToken row)) :
    (issueTokens services ambient user context).Issues P := ⟨creates _, fun _ => trivial⟩

theorem refuseLogin_issues {A : Type} (email reason : String) (context : LoginContext)
    (user : Option User) (why : DomainError) (announces : ∀ event, P (.publish event)) :
    (refuseLogin email reason context user why : AuthOp A).Issues P := ⟨announces _, fun _ => trivial⟩

theorem recordSuccessfulLogin_issues (id : Uuid)
    (counts : ∀ data : UserData, data.Bookkeeping → P (.updateUser id data)) :
    (recordSuccessfulLogin ambient id).Issues P := ⟨counts _ ⟨rfl, rfl, rfl, rfl⟩, fun _ => trivial⟩

theorem recordFailedLogin_issues (config : AuthConfig) (id : Uuid)
    (counts : ∀ data : UserData, data.Bookkeeping → P (.updateUser id data)) :
    (recordFailedLogin config ambient id).Issues P := by
  unfold recordFailedLogin
  rw [writeAccount_bind]
  refine ⟨counts _ ⟨rfl, rfl, rfl, rfl⟩, fun user => ?_⟩
  dsimp only
  split
  · trivial
  · exact ⟨counts _ ⟨rfl, rfl, rfl, rfl⟩, fun _ => trivial⟩

/-- After its one lookup, a login counts on the account that it found, and on no other. -/
theorem login_parts (email password : String) (context : LoginContext)
    (announces : ∀ event, P (.publish event)) (creates : ∀ row, P (.createRefreshToken row)) :
    ∃ rest : Option User → AuthOp (AuthTokens × AuthenticatedUser),
      login services ambient email password context = findByEmail services email >>= rest ∧
        ∀ found : Option User,
          (∀ user ∈ found, ∀ data : UserData, data.Bookkeeping → P (.updateUser user.id data)) →
          (rest found).Issues P := by
  refine ⟨_, rfl, fun found counts => ?_⟩
  split
  · exact refuseLogin_issues _ _ _ _ _ announces
  · split
    · split
      next user _ _ =>
        exact Proc.issues_bind P _ _ (recordFailedLogin_issues ambient _ _ (counts user rfl)) fun _ =>
          refuseLogin_issues _ _ _ _ _ announces
      next => exact refuseLogin_issues _ _ _ _ _ announces
    next user verified =>
      have mine := counts user (Option.filter_eq_some_iff.mp verified).1
      split
      · exact refuseLogin_issues _ _ _ _ _ announces
      · refine Proc.issues_bind P _ _ (recordSuccessfulLogin_issues ambient _ mine) fun _ => ?_
        rw [announce_bind]
        refine ⟨announces _, fun _ => ?_⟩
        refine Proc.issues_bind P _ _ (issueTokens_issues services ambient _ _ creates) fun tokens => ?_
        refine Proc.issues_bind P _ _ (toAuthenticatedUser_issues _) fun _ => ?_
        trivial

theorem login_issues (email password : String) (context : LoginContext)
    (announces : ∀ event, P (.publish event))
    (counts : ∀ id data, data.Bookkeeping → P (.updateUser id data))
    (creates : ∀ row, P (.createRefreshToken row)) :
    (login services ambient email password context).Issues P := by
  obtain ⟨rest, parts, issues⟩ := login_parts services ambient email password context announces creates
  rw [parts]
  exact fun db => issues _ fun user _ => counts user.id

theorem refresh_issues (token : String) (context : LoginContext)
    (revokes : ∀ id revokedAt, P (.revokeRefreshToken id revokedAt))
    (creates : ∀ row, P (.createRefreshToken row)) :
    (refresh services ambient token context).Issues P := by
  unfold refresh
  rw [Proc.query_bind]
  intro db
  refine Proc.issues_bind P _ _ (orUnauthorized_issues _ _) fun stored => ?_
  refine Proc.issues_bind P _ _ (findById_issues _) fun account => ?_
  refine Proc.issues_bind P _ _ (orUnauthorized_issues _ _) fun user => ?_
  rw [writeAccount_bind]
  refine ⟨revokes _ _, fun _ => ?_⟩
  exact issueTokens_issues services ambient _ _ creates

theorem updateStatus_issues (id : Uuid) (status : UserStatus) (actorId : Uuid)
    (announces : ∀ event, P (.publish event))
    (writes : id ≠ actorId → ∀ data : UserData, data.role = none → data.status = some status →
      P (.updateUser id data)) :
    (updateStatus id status actorId).Issues P := by
  unfold updateStatus
  refine Proc.issues_bind P _ _ (findById_issues id) fun found => ?_
  refine Proc.issues_bind P _ _ (orRefuse_issues _ _) fun user => ?_
  split
  · trivial
  next other =>
    refine ⟨writes other _ ?_ ?_, fun updated => ⟨announces _, fun _ => trivial⟩⟩ <;> split <;> rfl

theorem resetPassword_issues (id : Uuid) (newPassword : String) (actorId : Uuid)
    (announces : ∀ event, P (.publish event))
    (writes : ∀ (data : UserData) revokedAt, data.role = none → data.status = none →
      P (.resetPassword id data revokedAt)) :
    (resetPassword services ambient id newPassword actorId).Issues P := by
  unfold resetPassword
  refine Proc.issues_bind P _ _ (findById_issues id) fun found => ?_
  refine Proc.issues_bind P _ _ (orRefuse_issues _ _) fun user => ?_
  exact ⟨writes _ _ rfl rfl, fun _ => ⟨announces _, fun _ => trivial⟩⟩

theorem account_issues (op : AccountOperation) : (op.execute services).Issues op.Footprint := by
  cases op with
  | login ambient email password context =>
      exact Proc.issues_return _ (login_issues services ambient email password context (fun e => .inl ⟨e, rfl⟩)
        (fun id data kept => .inr (.inl ⟨id, data, rfl, kept⟩)) fun row => .inr (.inr ⟨row, rfl⟩))
  | refresh ambient token context =>
      exact Proc.issues_return _ (refresh_issues services ambient token context (fun id at_ => .inl ⟨id, at_, rfl⟩)
        fun row => .inr ⟨row, rfl⟩)
  | logout ambient token => exact ⟨⟨_, _, rfl⟩, fun _ => trivial⟩
  | updateStatus id status actorId =>
      exact Proc.issues_return _ (updateStatus_issues id status actorId (fun e => .inl ⟨e, rfl⟩)
        fun other data role written => .inr ⟨other, data, rfl, role, written⟩)
  | resetPassword ambient id newPassword actorId =>
      exact Proc.issues_return _
        (resetPassword_issues services ambient id newPassword actorId (fun e => .inl ⟨e, rfl⟩)
        fun data at_ role status => .inr ⟨data, at_, rfl, role, status⟩)

end Issues

/-- No session operation deletes, and none creates an account or a profile. -/
def AccountStatement.keepsPeople : AccountStatement → Bool
  | .createUser _ => false
  | .deleteUser _ => false
  | .createProfile _ => false
  | _ => true

theorem account_footprint_keepsPeople {op : AccountOperation} {stmt : AccountStatement}
    (footprint : op.Footprint stmt) :
    stmt.keepsPeople = true := by
  cases op <;>
    simp only [AccountOperation.Footprint, AccountStatement.Announces, AccountStatement.CountsLogin,
    AccountStatement.IssuesToken] at footprint <;> grind [AccountStatement.keepsPeople]

end AccreditationBackend
