import AccreditationBackend.Foundation.Runs
import AccreditationBackend.Iam.Operations
import AccreditationBackend.Iam.Guards

/-! The privileges of requesters: roles in sequential runs, and the routes that they open. -/

set_option autoImplicit false

namespace AccreditationBackend

open Foundation

def User.RoleFits (u : User) : Prop := u.role.isSome = true ↔ u.kind = .staff

/-- Internal accounts have a role, and no other account has one. -/
def RolesFit (db : Accounts) : Prop := ∀ id u, db.userById id = some u → u.RoleFits

/-- The statement gives no role, but to a new internal account. -/
def AccountStatement.GrantsNoRole : AccountStatement → Prop
  | .createUser row => row.RoleFits
  | .updateUser _ data => data.role = none
  | .resetPassword _ data _ => data.role = none
  | _ => True

section Steps

variable {db : Accounts} {u : User}

theorem User.RoleFits.apply (fits : u.RoleFits) {data : UserData} (kept : data.role = none) :
    (data.apply u).RoleFits := by
  simpa [User.RoleFits, UserData.apply, kept] using fits

theorem rolesFit_kept (fit : RolesFit db) {stmt : AccountStatement} (grants : stmt.GrantsNoRole) :
    RolesFit (handleAccount.after stmt db) := by
  intro id u found
  have step := user_step stmt db id
  rw [found] at step
  generalize before : db.userById id = known at step
  cases step with
  | created => exact grants
  | updated => exact (fit id _ before).apply grants
  | reset => exact (fit id _ before).apply grants
  | unchanged => exact fit id u before

variable (services : AuthServices) {op : UserOperation}

theorem operation_fits (fit : RolesFit db) (grants : ∀ stmt, op.Footprint stmt → stmt.GrantsNoRole) :
    RolesFit (performUser services db op) :=
  (op.execute services).run_frame (R := fun s t => RolesFit s → RolesFit t) handleAccount
  (fun _ fit => fit)
    (fun _ _ _ first second fit => second (first fit)) (fun _ _ grants fit => rolesFit_kept fit grants)
    (Proc.issues_mono _ (user_issues services op) grants) db fit

theorem announces_noRole {stmt : AccountStatement} (announces : stmt.Announces) : stmt.GrantsNoRole := by
  obtain ⟨_, rfl⟩ := announces
  trivial

theorem counts_noRole {stmt : AccountStatement} (counts : stmt.CountsLogin) : stmt.GrantsNoRole := by
  obtain ⟨_, _, rfl, kept⟩ := counts
  exact kept.2.1

theorem opens_noRole {stmt : AccountStatement} {kind : UserKind} {role : Option StaffRole}
    (fits : role.isSome = true ↔ kind = .staff)
    (footprint : stmt.Announces ∨
      ∃ row : User, stmt = .createUser row ∧ row.kind = kind ∧ row.role = role) :
    stmt.GrantsNoRole := by
  rcases footprint with announces | ⟨row, rfl, rfl, rfl⟩
  · exact announces_noRole announces
  · exact fits

theorem session_noRole {op : AccountOperation} {stmt : AccountStatement} (footprint : op.Footprint stmt) :
    stmt.GrantsNoRole := by
  cases op with
  | login ambient email password context =>
      rcases footprint with announces | counts | ⟨_, rfl⟩
      · exact announces_noRole announces
      · exact counts_noRole counts
      · trivial
  | refresh ambient token context => rcases footprint with ⟨_, _, rfl⟩ | ⟨_, rfl⟩ <;> trivial
  | logout ambient token =>
      obtain ⟨_, _, rfl⟩ := footprint
      trivial
  | updateStatus id status actorId =>
      rcases footprint with announces | ⟨_, _, rfl, role, _⟩
      · exact announces_noRole announces
      · exact role
  | resetPassword ambient id newPassword actorId =>
      rcases footprint with announces | ⟨_, _, rfl, role, _⟩
      · exact announces_noRole announces
      · exact role

/-- A role given later is given to an internal account alone. -/
theorem updateStaffUser_fits (fit : RolesFit db) (id : Uuid) (dto : UpdateStaffUserDto) (actorId : Uuid) :
    RolesFit (performUser services db (.updateStaffUser id dto actorId)) := by
  cases found : db.userById id with
  | none =>
      rw [updateStaffUser_missing services found]
      exact fit
  | some u =>
      by_cases refused : dto.role.isSome ∧ u.kind ≠ .staff
      · rw [updateStaffUser_refused services found actorId refused.1 refused.2]
        exact fit
      · have allowed (given : dto.role.isSome) : u.kind = .staff := by
          by_contra kind
          exact refused ⟨given, kind⟩
        intro other v row
        by_cases same : other = id
        · subst same
          cases row.symm.trans (updateStaffUser_written services found dto actorId allowed)
          cases given : dto.role with
          | none => exact (fit other u found).apply rfl
          | some role => exact iff_of_true rfl (allowed (by rw [given]; rfl))
        · rw [updateStaffUser_others services same] at row
          exact fit other v row

theorem rolesFit_step (fit : RolesFit db) (op : UserOperation) :
    RolesFit (performUser services db op) := by
  cases op with
  | updateStaffUser id dto actorId => exact updateStaffUser_fits services fit id dto actorId
  | session op => exact operation_fits services fit fun stmt footprint => session_noRole footprint
  | createRequesterAccount ambient email password =>
      have fits : (none : Option StaffRole).isSome = true ↔ UserKind.requester = .staff := by simp
      exact operation_fits services fit fun stmt footprint => opens_noRole fits footprint
  | createStaffUser ambient dto actorId =>
      have fits : (some dto.role).isSome = true ↔ UserKind.staff = .staff := by simp
      exact operation_fits services fit fun stmt footprint => opens_noRole fits footprint
  | updateOwnDisplayName id displayName =>
      refine operation_fits services fit fun stmt footprint => ?_
      obtain ⟨_, rfl, role, _⟩ := footprint
      exact role
  | deleteStaffUser id actorId =>
      refine operation_fits services fit fun stmt footprint => ?_
      rcases footprint with announces | ⟨_, rfl⟩
      · exact announces_noRole announces
      · trivial
  | recordSuccessfulLogin ambient id =>
      refine operation_fits services fit fun stmt footprint => ?_
      obtain ⟨data, rfl, kept⟩ := footprint
      exact kept.2.1
  | recordFailedLogin ambient id =>
      refine operation_fits services fit fun stmt footprint => ?_
      obtain ⟨data, rfl, kept⟩ := footprint
      exact kept.2.1

end Steps

/-- From no user at all, every run of account operations leaves roles to internal
accounts. A requester whom a route authenticates is refused when the route
requires permissions that are not a requester's own; and an account that is not
active is not authenticated, whatever its token says. -/
theorem requesters_confined (services : AuthServices) (start : Accounts) (nobody : start.users.rows = [])
    (ops : List UserOperation) :
    (∀ u ∈ (runFrom (performUser services) start ops).users.rows, u.role.isSome = true ↔
      u.kind = .staff) ∧
    (∀ u ∈ (runFrom (performUser services) start ops).users.rows, u.kind = .requester →
      ∀ (route : Route) (required : List Permission), route.required = some required → required ≠ [] →
        (∀ p ∈ required, p ≠ .requestsReadOwn ∧ p ≠ .requestsWriteOwn) →
        ∀ (payload : JwtPayload) (self : AuthenticatedUser) (t : Accounts), payload.sub = u.id →
          (JwtAuthGuard.canActivate route (some payload)).run handleAccount
            (runFrom (performUser services) start ops) =
            (.ok (some self), t) →
          PermissionsGuard.canActivate route (some self) =
            .error ⟨"Vous n'avez pas les droits necessaires pour cette action."⟩) ∧
    ∀ u ∈ (runFrom (performUser services) start ops).users.rows, u.status ≠ .active →
      ∀ payload : JwtPayload, payload.sub = u.id →
        (JwtStrategy.validate payload).run handleAccount (runFrom (performUser services) start ops) =
          (.error (.unauthorized "Session invalide."), runFrom (performUser services) start ops) := by
  have fits : RolesFit (runFrom (performUser services) start ops) := by
    refine runFrom_invariant (I := RolesFit) (P := fun _ _ => True)
      (fun db op fit _ => rolesFit_step services fit op)
      (fun id u found => ?_) (along_iff.mpr fun _ _ _ _ => trivial)
    have member := (Table.find_some_mem found).1
    rw [nobody] at member
    cases member
  have present {u : User} (member : u ∈ (runFrom (performUser services) start ops).users.rows) :
      (runFrom (performUser services) start ops).userById u.id = some u :=
    (Table.find_some_iff (selects_userId u.id)).mpr ⟨member, beq_self_eq_true _⟩
  refine ⟨fun u member => fits u.id u (present member), ?_, ?_⟩
  · intro u member requester route required requires some_ others payload self t sub authenticated
    obtain ⟨guarded, validated⟩ := authenticated_validated authenticated
    obtain ⟨user, found, _, permissions⟩ := validate_returned validated
    rw [sub] at found
    cases (present member).symm.trans found
    have roleless : u.role = none := by
      have fit := fits u.id u (present member)
      rw [User.RoleFits, requester] at fit
      simpa using fit
    refine permissions_refused guarded requires some_ self fun p has needed => ?_
    rw [permissions, roleless] at has
    simp only [permissionsForRole, List.mem_cons, List.not_mem_nil, or_false] at has
    rcases has with rfl | rfl
    · exact (others _ needed).1 rfl
    · exact (others _ needed).2 rfl
  · intro u member inactive payload sub
    refine validate_inactive ?_ inactive
    rw [sub]
    exact present member

/-- An administrator and a requester are created. -/
def deskOpened : List UserOperation :=
  [.createStaffUser { freshUserId := "awa" } ⟨"awa@fsf.sn", .admin, "temporary", none⟩ "seed",
    .createRequesterAccount { freshUserId := "binta" } "binta@press.sn" "secret"]

def bintaRow : User where
  id := "binta"
  email := "binta@press.sn"
  passwordHash := "secret"
  kind := .requester
  status := .active

def userAdministration : Route := { controller := { permissions := some [.usersManage] } }

/-- The requester is authenticated, and cannot manage users. -/
theorem requester_confined :
    ∃ self, ((JwtAuthGuard.canActivate userAdministration (some ⟨"binta"⟩)).run handleAccount
        (runFrom (performUser sampleAuth) Accounts.empty deskOpened)).1 = .ok (some self) ∧
      PermissionsGuard.canActivate userAdministration (some self) =
        .error ⟨"Vous n'avez pas les droits necessaires pour cette action."⟩ :=
  ⟨_, rfl, (requesters_confined sampleAuth Accounts.empty rfl deskOpened).2.1 bintaRow
    (by decide) rfl userAdministration
    [.usersManage] rfl (by decide) (by decide) ⟨"binta"⟩ _ _ rfl rfl⟩

end AccreditationBackend
