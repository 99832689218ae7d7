import AccreditationBackend.Iam.Operations
import AccreditationBackend.MediaDesk.Service

/-! Registration: the account of a requester, then its profile, then its first login. -/

set_option autoImplicit false

namespace AccreditationBackend

open Foundation

structure RegisterRequesterDto extends CreateRequesterProfileDto where
  email : String
  password : String
  deriving DecidableEq, Repr

def registerRequester (services : AuthServices) (ambient : AuthAmbient) (dto : RegisterRequesterDto)
    (ipAddress userAgent : Option String) : AuthOp (AuthTokens × AuthenticatedUser) := do
  let user ← createRequesterAccount services ambient dto.email dto.password
  let _ ← createRequesterProfile services ambient user.id dto.toCreateRequesterProfileDto
  login services ambient dto.email dto.password ⟨ipAddress, userAgent⟩

/-! ## Registrations among the other operations -/

inductive PeopleOperation where
  | account (op : UserOperation)
  | registerRequester (ambient : AuthAmbient) (dto : RegisterRequesterDto)
      (ipAddress userAgent : Option String)
  | addJournalist (ambient : AuthAmbient) (userId : Uuid) (dto : AddJournalistDto)

inductive PeopleReply where
  | user (reply : UserReply)
  | session (tokens : AuthTokens) (user : AuthenticatedUser)
  | profile (profile : RegisteredProfile)
  deriving DecidableEq, Repr

def PeopleOperation.execute (services : AuthServices) : PeopleOperation → AuthOp PeopleReply
  | .account op => return .user (← op.execute services)
  | .registerRequester ambient dto ipAddress userAgent => do
      let (tokens, user) ← AccreditationBackend.registerRequester services ambient dto ipAddress userAgent
      return .session tokens user
  | .addJournalist ambient userId dto =>
      return .profile (← AccreditationBackend.addJournalist services ambient userId dto)

/-! ## Statements -/

section Issues

variable {P : AccountStatement → Prop} (services : AuthServices) (ambient : AuthAmbient)

theorem createRequesterProfile_issues (userId : Uuid) (dto : CreateRequesterProfileDto)
    (creates : ∀ row : RegisteredProfile, row.userId = userId → P (.createProfile row)) :
    (createRequesterProfile services ambient userId dto).Issues P := by
  unfold createRequesterProfile getMedia
  rw [Proc.query_bind, Proc.read_bind]
  intro db
  refine Proc.issues_bind P _ _ (orRefuse_issues _ _) fun medium => ?_
  cases read : services.readable dto.birthDate with
  | true =>
      obtain ⟨date, done⟩ := readBirthDate_done read
      rw [done]
      exact writeAccount_issues (creates _ rfl)
  | false =>
      rw [readBirthDate_fails read]
      trivial

theorem assertEditor_issues (userId : Uuid) : (assertEditor userId).Issues P := by
  unfold assertEditor getRequesterProfileByUserId
  rw [Proc.query_bind]
  intro db
  dsimp only
  split <;> trivial

theorem addJournalist_issues (userId : Uuid) (dto : AddJournalistDto) (announces : ∀ event, P (.publish event))
    (creates : ∀ row : User, row.id = ambient.freshUserId → row.kind = .requester → row.role = none →
      P (.createUser row))
    (profiles : ∀ row, P (.createProfile row)) : (addJournalist services ambient userId dto).Issues P := by
  unfold addJournalist
  refine Proc.issues_bind P _ _ (assertEditor_issues userId) fun editor => ?_
  refine Proc.issues_bind P _ _ ?_ fun user => createRequesterProfile_issues services ambient _ _ fun row _ =>
    profiles row
  exact createRequesterAccount_issues services ambient _ _ announces creates

end Issues

section Sequential

variable (services : AuthServices)

def peopleOutcome (db : Accounts) (op : PeopleOperation) : Except AuthFailure PeopleReply :=
  ((op.execute services).run handleAccount db).1

def performPeople (db : Accounts) (op : PeopleOperation) : Accounts :=
  ((op.execute services).run handleAccount db).2

end Sequential

end AccreditationBackend
