import AccreditationBackend.Store.Rows

/-! Rows of the accounts: users, their refresh tokens, and the events about them. -/

set_option autoImplicit false

namespace AccreditationBackend

open Foundation (Keyed)

inductive UserKind where
  | staff | requester
  deriving DecidableEq, Repr

inductive StaffRole where
  | admin | responsableAccreditation | commissionValidation | agentControle | superviseur
  deriving DecidableEq, Repr

inductive UserStatus where
  | pending | active | inactive | suspended
  deriving DecidableEq, Repr

structure User where
  id : Uuid
  email : String
  passwordHash : String
  kind : UserKind
  role : Option StaffRole := none
  status : UserStatus := .pending
  mfaEnabled : Bool := false
  displayName : Option String := none
  lastLoginAt : Option Time := none
  failedLoginAttempts : Nat := 0
  lockedUntil : Option Time := none
  deriving DecidableEq, Repr

/-- A user without its password hash. -/
structure SafeUser where
  id : Uuid
  email : String
  kind : UserKind
  role : Option StaffRole
  status : UserStatus
  mfaEnabled : Bool
  displayName : Option String
  lastLoginAt : Option Time
  failedLoginAttempts : Nat
  lockedUntil : Option Time
  deriving DecidableEq, Repr

def User.safe (u : User) : SafeUser where
  id := u.id
  email := u.email
  kind := u.kind
  role := u.role
  status := u.status
  mfaEnabled := u.mfaEnabled
  displayName := u.displayName
  lastLoginAt := u.lastLoginAt
  failedLoginAttempts := u.failedLoginAttempts
  lockedUntil := u.lockedUntil

structure RefreshToken where
  id : Uuid
  userId : Uuid
  tokenHash : String
  expiresAt : Time
  revokedAt : Option Time := none
  createdByIp : Option String := none
  userAgent : Option String := none
  deriving DecidableEq, Repr

/-- The columns of a requester profile that a session reads. -/
structure ProfileLink where
  id : Uuid
  userId : Uuid
  deriving DecidableEq, Repr

inductive RequesterStatus where
  | pending | validated | rejected | suspended
  deriving DecidableEq, Repr

/-- A requester profile as registration writes it. -/
structure RegisteredProfile extends ProfileLink where
  mediaId : Uuid
  firstName : String
  lastName : String
  birthDate : Option Time := none
  nationality : Option String := none
  phone : String
  address : Option String := none
  function : String
  specialty : Option String := none
  pressCardNumber : Option String := none
  professionalPhone : Option String := none
  professionalEmail : Option String := none
  status : RequesterStatus := .pending
  isEditorInChief : Bool := false
  deriving DecidableEq, Repr

instance : Keyed User := Keyed.byEither (·.id) (·.email)
instance : Keyed RefreshToken := Keyed.byEither (·.id) (·.tokenHash)
instance : Keyed RegisteredProfile := Keyed.byEither (·.id) (·.userId)

/-! ## Data of the statements -/

inductive CounterUpdate where
  | set (value : Nat)
  | increment (amount : Nat)
  deriving DecidableEq, Repr

def CounterUpdate.apply : CounterUpdate → Nat → Nat
  | .set value, _ => value
  | .increment amount, counter => counter + amount

/-- The columns of a user update; an absent one is left alone. -/
structure UserData where
  passwordHash : Option String := none
  role : Option StaffRole := none
  status : Option UserStatus := none
  displayName : Option (Option String) := none
  failedLoginAttempts : Option CounterUpdate := none
  lockedUntil : Option (Option Time) := none
  lastLoginAt : Option Time := none
  deriving DecidableEq, Repr

def UserData.apply (data : UserData) (u : User) : User :=
  { u with
    passwordHash := data.passwordHash.getD u.passwordHash
    role := data.role.or u.role
    status := data.status.getD u.status
    displayName := data.displayName.getD u.displayName
    failedLoginAttempts := (data.failedLoginAttempts.map (·.apply u.failedLoginAttempts)).getD
      u.failedLoginAttempts
    lockedUntil := data.lockedUntil.getD u.lockedUntil
    lastLoginAt := data.lastLoginAt.or u.lastLoginAt }

def RefreshToken.revoke (revokedAt : Time) (r : RefreshToken) : RefreshToken :=
  { r with revokedAt := some revokedAt }

theorem UserData.apply_key (data : UserData) (u : User) : Keyed.key (data.apply u) = Keyed.key u := rfl

theorem RefreshToken.revoke_key (revokedAt : Time) (r : RefreshToken) :
    Keyed.key (r.revoke revokedAt) = Keyed.key r := rfl

inductive UserEvent where
  | accountCreated (userId : Uuid) (email : String) (kind : UserKind) (role : Option StaffRole)
      (actorId : Option Uuid)
  | roleUpdated (userId : Uuid) (fromRole : Option StaffRole) (toRole : StaffRole) (actorId : Uuid)
  | statusUpdated (userId : Uuid) (fromStatus toStatus : UserStatus) (actorId : Uuid)
  | passwordReset (userId actorId : Uuid)
  | deleted (userId : Uuid) (email : String) (actorId : Uuid)
  | loginSucceeded (userId : Uuid) (email : String) (actorId : Uuid) (ipAddress userAgent : Option String)
  | loginFailed (email reason : String) (ipAddress userAgent : Option String) (userId : Option Uuid)
  deriving DecidableEq, Repr

/-- The name under which the event bus emits an event. -/
def UserEvent.eventName : UserEvent → String
  | .accountCreated .. => "user.account_created"
  | .roleUpdated .. => "user.role_updated"
  | .statusUpdated .. => "user.status_updated"
  | .passwordReset .. => "user.password_reset"
  | .deleted .. => "user.deleted"
  | .loginSucceeded .. => "user.login_succeeded"
  | .loginFailed .. => "user.login_failed"

end AccreditationBackend
