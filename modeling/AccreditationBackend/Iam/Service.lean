import AccreditationBackend.Foundation.Runs
import AccreditationBackend.Foundation.Interleaving
import AccreditationBackend.Kernel.Instants
import AccreditationBackend.Iam.Permissions
import AccreditationBackend.Iam.Accounts

/-! Authentication: logins, refresh tokens and their rotation, and the administration of accounts. -/

set_option autoImplicit false

namespace AccreditationBackend

open Foundation (Proc Pool Table)

abbrev AuthOp (A : Type) := Proc accountStore Accounts AuthFailure A

structure AuthConfig where
  accessTtl : String := "15m"
  refreshTtl : String := "30d"
  maxFailedLoginAttempts : Nat := 5
  lockoutDurationMinutes : Nat := 15
  deriving DecidableEq, Repr

/-- What an access token says of its holder. -/
structure AccessClaims where
  sub : Uuid
  email : String
  kind : UserKind
  role : Option StaffRole
  deriving DecidableEq, Repr

/-- The configuration, the hashes of tokens and passwords (a password with its
salt), the signature of access tokens, the lower case of an address, and the
instant that a date denotes, if it is one. -/
structure AuthServices where
  config : AuthConfig := {}
  hashToken : String → String
  hashPassword : String → String → String
  verifyPassword : String → String → Bool
  signAccess : AccessClaims → String → Time → String
  toLowerCase : String → String
  parseDate : String → Option Time := fun _ => none

/-- What one call draws from its surroundings. -/
structure AuthAmbient where
  clock : Nat → Time := fun _ => 0
  freshUserId : Uuid := ""
  freshProfileId : Uuid := ""
  freshId : Uuid := ""
  opaqueToken : String := ""
  salt : String := ""

structure LoginContext where
  ipAddress : Option String := none
  userAgent : Option String := none
  deriving DecidableEq, Repr

structure AuthTokens where
  accessToken : String
  refreshToken : String
  expiresIn : String
  deriving DecidableEq, Repr

structure AuthenticatedUser where
  id : Uuid
  email : String
  kind : UserKind
  role : Option StaffRole
  requesterProfileId : Option Uuid
  permissions : List Permission
  deriving DecidableEq, Repr

/-! ## Steps -/

section Steps

variable {A B : Type}

def refuse (why : DomainError) : AuthOp A := .fail (.failed (.domain why))

def orRefuse (found : Option A) (why : DomainError) : AuthOp A :=
  match found with
  | some value => .done value
  | none => refuse why

def orUnauthorized (found : Option A) (message : String) : AuthOp A :=
  match found with
  | some value => .done value
  | none => .fail (.unauthorized message)

def writeAccount (stmt : AccountStatement) : AuthOp stmt.Reply := Proc.command (I := accountStore) stmt

def announce (event : UserEvent) : AuthOp Unit := writeAccount (.publish event)

variable {f : A → AuthOp B}

@[simp] theorem orUnauthorized_some_bind (value : A) (message : String) :
    (orUnauthorized (some value) message >>= f) = f value := rfl

@[simp] theorem orUnauthorized_none_bind (message : String) :
    (orUnauthorized none message >>= f) = .fail (.unauthorized message) := rfl

@[simp] theorem orRefuse_some_bind (value : A) (why : DomainError) :
    (orRefuse (some value) why >>= f) = f value := rfl

@[simp] theorem orRefuse_none_bind (why : DomainError) :
    (orRefuse none why >>= f) = .fail (.failed (.domain why)) := rfl

@[simp] theorem refuse_bind (why : DomainError) :
    ((refuse why : AuthOp A) >>= f) = .fail (.failed (.domain why)) := rfl

@[simp] theorem writeAccount_bind (stmt : AccountStatement) (g : stmt.Reply → AuthOp B) :
    (writeAccount stmt >>= g) = .exec stmt g := rfl

@[simp] theorem announce_bind (event : UserEvent) (g : Unit → AuthOp B) :
    (announce event >>= g) = .exec (AccountStatement.publish event) g := rfl

end Steps

/-! ## Users -/

def userNotFound : DomainError :=
  { code := "USER_NOT_FOUND", message := "Utilisateur introuvable.", kind := .notFound }

def cannotModifySelf : DomainError where
  code := "USER_CANNOT_MODIFY_SELF"
  message := "Vous ne pouvez pas modifier le statut de votre propre compte."
  kind := .forbidden

def cannotDeleteSelf : DomainError where
  code := "USER_CANNOT_MODIFY_SELF"
  message := "Vous ne pouvez pas supprimer votre propre compte."
  kind := .forbidden

def userEmailAlreadyUsed : DomainError where
  code := "USER_EMAIL_ALREADY_USED"
  message := "Cette adresse e-mail est deja utilisee."
  kind := .conflict

def roleRequiresStaffKind : DomainError where
  code := "USER_ROLE_REQUIRES_STAFF_KIND"
  message := "Seul un compte interne (STAFF) peut se voir attribuer un role."

def userHasHistory : DomainError where
  code := "USER_HAS_HISTORY"
  message := "Cet utilisateur a un historique d'activite (documents, decisions, scans...) et ne peut pas etre supprime — " ++
    "desactivez-le plutot."
  kind := .conflict

structure CreateStaffUserDto where
  email : String
  role : StaffRole
  temporaryPassword : String
  displayName : Option String := none
  deriving DecidableEq, Repr

/-- A display name of `some none` is `null`, and is written. -/
structure UpdateStaffUserDto where
  role : Option StaffRole := none
  displayName : Option (Option String) := none
  deriving DecidableEq, Repr

def findByEmail (services : AuthServices) (email : String) : AuthOp (Option User) :=
  Proc.query fun db => db.userByEmail (services.toLowerCase email)

def findById (id : Uuid) : AuthOp (Option User) := Proc.query fun db => db.userById id

/-- The address must be free. -/
def refuseUsedEmail (services : AuthServices) (email : String) : AuthOp Unit := do
  let existing ← findByEmail services email
  if existing.isSome then refuse userEmailAlreadyUsed

def createRequesterAccount (services : AuthServices) (ambient : AuthAmbient)
    (email password : String) : AuthOp User := do
  refuseUsedEmail services email
  let passwordHash := services.hashPassword password ambient.salt
  let user : User ← writeAccount (.createUser {
    id := ambient.freshUserId
    email := services.toLowerCase email
    passwordHash
    kind := .requester
    status := .active })
  announce (.accountCreated user.id user.email user.kind none none)
  return user

def createStaffUser (services : AuthServices) (ambient : AuthAmbient) (dto : CreateStaffUserDto)
    (actorId : Uuid) : AuthOp SafeUser := do
  refuseUsedEmail services dto.email
  let passwordHash := services.hashPassword dto.temporaryPassword ambient.salt
  let user : User ← writeAccount (.createUser {
    id := ambient.freshUserId
    email := services.toLowerCase dto.email
    passwordHash
    kind := .staff
    role := some dto.role
    status := .active
    displayName := dto.displayName })
  announce (.accountCreated user.id user.email user.kind user.role (some actorId))
  return user.safe

def updateOwnDisplayName (id : Uuid) (displayName : String) : AuthOp SafeUser := do
  let updated : User ← writeAccount (.updateUser id { displayName := some (some displayName) })
  return updated.safe

-- Unlike the status and the deletion, the role is not protected against its own holder.
def updateStaffUser (id : Uuid) (dto : UpdateStaffUserDto) (actorId : Uuid) : AuthOp SafeUser := do
  let user ← orRefuse (← findById id) userNotFound
  if dto.role.isSome ∧ user.kind ≠ .staff then
    refuse roleRequiresStaffKind
  else
    let updated : User ←
      writeAccount (.updateUser id { role := dto.role, displayName := dto.displayName })
    if let some role := dto.role then
      if user.role ≠ some role then announce (.roleUpdated id user.role role actorId)
    return updated.safe

structure FailedLogin where
  locked : Bool
  lockedUntil : Option Time := none
  deriving DecidableEq, Repr

def recordSuccessfulLogin (ambient : AuthAmbient) (id : Uuid) : AuthOp Unit := do
  let _ ← writeAccount (.updateUser id {
    failedLoginAttempts := some (.set 0)
    lockedUntil := some none
    lastLoginAt := some (ambient.clock 1) })

def recordFailedLogin (config : AuthConfig) (ambient : AuthAmbient) (id : Uuid) : AuthOp FailedLogin := do
  let user : User ← writeAccount (.updateUser id { failedLoginAttempts := some (.increment 1) })
  -- The counter is the one that the increment returned, not one read before.
  if user.failedLoginAttempts < config.maxFailedLoginAttempts then
    return { locked := false }
  let lockedUntil := ambient.clock 1 + config.lockoutDurationMinutes * 60000
  let _ ← writeAccount (.updateUser id { lockedUntil := some (some lockedUntil) })
  return { locked := true, lockedUntil := some lockedUntil }

def updateStatus (id : Uuid) (status : UserStatus) (actorId : Uuid) : AuthOp SafeUser := do
  let user ← orRefuse (← findById id) userNotFound
  if id = actorId then
    refuse cannotModifySelf
  else
    -- A reactivation also lifts what is left of a lock.
    let updated : User ← writeAccount (.updateUser id
      (if status = .active then { status := some status, failedLoginAttempts := some (.set 0), lockedUntil := some none }
        else { status := some status }))
    announce (.statusUpdated id user.status status actorId)
    return updated.safe

def resetPassword (services : AuthServices) (ambient : AuthAmbient) (id : Uuid)
    (newPassword : String) (actorId : Uuid) : AuthOp Unit := do
  let _ ← orRefuse (← findById id) userNotFound
  let passwordHash := services.hashPassword newPassword ambient.salt
  writeAccount (.resetPassword id
    { passwordHash := some passwordHash, failedLoginAttempts := some (.set 0), lockedUntil := some none }
    (ambient.clock 0))
  announce (.passwordReset id actorId)

def deleteStaffUser (id : Uuid) (actorId : Uuid) : AuthOp Unit := do
  let user ← orRefuse (← findById id) userNotFound
  if id = actorId then
    refuse cannotDeleteSelf
  else
    let deleted ← writeAccount (.deleteUser id)
    match deleted with
    | .ok _ => announce (.deleted id user.email actorId)
    | .error .foreignKeyViolation => refuse userHasHistory
    | .error why => Proc.fail (.failed why)

/-! ## Sessions -/

def accountLocked (lockedUntil : Time) : DomainError where
  code := "ACCOUNT_LOCKED"
  message := "Compte temporairement verrouille suite a plusieurs echecs de connexion. Reessayez apres " ++
    toISOString lockedUntil ++ "."
  kind := .forbidden

def invalidCredentials : DomainError where
  code := "INVALID_CREDENTIALS"
  message := "Identifiants invalides."
  kind := .unauthorized

def accountInactive : DomainError where
  code := "INVALID_CREDENTIALS"
  message := "Ce compte n'est pas actif."
  kind := .forbidden

def unitMs : Char → Option Int
  | 's' => some 1000
  | 'm' => some 60000
  | 'h' => some 3600000
  | 'd' => some 86400000
  | _ => none

/-- `15m`, `30d` or `1h` in milliseconds: digits, then one unit. -/
def parseDuration (duration : String) : Option Int :=
  match (jsTrim duration).reverse with
  | [] => none
  | unit :: digits =>
      if digits ≠ [] ∧ digits.all Char.isDigit then
        -- The digits come last first.
        (unitMs unit).map fun ms =>
        (digits.foldr (fun c value => 10 * value + (c.toNat - 48)) 0 : Nat) * ms
      else none

/-- A duration that does not parse counts as thirty days. -/
def addDuration (base : Time) (duration : String) : Time :=
  base + (parseDuration duration).getD (30 * 24 * 60 * 60 * 1000)

section Sessions

variable (services : AuthServices) (ambient : AuthAmbient)

def toAuthenticatedUser (user : User) : AuthOp AuthenticatedUser := do
  let requesterProfile ← match user.kind with
    | .requester => Proc.query fun db => db.profileByUserId user.id
    | .staff => pure none
  return {
    id := user.id
    email := user.email
    kind := user.kind
    role := user.role
    requesterProfileId := requesterProfile.map (·.id)
    permissions := permissionsForRole user.role }

def issueTokens (user : User) (context : LoginContext) : AuthOp AuthTokens := do
  let accessToken :=
    services.signAccess { sub := user.id, email := user.email, kind := user.kind, role := user.role }
      services.config.accessTtl (ambient.clock 2)
  let refreshToken := ambient.opaqueToken
  let tokenHash := services.hashToken refreshToken
  let _ ← writeAccount (.createRefreshToken {
    id := ambient.freshId
    userId := user.id
    tokenHash
    expiresAt := addDuration (ambient.clock 3) services.config.refreshTtl
    createdByIp := context.ipAddress
    userAgent := context.userAgent })
  return { accessToken, refreshToken, expiresIn := services.config.accessTtl }

/-- Each refused login is announced with its reason. -/
def refuseLogin {A : Type} (email reason : String) (context : LoginContext) (user : Option User)
    (why : DomainError) : AuthOp A := do
  announce (.loginFailed email reason context.ipAddress context.userAgent (user.map (·.id)))
  refuse why

def login (email password : String) (context : LoginContext) :
    AuthOp (AuthTokens × AuthenticatedUser) := do
  let found ← Proc.query fun db => db.userByEmail (services.toLowerCase email)
  match found.bind fun user => user.lockedUntil.filter (ambient.clock 0 < ·) with
  | some lockedUntil => refuseLogin email "ACCOUNT_LOCKED" context found (accountLocked lockedUntil)
  | none =>
    match found.filter fun user => services.verifyPassword user.passwordHash password with
    | none =>
        -- An unknown address has no counter.
        if let some user := found then
          let _ ← recordFailedLogin services.config ambient user.id
        refuseLogin email "INVALID_CREDENTIALS" context found invalidCredentials
    | some user =>
        if user.status ≠ .active then
          refuseLogin email "ACCOUNT_INACTIVE" context found accountInactive
        else
          recordSuccessfulLogin ambient user.id
          announce (.loginSucceeded user.id user.email user.id context.ipAddress context.userAgent)
          let tokens ← issueTokens services ambient user context
          let authenticated ← toAuthenticatedUser user
          return (tokens, authenticated)

/-- The row is live: neither revoked nor expired. -/
def RefreshToken.isLive (now : Time) (r : RefreshToken) : Bool :=
  r.revokedAt == none && !decide (r.expiresAt < now)

def refresh (refreshToken : String) (context : LoginContext) : AuthOp AuthTokens := do
  let tokenHash := services.hashToken refreshToken
  let found ← Proc.query fun db => db.tokenByHash tokenHash
  let stored ← orUnauthorized
    (found.filter (·.isLive (ambient.clock 0))) "Jeton de rafraichissement invalide ou expire."
  let account ← findById stored.userId
  let user ← orUnauthorized (account.filter (·.status == .active)) "Compte introuvable ou inactif."
  -- The token is named by its id alone: this revocation succeeds on a token revoked since it was read.
  let _ ← writeAccount (.revokeRefreshToken stored.id (ambient.clock 1))
  issueTokens services ambient user context

def logout (refreshToken : String) : AuthOp Unit := do
  let tokenHash := services.hashToken refreshToken
  let _ ← writeAccount (.revokeByHash tokenHash (ambient.clock 0))

end Sessions

/-! ## The operations as one machine over the accounts -/

inductive AccountOperation where
  | login (ambient : AuthAmbient) (email password : String) (context : LoginContext)
  | refresh (ambient : AuthAmbient) (refreshToken : String) (context : LoginContext)
  | logout (ambient : AuthAmbient) (refreshToken : String)
  | updateStatus (id : Uuid) (status : UserStatus) (actorId : Uuid)
  | resetPassword (ambient : AuthAmbient) (id : Uuid) (newPassword : String) (actorId : Uuid)

inductive AccountReply where
  | session (tokens : AuthTokens) (user : AuthenticatedUser)
  | tokens (tokens : AuthTokens)
  | user (user : SafeUser)
  | nothing
  deriving DecidableEq, Repr

def AccountOperation.execute (services : AuthServices) : AccountOperation → AuthOp AccountReply
  | .login ambient email password context => do
      let (tokens, user) ← AccreditationBackend.login services ambient email password context
      return .session tokens user
  | .refresh ambient refreshToken context =>
      return .tokens (← AccreditationBackend.refresh services ambient refreshToken context)
  | .logout ambient refreshToken => do
      AccreditationBackend.logout services ambient refreshToken
      return .nothing
  | .updateStatus id status actorId =>
      return .user (← AccreditationBackend.updateStatus id status actorId)
  | .resetPassword ambient id newPassword actorId => do
      AccreditationBackend.resetPassword services ambient id newPassword actorId
      return .nothing

section Sequential

variable (services : AuthServices)

/-- What the caller gets back when the operation runs alone. -/
def accountOutcome (db : Accounts) (op : AccountOperation) : Except AuthFailure AccountReply :=
  ((op.execute services).run handleAccount db).1

def performAccount (db : Accounts) (op : AccountOperation) : Accounts :=
  ((op.execute services).run handleAccount db).2

end Sequential

/-- Services for evaluation: the hash is injective, and nothing is really encrypted or signed. -/
def sampleAuth : AuthServices where
  hashToken token := "h" ++ token
  hashPassword password _ := password
  verifyPassword passwordHash password := passwordHash == password
  signAccess claims _ _ := claims.sub
  toLowerCase email := email

/-- One active administrator, without a session. -/
def sampleAccounts : Accounts where
  users := ⟨[{
      id := "awa"
      email := "awa@fsf.sn"
      passwordHash := "secret"
      kind := .staff
      role := some .admin
      status := .active }], List.pairwise_singleton _ _⟩
  referential := ⟨by simp [Table.column, Table.empty], by simp [Table.column, Table.empty],
    by simp [Table.column, Table.empty], Archive.within_empty _ _⟩

/-- Calls that run concurrently from one state of the accounts. -/
def accountPool {ι : Type} (services : AuthServices) (start : Accounts) (calls : ι → AccountOperation) :
    Pool ι accountStore Accounts AuthFailure AccountReply := ⟨start, fun i => (calls i).execute services⟩

end AccreditationBackend
