import AccreditationBackend.Iam.Service

/-! The guards of a route: the authentication of a token, and the permissions that the route requires. -/

set_option autoImplicit false

namespace AccreditationBackend

open Foundation (Proc)

/-- What the decorators write on a handler, or on its controller. -/
structure RouteMetadata where
  isPublic : Option Bool := none
  permissions : Option (List Permission) := none
  deriving DecidableEq, Repr

structure Route where
  handler : RouteMetadata := {}
  controller : RouteMetadata := {}
  deriving DecidableEq, Repr

/-- `Reflector.getAllAndOverride`: the handler's own metadata comes first. -/
def Route.getAllAndOverride {A : Type} (route : Route) (key : RouteMetadata → Option A) : Option A :=
  (key route.handler).or (key route.controller)

def Route.isPublic (route : Route) : Bool := (route.getAllAndOverride (·.isPublic)).getD false

def Route.required (route : Route) : Option (List Permission) := route.getAllAndOverride (·.permissions)

structure JwtPayload where
  sub : Uuid
  deriving DecidableEq, Repr

/-- The status is read again at each request. -/
def JwtStrategy.validate (payload : JwtPayload) : AuthOp AuthenticatedUser := do
  let found ← findById payload.sub
  let user ← orUnauthorized (found.filter (·.status == .active)) "Session invalide."
  toAuthenticatedUser user

/-- The user that the request carries on. `payload` is what the bearer token
says, if it has a valid signature and has not expired; a public route does not look. -/
def JwtAuthGuard.canActivate (route : Route) (payload : Option JwtPayload) :
    AuthOp (Option AuthenticatedUser) :=
  if route.isPublic then
    return none
  else do
    let payload ← orUnauthorized payload "Unauthorized"
    return some (← JwtStrategy.validate payload)

structure ForbiddenException where
  message : String
  deriving DecidableEq, Repr

def PermissionsGuard.canActivate (route : Route) (user : Option AuthenticatedUser) :
    Except ForbiddenException Bool :=
  if route.isPublic then .ok true
  else
    let required := route.required.getD []
    if required = [] then .ok true
    -- One of the required permissions is enough.
    else if user.any fun user => user.permissions.any (required.contains ·) then .ok true
    else .error ⟨"Vous n'avez pas les droits necessaires pour cette action."⟩

section Runs

variable {db : Accounts}

theorem toAuthenticatedUser_permissions {user : User} {self : AuthenticatedUser} {t : Accounts}
    (returned : (toAuthenticatedUser user).run handleAccount db = (.ok self, t)) :
    self.permissions = permissionsForRole user.role := by
  unfold toAuthenticatedUser at returned
  split at returned <;>
    · cases returned
      rfl

theorem validate_returned {payload : JwtPayload} {self : AuthenticatedUser} {t : Accounts}
    (returned : (JwtStrategy.validate payload).run handleAccount db = (.ok self, t)) :
    ∃ user, db.userById payload.sub = some user ∧ user.status = .active ∧
      self.permissions = permissionsForRole user.role := by
  simp only [JwtStrategy.validate, findById, Proc.query_bind, Proc.run] at returned
  cases live : (db.userById payload.sub).filter (·.status == .active) with
  | none =>
      rw [live] at returned
      cases returned
  | some user =>
      rw [live, orUnauthorized_some_bind] at returned
      obtain ⟨found, active⟩ := Option.filter_eq_some_iff.mp live
      exact ⟨user, found, beq_iff_eq.mp active, toAuthenticatedUser_permissions returned⟩

theorem validate_inactive {payload : JwtPayload} {user : User}
    (found : db.userById payload.sub = some user) (inactive : user.status ≠ .active) :
    (JwtStrategy.validate payload).run handleAccount db =
      (.error (.unauthorized "Session invalide."), db) := by
  simp only [JwtStrategy.validate, findById, Proc.query_bind, Proc.run, found]
  rw [Option.filter_some, if_neg (by simpa using inactive)]
  rfl

theorem authenticated_validated {route : Route} {payload : JwtPayload} {self : AuthenticatedUser} {t : Accounts}
    (authenticated : (JwtAuthGuard.canActivate route (some payload)).run handleAccount db = (.ok (some self), t)) :
    route.isPublic = false ∧ (JwtStrategy.validate payload).run handleAccount db = (.ok self, t) := by
  unfold JwtAuthGuard.canActivate at authenticated
  split at authenticated
  next => cases authenticated
  next guarded =>
    refine ⟨by simpa using guarded, ?_⟩
    rw [orUnauthorized_some_bind] at authenticated
    obtain ⟨first, u, ran, last⟩ := Proc.run_bind_ok handleAccount authenticated
    cases last
    exact ran

theorem permissions_refused {route : Route} {required : List Permission}
    (guarded : route.isPublic = false) (requires : route.required = some required)
    (some_ : required ≠ []) (user : AuthenticatedUser)
    (lacks : ∀ p ∈ user.permissions, p ∉ required) :
    PermissionsGuard.canActivate route (some user) =
      .error ⟨"Vous n'avez pas les droits necessaires pour cette action."⟩ := by
  simpa [PermissionsGuard.canActivate, guarded, requires, some_] using lacks

end Runs

end AccreditationBackend
