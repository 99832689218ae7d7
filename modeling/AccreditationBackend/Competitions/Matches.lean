import AccreditationBackend.Kernel.Procedures

/-! Matches: lookup, the period in which requests are accepted, and updates. -/

set_option autoImplicit false

namespace AccreditationBackend

open Foundation (Proc)

def matchNotFound : DomainError :=
  { code := "MATCH_NOT_FOUND", message := "Match introuvable.", kind := .notFound }

def matchRequestsClosed (message : String) : DomainError :=
  { code := "MATCH_REQUESTS_CLOSED", message, kind := .conflict }

def getMatch (id : Uuid) : Op Match := do
  let found ← Proc.query fun db => db.matchRows.find (·.id == id)
  orThrow found matchNotFound

theorem getMatch_issues {P : Statement → Prop} (id : Uuid) : (getMatch id).Issues P :=
  fun _ => orThrow_issues _ _

def assertAcceptingRequests (now : Time) (m : Match) : Except DomainError Unit :=
  if m.status ≠ .open then .error (matchRequestsClosed "Ce match n'accepte plus de demandes.")
  else if m.requestsOpenAt.any (now < ·) then
    .error (matchRequestsClosed "La periode de demandes n'est pas encore ouverte.")
  else if m.requestsCloseAt.any (· < now) then
    .error (matchRequestsClosed "La periode de demandes est cloturee.")
  else .ok ()

/-! ## Updates -/

inductive ImpactfulField where
  | kickoffAt | stadium | city | status | requestsCloseAt
  deriving DecidableEq, Repr

def impactfulFields : List ImpactfulField := [.kickoffAt, .stadium, .city, .status, .requestsCloseAt]

def ImpactfulField.name : ImpactfulField → String
  | .kickoffAt => "kickoffAt"
  | .stadium => "stadium"
  | .city => "city"
  | .status => "status"
  | .requestsCloseAt => "requestsCloseAt"

def ImpactfulField.present (dto : UpdateMatchDto) : ImpactfulField → Bool
  | .kickoffAt => dto.kickoffAt.isSome
  | .stadium => dto.stadium.isSome
  | .city => dto.city.isSome
  | .status => dto.status.isSome
  | .requestsCloseAt => dto.requestsCloseAt.isSome

/-- Whether both matches print the field alike: a printed date shows whole seconds. -/
def ImpactfulField.samePrint (a b : Match) : ImpactfulField → Bool
  | .kickoffAt => a.kickoffAt / 1000 == b.kickoffAt / 1000
  | .stadium => a.stadium == b.stadium
  | .city => a.city == b.city
  | .status => a.status == b.status
  | .requestsCloseAt => a.requestsCloseAt.map (· / 1000) == b.requestsCloseAt.map (· / 1000)

def changedFields (dto : UpdateMatchDto) (existing updated : Match) : List String :=
  (impactfulFields.filter fun field => field.present dto &&
    !field.samePrint existing updated).map (·.name)

def updateMatch (id : Uuid) (dto : UpdateMatchDto) : Op Match := do
  let existing ← getMatch id
  let updated ← issue (.updateMatch id dto)
  let changed := changedFields dto existing updated
  if changed ≠ [] then publish (.matchUpdated id changed)
  return updated

end AccreditationBackend
