import AccreditationBackend.Store.Rows

/-! Errors and events of the domain. -/

set_option autoImplicit false

namespace AccreditationBackend

inductive DomainErrorKind where
  | validation | notFound | conflict | forbidden | quotaExceeded | invalidTransition | unauthorized
  deriving DecidableEq, Repr

inductive ErrorDetails where
  | transition (fromStatus toStatus : RequestStatus) (allowed : List RequestStatus)
  | quota (quotaTotal : Nat) (consumed : Int) (overflowPolicy : Option OverflowPolicy)
  deriving DecidableEq, Repr

structure DomainError where
  code : String
  message : String
  kind : DomainErrorKind := .validation
  details : Option ErrorDetails := none
  deriving DecidableEq, Repr

/-- Why a call ends without a result. The database refuses a statement, or the
renderer or the object storage fails. -/
inductive Failure where
  | domain (error : DomainError)
  | uniqueViolation
  | foreignKeyViolation
  | recordNotFound
  /-- A number that the `INTEGER` column does not hold. -/
  | outOfRange
  | external
  deriving DecidableEq, Repr

def requestNotFound : DomainError :=
  { code := "REQUEST_NOT_FOUND", message := "Demande introuvable.", kind := .notFound }

def accreditationNotFound : DomainError :=
  { code := "ACCREDITATION_NOT_FOUND", message := "Accreditation introuvable.", kind := .notFound }

inductive DomainEvent where
  | requestSubmitted (requestId requesterId : Uuid)
  | requestComplementRequested (requestId requesterId : Uuid) (missingItem : String)
  | requestDecided (requestId requesterId : Uuid) (decision : RequestStatus) (reason : Option String)
      (zoneIds : List Uuid)
  | requestCancelled (requestId : Uuid) (previousStatus : RequestStatus)
  | accreditationGenerated (accreditationId requestId requesterId : Uuid)
  | accreditationRevoked (accreditationId requestId : Uuid) (reason : String)
  | matchUpdated (matchId : Uuid) (changedFields : List String)
  | matchRequestsClosed (matchId : Uuid)
  deriving DecidableEq, Repr

/-- The name under which the event bus emits an event. -/
def DomainEvent.eventName : DomainEvent → String
  | .requestSubmitted .. => "request.submitted"
  | .requestComplementRequested .. => "request.complement_requested"
  | .requestDecided .. => "request.decided"
  | .requestCancelled .. => "request.cancelled"
  | .accreditationGenerated .. => "accreditation.generated"
  | .accreditationRevoked .. => "accreditation.revoked"
  | .matchUpdated .. => "match.updated"
  | .matchRequestsClosed _ => "match.requests_closed"

end AccreditationBackend
