import AccreditationBackend.Documents.Service
import AccreditationBackend.Foundation.JsonText
import AccreditationBackend.Iam.Service
import AccreditationBackend.Requests.StatusMachine

/-! The audit listener: one row for whatever is published, with the event in it. -/

set_option autoImplicit false

namespace AccreditationBackend

open Foundation

/-! ## Values of the enumerations -/

def UserKind.value : UserKind → String
  | .staff => "STAFF"
  | .requester => "REQUESTER"

def StaffRole.value : StaffRole → String
  | .admin => "ADMIN"
  | .responsableAccreditation => "RESPONSABLE_ACCREDITATION"
  | .commissionValidation => "COMMISSION_VALIDATION"
  | .agentControle => "AGENT_CONTROLE"
  | .superviseur => "SUPERVISEUR"

def UserStatus.value : UserStatus → String
  | .pending => "PENDING"
  | .active => "ACTIVE"
  | .inactive => "INACTIVE"
  | .suspended => "SUSPENDED"

def DocumentSubjectType.value : DocumentSubjectType → String
  | .media => "MEDIA"
  | .requester => "REQUESTER"
  | .request => "REQUEST"

def DocumentStatus.value : DocumentStatus → String
  | .pending => "PENDING"
  | .validated => "VALIDATED"
  | .rejected => "REJECTED"
  | .superseded => "SUPERSEDED"

/-! ## Events as objects -/

def DocumentEvent.eventName : DocumentEvent → String
  | .uploaded .. => "document.uploaded"
  | .reviewed .. => "document.reviewed"

/-- An event of any module. -/
inductive PublishedEvent where
  | domain (event : DomainEvent)
  | user (event : UserEvent)
  | document (event : DocumentEvent)
  deriving DecidableEq, Repr

def PublishedEvent.eventName : PublishedEvent → String
  | .domain event => event.eventName
  | .user event => event.eventName
  | .document event => event.eventName

/-- The value of a property; `none` is `undefined`. -/
abbrev PropertyValue := Option JsonValue

abbrev Property := String × PropertyValue

def text (s : String) : PropertyValue := some (.str s)

def optional (s : Option String) : PropertyValue := s.map .str

def optionalText (s : Option String) : PropertyValue := some ((s.map .str).getD .null)

/-- The own properties in the order of the constructor's parameters, without
`occurredAt` and `eventName`. -/
def DomainEvent.properties : DomainEvent → List Property
  | .requestSubmitted requestId requesterId =>
      [("requestId", text requestId), ("requesterId", text requesterId)]
  | .requestComplementRequested requestId requesterId missingItem =>
      [("requestId", text requestId), ("requesterId", text requesterId), ("missingItem", text missingItem)]
  | .requestDecided requestId requesterId decision reason zoneIds =>
      [("requestId", text requestId), ("requesterId", text requesterId), ("decision", text decision.value),
        ("reason", optional reason), ("zoneIds", some (.strs zoneIds))]
  | .requestCancelled requestId previousStatus =>
      [("requestId", text requestId), ("previousStatus", text previousStatus.value)]
  | .accreditationGenerated accreditationId requestId requesterId =>
      [("accreditationId", text accreditationId), ("requestId", text requestId),
        ("requesterId", text requesterId)]
  | .accreditationRevoked accreditationId requestId reason =>
      [("accreditationId", text accreditationId), ("requestId", text requestId), ("reason", text reason)]
  | .matchUpdated matchId changedFields =>
      [("matchId", text matchId), ("changedFields", some (.strs changedFields))]
  | .matchRequestsClosed matchId => [("matchId", text matchId)]

def UserEvent.properties : UserEvent → List Property
  | .accountCreated userId email kind role actorId =>
      [("userId", text userId), ("email", text email), ("kind", text kind.value),
        ("role", optional (role.map (·.value))), ("actorId", optional actorId)]
  | .roleUpdated userId fromRole toRole actorId =>
      [("userId", text userId), ("fromRole", optionalText (fromRole.map (·.value))),
        ("toRole", text toRole.value), ("actorId", text actorId)]
  | .statusUpdated userId fromStatus toStatus actorId =>
      [("userId", text userId), ("fromStatus", text fromStatus.value), ("toStatus", text toStatus.value),
        ("actorId", text actorId)]
  | .passwordReset userId actorId => [("userId", text userId), ("actorId", text actorId)]
  | .deleted userId email actorId =>
      [("userId", text userId), ("email", text email), ("actorId", text actorId)]
  | .loginSucceeded userId email actorId ipAddress userAgent =>
      [("userId", text userId), ("email", text email), ("actorId", text actorId),
        ("ipAddress", optional ipAddress), ("userAgent", optional userAgent)]
  | .loginFailed email reason ipAddress userAgent userId =>
      [("email", text email), ("reason", text reason), ("ipAddress", optional ipAddress),
        ("userAgent", optional userAgent), ("userId", optional userId)]

def DocumentEvent.properties : DocumentEvent → List Property
  | .uploaded documentId subjectType subjectId =>
      [("documentId", text documentId), ("subjectType", text subjectType.value),
        ("subjectId", text subjectId)]
  | .reviewed documentId subjectType subjectId status reason =>
      [("documentId", text documentId), ("subjectType", text subjectType.value), ("subjectId", text subjectId),
        ("status", text status.value), ("reason", optional reason)]

def PublishedEvent.properties : PublishedEvent → List Property
  | .domain event => event.properties
  | .user event => event.properties
  | .document event => event.properties

/-! ## Rows -/

structure RecordAuditInput where
  actorId : Option Uuid := none
  actorRole : Option String := none
  action : String
  objectType : String
  objectId : Option String := none
  oldValue : Option (List Property) := none
  newValue : Option (List Property) := none
  deviceInfo : Option String := none
  result : Option String := none
  reason : Option String := none
  deriving DecidableEq, Repr

/-- `JSON.stringify` leaves out a property that is `undefined`. -/
def definedEntries (properties : List Property) : List (String × JsonValue) :=
  properties.filterMap fun property => property.2.map fun value => (property.1, value)

def toJson (value : Option (List Property)) : Option String :=
  value.map fun properties => stringify (definedEntries properties)

/-- The row that `AuditService.record` creates; its id and its time are drawn for it. -/
def auditLog (id : Uuid) (createdAt : Time) (input : RecordAuditInput) : AuditLog where
  id := id
  actorId := input.actorId
  actorRole := input.actorRole
  action := input.action
  objectType := input.objectType
  objectId := input.objectId
  oldValue := toJson input.oldValue
  newValue := toJson input.newValue
  deviceInfo := input.deviceInfo
  result := input.result
  reason := input.reason
  createdAt := createdAt

namespace AuditListener

def asString : PropertyValue → Option String
  | some (.str s) => some s
  | _ => none

/-- Taken out of the other properties, and kept if it is a string. -/
def actorId (properties : List Property) : Option Uuid :=
  asString ((properties.lookup "actorId").bind id)

def fields (properties : List Property) : List Property := properties.filter (·.1 != "actorId")

/-- `key.endsWith('Id')` -/
def namesId (key : String) : Bool := ['I', 'd'].isSuffixOf key.toList

/-- The first property whose key ends with `Id`. -/
def objectId (fields : List Property) : Option String :=
  (fields.find? fun field => namesId field.1).bind fun field => asString field.2

/-- The event's name up to its first dot. -/
def objectType (eventName : String) : String := String.ofList (eventName.toList.takeWhile (· != '.'))

def onAnyDomainEvent (event : PublishedEvent) : RecordAuditInput where
  actorId := actorId event.properties
  action := event.eventName
  objectType := objectType event.eventName
  objectId := objectId (fields event.properties)
  newValue := some (fields event.properties)

end AuditListener

example : (auditLog "1" 90 (AuditListener.onAnyDomainEvent (.user (.passwordReset "awa" "omar")))) =
    { id := "1", actorId := some "omar", action := "user.password_reset", objectType := "user",
      objectId := some "awa", newValue := some "\x7b\"userId\":\"awa\"\x7d", createdAt := 90 } := by
  decide +kernel

end AccreditationBackend
