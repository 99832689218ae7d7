import AccreditationBackend.Audit.Announcements
import AccreditationBackend.Audit.Listener
import AccreditationBackend.Notifications.MatchUpdates

/-! The notifications of a dossier: whatever is published about it, its owner is told once. -/

set_option autoImplicit false

namespace AccreditationBackend

open Foundation

/-! ## Handlers -/

/-- A variable that is `undefined` is rendered like one that is missing. -/
def definedVariables (variables_ : List (String × Option String)) : List (String × String) :=
  variables_.filterMap fun variable_ => variable_.2.map fun value => (variable_.1, value)

namespace NotificationListener

variable (services : NotificationServices) (ambient : NotificationAmbient)

def onAccountCreated (userId : Uuid) (email : String) : NotificationOp Unit :=
  NotificationsService.send services ambient 0
    { event := .accountCreated, recipientEmail := email, recipientUserId := userId }

/-- What the handlers of a request have in common. -/
def aboutRequest (requestId requesterId : Uuid) (event : NotificationEvent)
    (details : List (String × Option String)) : NotificationOp Unit := do
  match ← resolveRequesterRecipient requesterId with
  | none => return
  | some recipient => do
      let request ← Proc.query fun s => s.db.requestById requestId
      NotificationsService.send services ambient 0 {
        event
        recipientEmail := recipient.email
        recipientUserId := recipient.userId
        variables_ := definedVariables (("reference", request.map (·.uniqueReference)) :: details) }

def onRequestSubmitted (requestId requesterId : Uuid) : NotificationOp Unit :=
  aboutRequest services ambient requestId requesterId .requestReceived []

def onComplementRequested (requestId requesterId : Uuid) (missingItem : String) : NotificationOp Unit :=
  aboutRequest services ambient requestId requesterId .complementRequested
    [("missingItem", some missingItem)]

/-- Whatever is not a validation is told as a rejection. -/
def onRequestDecided (requestId requesterId : Uuid) (decision : RequestStatus) (reason : Option String) :
    NotificationOp Unit :=
  aboutRequest services ambient requestId requesterId
    (if decision = .validated then .requestValidated else .requestRejected) [("reason", reason)]

def onAccreditationGenerated (requesterId : Uuid) : NotificationOp Unit := do
  match ← resolveRequesterRecipient requesterId with
  | none => return
  | some recipient =>
      NotificationsService.send services ambient 0 {
        event := .badgeAvailable
        recipientEmail := recipient.email
        recipientUserId := recipient.userId }

/-- A badge together with its request, as `include: { request: true }` joins them. -/
def accreditationWithRequest (t : Tables) (accreditationId : Uuid) :
    Option (Accreditation × AccreditationRequest) := do
  let accreditation ← t.accreditationById accreditationId
  let request ← t.requestById accreditation.requestId
  return (accreditation, request)

def onAccreditationRevoked (accreditationId : Uuid) (reason : String) : NotificationOp Unit := do
  match ← Proc.query fun s => accreditationWithRequest s.db.toTables accreditationId with
  | none => return
  | some (accreditation, request) => do
      match ← resolveRequesterRecipient request.requesterId with
      | none => return
      | some recipient =>
          NotificationsService.send services ambient 0 {
            event := .accreditationRevoked
            recipientEmail := recipient.email
            recipientUserId := recipient.userId
            variables_ := [("reference", accreditation.number), ("reason", reason)] }

/-- The handler that is registered for the event's name, if there is one. -/
def hear : PublishedEvent → NotificationOp Unit
  | .user (.accountCreated userId email ..) => onAccountCreated services ambient userId email
  | .domain (.requestSubmitted requestId requesterId) =>
      onRequestSubmitted services ambient requestId requesterId
  | .domain (.requestComplementRequested requestId requesterId missingItem) =>
      onComplementRequested services ambient requestId requesterId missingItem
  | .domain (.requestDecided requestId requesterId decision reason _) =>
      onRequestDecided services ambient requestId requesterId decision reason
  | .domain (.accreditationGenerated _ _ requesterId) => onAccreditationGenerated services ambient requesterId
  | .domain (.accreditationRevoked accreditationId _ reason) =>
      onAccreditationRevoked services ambient accreditationId reason
  | .domain (.matchUpdated matchId changedFields) => onMatchUpdated services ambient matchId changedFields
  | _ => return

end NotificationListener

/-! ## One notification -/

section Runs

variable (services : NotificationServices) (ambient : NotificationAmbient) {s : NotificationState}
  (unused : ambient.logId 0 ∉ s.logs.column (·.id))

include unused

variable {requesterId : Uuid} {profile : ProfileLink} {user : User}
  (owner : s.db.profileOf requesterId = some (profile, user))

include owner

end Runs

/-! ## The owner is told -/

/-- The dossier whose owner is to be told, and of what. -/
def DomainEvent.tells : DomainEvent → Option (Uuid × NotificationEvent)
  | .requestSubmitted requestId _ => some (requestId, .requestReceived)
  | .requestComplementRequested requestId _ _ => some (requestId, .complementRequested)
  | .requestDecided requestId _ decision _ _ =>
      some (requestId, if decision = .validated then .requestValidated else .requestRejected)
  | .accreditationGenerated _ requestId _ => some (requestId, .badgeAvailable)
  | .accreditationRevoked _ requestId _ => some (requestId, .accreditationRevoked)
  | .requestCancelled .. => none
  | .matchUpdated .. => none
  | .matchRequestsClosed _ => none

/-- What the notification calls the dossier by. -/
def DomainEvent.reference (t : Tables) (r : AccreditationRequest) : DomainEvent → Option String
  | .accreditationGenerated .. => none
  | .accreditationRevoked accreditationId _ _ => (t.accreditationById accreditationId).map (·.number)
  | _ => some r.uniqueReference

section Told

variable (services : NotificationServices) (ambient : NotificationAmbient) {s : NotificationState}
  (unused : ambient.logId 0 ∉ s.logs.column (·.id))

include unused

end Told

end AccreditationBackend
