import AccreditationBackend.Audit.Listener

/-! The audit journal tells what was published: each of its rows gives its event back. -/

set_option autoImplicit false

namespace AccreditationBackend

open Foundation

/-! ## Values read back -/

section ReadBack

variable {α : Type}

/-- The first of the listed values that is written so. -/
def readBack (all : List α) (value : α → String) (written : String) : Option α :=
  all.find? (value · == written)

theorem readBack_value {all : List α} {value : α → String}
    (apart : ∀ a ∈ all, ∀ b ∈ all, value a = value b → a = b) {a : α} (listed : a ∈ all) :
    readBack all value (value a) = some a := by
  have found : (all.find? (value · == value a)).isSome :=
    List.find?_isSome.mpr ⟨a, listed, beq_self_eq_true _⟩
  obtain ⟨b, same⟩ := Option.isSome_iff_exists.mp found
  have written : value b = value a := by simpa using List.find?_some same
  rw [readBack, same, apart b (List.mem_of_find?_eq_some same) a listed written]

end ReadBack

def RequestStatus.read : String → Option RequestStatus :=
  readBack [.draft, .submitted, .underReview, .infoRequested, .complete, .pendingValidation, .validated,
    .rejected, .cancelled, .badgeGenerated, .accessUsed] RequestStatus.value

def UserKind.read : String → Option UserKind := readBack [.staff, .requester] UserKind.value

def StaffRole.read : String → Option StaffRole :=
  readBack [.admin, .responsableAccreditation, .commissionValidation, .agentControle, .superviseur]
    StaffRole.value

def UserStatus.read : String → Option UserStatus :=
  readBack [.pending, .active, .inactive, .suspended] UserStatus.value

def DocumentSubjectType.read : String → Option DocumentSubjectType :=
  readBack [.media, .requester, .request] DocumentSubjectType.value

def DocumentStatus.read : String → Option DocumentStatus :=
  readBack [.pending, .validated, .rejected, .superseded] DocumentStatus.value

@[simp] theorem RequestStatus.read_value (status : RequestStatus) : read status.value = some status :=
  readBack_value (by decide) (by cases status <;> decide)

@[simp] theorem UserKind.read_value (kind : UserKind) : read kind.value = some kind :=
  readBack_value (by decide) (by cases kind <;> decide)

@[simp] theorem StaffRole.read_value (role : StaffRole) : read role.value = some role :=
  readBack_value (by decide) (by cases role <;> decide)

@[simp] theorem UserStatus.read_value (status : UserStatus) : read status.value = some status :=
  readBack_value (by decide) (by cases status <;> decide)

@[simp] theorem DocumentSubjectType.read_value (subjectType : DocumentSubjectType) :
    read subjectType.value = some subjectType :=
  readBack_value (by decide) (by cases subjectType <;> decide)

@[simp] theorem DocumentStatus.read_value (status : DocumentStatus) : read status.value = some status :=
  readBack_value (by decide) (by cases status <;> decide)

/-! ## The event of a row -/

namespace AuditLog

variable (row : AuditLog)

/-- A property of the recorded object. -/
def property (key : String) : Option JSON.Value := do
  let written ← row.newValue
  let members ← JSON.parse written
  JSON.property members (codeUnits key)

def textOf (key : String) : Option String :=
  match row.property key with
  | some (.str s) => some (spelled s)
  | _ => none

def textsOf (key : String) : Option (List String) :=
  match row.property key with
  | some (.strs items) => some (items.map spelled)
  | _ => none

/-- The event that the row was recorded for. -/
def event : Option PublishedEvent :=
  if row.action = "request.submitted" then do
    return .domain (.requestSubmitted (← row.textOf "requestId") (← row.textOf "requesterId"))
  else if row.action = "request.complement_requested" then do
    return .domain (.requestComplementRequested (← row.textOf "requestId") (← row.textOf "requesterId")
      (← row.textOf "missingItem"))
  else if row.action = "request.decided" then do
    return .domain (.requestDecided (← row.textOf "requestId") (← row.textOf "requesterId")
      (← (row.textOf "decision").bind RequestStatus.read) (row.textOf "reason") (← row.textsOf "zoneIds"))
  else if row.action = "request.cancelled" then do
    return .domain (.requestCancelled (← row.textOf "requestId")
      (← (row.textOf "previousStatus").bind RequestStatus.read))
  else if row.action = "accreditation.generated" then do
    return .domain (.accreditationGenerated (← row.textOf "accreditationId") (← row.textOf "requestId")
      (← row.textOf "requesterId"))
  else if row.action = "accreditation.revoked" then do
    return .domain (.accreditationRevoked (← row.textOf "accreditationId") (← row.textOf "requestId")
      (← row.textOf "reason"))
  else if row.action = "match.updated" then do
    return .domain (.matchUpdated (← row.textOf "matchId") (← row.textsOf "changedFields"))
  else if row.action = "match.requests_closed" then do
    return .domain (.matchRequestsClosed (← row.textOf "matchId"))
  else if row.action = "user.account_created" then do
    return .user (.accountCreated (← row.textOf "userId") (← row.textOf "email")
      (← (row.textOf "kind").bind UserKind.read) ((row.textOf "role").bind StaffRole.read) row.actorId)
  else if row.action = "user.role_updated" then do
    return .user (.roleUpdated (← row.textOf "userId") ((row.textOf "fromRole").bind StaffRole.read)
      (← (row.textOf "toRole").bind StaffRole.read) (← row.actorId))
  else if row.action = "user.status_updated" then do
    return .user (.statusUpdated (← row.textOf "userId") (← (row.textOf "fromStatus").bind UserStatus.read)
      (← (row.textOf "toStatus").bind UserStatus.read) (← row.actorId))
  else if row.action = "user.password_reset" then do
    return .user (.passwordReset (← row.textOf "userId") (← row.actorId))
  else if row.action = "user.deleted" then do
    return .user (.deleted (← row.textOf "userId") (← row.textOf "email") (← row.actorId))
  else if row.action = "user.login_succeeded" then do
    return .user (.loginSucceeded (← row.textOf "userId") (← row.textOf "email") (← row.actorId)
      (row.textOf "ipAddress") (row.textOf "userAgent"))
  else if row.action = "user.login_failed" then do
    return .user (.loginFailed (← row.textOf "email") (← row.textOf "reason") (row.textOf "ipAddress")
      (row.textOf "userAgent") (row.textOf "userId"))
  else if row.action = "document.uploaded" then do
    return .document (.uploaded (← row.textOf "documentId")
      (← (row.textOf "subjectType").bind DocumentSubjectType.read) (← row.textOf "subjectId"))
  else if row.action = "document.reviewed" then do
    return .document (.reviewed (← row.textOf "documentId")
      (← (row.textOf "subjectType").bind DocumentSubjectType.read) (← row.textOf "subjectId")
      (← (row.textOf "status").bind DocumentStatus.read) (row.textOf "reason"))
  else none

end AuditLog

/-! ## A recorded object gives its properties back -/

/-- The text is one of the object with these properties. The database keeps an object,
and may give its members back in another order. -/
def Records (written : Option String) (properties : List Property) : Prop :=
  ∃ s members, written = some s ∧ JSON.parse s = some members ∧
    members.Perm ((definedEntries properties).map JSON.ofEntry)

theorem toJson_records (properties : List Property) : Records (toJson (some properties)) properties :=
  ⟨stringify (definedEntries properties), _, rfl,
    by rw [← JSON.stringify_ofEntry, JSON.parse_stringify], .refl _⟩

theorem mem_definedEntries {properties : List Property} {key : String} {value : JsonValue} :
    (key, value) ∈ definedEntries properties ↔ (key, some value) ∈ properties := by
  simp only [definedEntries, List.mem_filterMap, Option.map_eq_some_iff, Prod.mk.injEq]
  constructor
  · rintro ⟨property, member, _, defined, rfl, rfl⟩
    rwa [← defined]
  · exact fun member => ⟨_, member, value, rfl, rfl, rfl⟩

section Records

variable {properties : List Property} (distinct : (properties.map (·.1)).Nodup)

include distinct

theorem lookup_iff {key : String} {value : PropertyValue} :
    properties.lookup key = some value ↔ (key, value) ∈ properties := by
  rw [List.lookup_eq_some_iff]
  constructor
  · rintro ⟨front, back, rfl, -⟩
    exact List.mem_append_right _ List.mem_cons_self
  · intro member
    obtain ⟨front, back, rfl⟩ := List.append_of_mem member
    refine ⟨front, back, rfl, fun other before => ?_⟩
    rw [List.map_append, List.nodup_append] at distinct
    exact bne_iff_ne.mpr (distinct.2.2 _ (List.mem_map_of_mem before) _ List.mem_cons_self).symm

theorem definedEntries_distinct :
    (((definedEntries properties).map JSON.ofEntry).map (·.1)).Nodup := by
  have keys : ((definedEntries properties).map JSON.ofEntry).map (·.1) =
      ((definedEntries properties).map (·.1)).map codeUnits := by
    rw [List.map_map, List.map_map]
    rfl
  rw [keys]
  refine List.Nodup.map codeUnits_injective (distinct.sublist ?_)
  clear distinct keys
  induction properties with
  | nil => exact List.Sublist.refl _
  | cons property rest ih =>
      cases value : property.2 with
      | none => simpa [definedEntries, value] using ih.cons property.1
      | some v => simpa [definedEntries, value] using ih

theorem property_recorded {row : AuditLog} (records : Records row.newValue properties) (key : String) :
    row.property key = ((properties.lookup key).bind id).map JSON.ofJson := by
  obtain ⟨s, members, written, parsed, perm⟩ := records
  have members_distinct := definedEntries_distinct distinct
  have found : row.property key =
      JSON.property ((definedEntries properties).map JSON.ofEntry) (codeUnits key) := by
    simp only [AuditLog.property, written, Option.bind_eq_bind, Option.bind_some, parsed]
    exact JSON.property_perm members_distinct perm _
  rw [found]
  ext v
  rw [JSON.property_iff members_distinct, Option.map_eq_some_iff, List.mem_map]
  constructor
  · rintro ⟨⟨other, value⟩, member, same⟩
    obtain ⟨named, written⟩ := Prod.mk.inj same
    obtain rfl : other = key := codeUnits_injective named
    have kept := (lookup_iff distinct).mpr (mem_definedEntries.mp member)
    exact ⟨value, by rw [kept]; rfl, written⟩
  · rintro ⟨value, looked, rfl⟩
    obtain ⟨_, kept, rfl⟩ := Option.bind_eq_some_iff.mp looked
    exact ⟨(key, value), mem_definedEntries.mpr ((lookup_iff distinct).mp kept), rfl⟩

def asStrings : PropertyValue → Option (List String)
  | some (.strs items) => some items
  | _ => none

theorem textOf_recorded {row : AuditLog} (records : Records row.newValue properties) (key : String) :
    row.textOf key = AuditListener.asString ((properties.lookup key).bind id) := by
  rw [AuditLog.textOf, property_recorded distinct records]
  cases (properties.lookup key).bind id with
  | none => rfl
  | some value =>
      cases value with
      | str s => exact congrArg some (spelled_codeUnits s)
      | _ => rfl

theorem textsOf_recorded {row : AuditLog} (records : Records row.newValue properties) (key : String) :
    row.textsOf key = asStrings ((properties.lookup key).bind id) := by
  rw [AuditLog.textsOf, property_recorded distinct records]
  cases (properties.lookup key).bind id with
  | none => rfl
  | some value =>
      cases value with
      | strs items =>
          have spelt : (spelled ∘ codeUnits) = id := funext spelled_codeUnits
          simp only [Option.map_some, JSON.ofJson, asStrings, List.map_map, spelt, List.map_id]
      | _ => rfl

end Records

/-! ## Every event -/

@[simp] theorem asString_text (s : String) : AuditListener.asString (text s) = some s := rfl

@[simp] theorem asString_optional (s : Option String) : AuditListener.asString (optional s) = s := by
  cases s <;> rfl

@[simp] theorem asString_optionalText (s : Option String) : AuditListener.asString (optionalText s) = s := by
  cases s <;> rfl

@[simp] theorem bind_read_value (role : Option StaffRole) :
    ((role.map (·.value)).bind fun written => StaffRole.read written) = role := by
  cases role with
  | none => rfl
  | some role => exact role.read_value

@[simp] theorem asStrings_strs (items : List String) : asStrings (some (.strs items)) = some items := rfl

theorem fields_distinct (event : PublishedEvent) :
    ((AuditListener.fields event.properties).map (·.1)).Nodup := by
  cases event with
  | domain event => cases event <;> simp [AuditListener.fields, PublishedEvent.properties, DomainEvent.properties]
  | user event => cases event <;> simp [AuditListener.fields, PublishedEvent.properties, UserEvent.properties]
  | document event =>
      cases event <;> simp [AuditListener.fields, PublishedEvent.properties, DocumentEvent.properties]

/-- A row with an event's name, its actor and its other properties is the row of that event. -/
theorem event_recorded {row : AuditLog} {event : PublishedEvent} (action : row.action = event.eventName)
    (actor : row.actorId = AuditListener.actorId event.properties)
    (records : Records row.newValue (AuditListener.fields event.properties)) : row.event = some event := by
  have text := textOf_recorded (fields_distinct event) records
  have texts := textsOf_recorded (fields_distinct event) records
  cases event with
  | domain event =>
      cases event <;>
        simp [AuditLog.event, action, text, texts, PublishedEvent.eventName, DomainEvent.eventName,
          PublishedEvent.properties, DomainEvent.properties, AuditListener.fields, List.lookup_cons]
  | user event =>
      cases event <;>
        simp [AuditLog.event, action, actor, text, AuditListener.actorId, PublishedEvent.eventName, UserEvent.eventName,
          PublishedEvent.properties, UserEvent.properties, AuditListener.fields, List.lookup_cons]
  | document event =>
      cases event <;>
        simp [AuditLog.event, action, text, PublishedEvent.eventName, DocumentEvent.eventName,
          PublishedEvent.properties, DocumentEvent.properties, AuditListener.fields, List.lookup_cons]

end AccreditationBackend
