import AccreditationBackend.Foundation.References
import AccreditationBackend.Documents.Rows

/-! What the other modules record about users, with the declared foreign keys. -/

set_option autoImplicit false

namespace AccreditationBackend

open Foundation (Reference)

inductive NotificationEvent where
  | accountCreated | requestReceived | complementRequested | requestValidated | requestRejected
  | badgeAvailable | matchUpdated | closureReminder | accreditationRevoked
  deriving DecidableEq, Repr

inductive NotificationChannel where
  | email | sms
  deriving DecidableEq, Repr

inductive NotificationStatus where
  | pending | sent | failed
  deriving DecidableEq, Repr

structure NotificationLog where
  id : Uuid
  event : NotificationEvent
  channel : NotificationChannel
  recipientUserId : Option Uuid := none
  recipientAddress : String
  status : NotificationStatus := .pending
  providerResponse : Option String := none
  sentAt : Option Time := none
  deriving DecidableEq, Repr

structure LoginAttempt where
  id : Uuid
  email : String
  userId : Option Uuid := none
  ipAddress : Option String := none
  userAgent : Option String := none
  succeeded : Bool
  reason : Option String := none
  deriving DecidableEq, Repr

/-- The values before and after an action are kept as the text of their JSON. -/
structure AuditLog where
  id : Uuid
  actorId : Option Uuid := none
  actorRole : Option String := none
  action : String
  objectType : String
  objectId : Option String := none
  oldValue : Option String := none
  newValue : Option String := none
  deviceInfo : Option String := none
  result : Option String := none
  reason : Option String := none
  createdAt : Time
  deriving DecidableEq, Repr

structure Archive where
  requests : List AccreditationRequest := []
  documents : List Document := []
  complements : List RequestComplement := []
  decisions : List RequestDecision := []
  accreditations : List Accreditation := []
  scanLogs : List ScanLog := []
  notificationLogs : List NotificationLog := []
  loginAttempts : List LoginAttempt := []
  auditLogs : List AuditLog := []
  deriving DecidableEq, Repr

/-! ## References to users -/

def documentUploadedBy : Reference Document Uuid := ⟨fun d => some d.uploadedById, .restrict⟩

def documentReviewedBy : Reference Document Uuid :=
  ⟨(·.reviewedById), .setNull (fun d => { d with reviewedById := none }) fun _ => rfl⟩

def complementRequestedBy : Reference RequestComplement Uuid := ⟨fun c => some c.requestedById, .restrict⟩

def decisionActor : Reference RequestDecision Uuid := ⟨fun d => some d.actorId, .restrict⟩

def accreditationRevokedBy : Reference Accreditation Uuid :=
  ⟨(·.revokedById), .setNull (fun a => { a with revokedById := none }) fun _ => rfl⟩

def scanPerformedBy : Reference ScanLog Uuid := ⟨fun s => some s.scannedById, .restrict⟩

def notificationRecipient : Reference NotificationLog Uuid :=
  ⟨(·.recipientUserId), .setNull (fun n => { n with recipientUserId := none }) fun _ => rfl⟩

def loginAttemptUser : Reference LoginAttempt Uuid :=
  ⟨(·.userId), .setNull (fun l => { l with userId := none }) fun _ => rfl⟩

def auditActor : Reference AuditLog Uuid :=
  ⟨(·.actorId), .setNull (fun l => { l with actorId := none }) fun _ => rfl⟩

/-- The profile of the requester, not the user. -/
def requestRequester : Reference AccreditationRequest Uuid := ⟨fun r => some r.requesterId, .restrict⟩

namespace Archive

variable (a : Archive) (id : Uuid)

/-- A column that forbids the deletion names the user. -/
def blocks : Bool :=
  documentUploadedBy.blocks id a.documents || documentReviewedBy.blocks id a.documents ||
    complementRequestedBy.blocks id a.complements || decisionActor.blocks id a.decisions ||
    accreditationRevokedBy.blocks id a.accreditations || scanPerformedBy.blocks id a.scanLogs ||
    notificationRecipient.blocks id a.notificationLogs || loginAttemptUser.blocks id a.loginAttempts ||
    auditActor.blocks id a.auditLogs

def onDelete : Archive where
  requests := a.requests
  documents := documentReviewedBy.onDelete id (documentUploadedBy.onDelete id a.documents)
  complements := complementRequestedBy.onDelete id a.complements
  decisions := decisionActor.onDelete id a.decisions
  accreditations := accreditationRevokedBy.onDelete id a.accreditations
  scanLogs := scanPerformedBy.onDelete id a.scanLogs
  notificationLogs := notificationRecipient.onDelete id a.notificationLogs
  loginAttempts := loginAttemptUser.onDelete id a.loginAttempts
  auditLogs := auditActor.onDelete id a.auditLogs

/-- The references to these users and to these profiles all hold. -/
structure Within (users profiles : List Uuid) : Prop where
  request_requester : requestRequester.Within a.requests profiles
  document_uploadedBy : documentUploadedBy.Within a.documents users
  document_reviewedBy : documentReviewedBy.Within a.documents users
  complement_requestedBy : complementRequestedBy.Within a.complements users
  decision_actor : decisionActor.Within a.decisions users
  accreditation_revokedBy : accreditationRevokedBy.Within a.accreditations users
  scan_performedBy : scanPerformedBy.Within a.scanLogs users
  notification_recipient : notificationRecipient.Within a.notificationLogs users
  loginAttempt_user : loginAttemptUser.Within a.loginAttempts users
  audit_actor : auditActor.Within a.auditLogs users

variable {a id} {users users' profiles profiles' : List Uuid}

theorem Within.mono (within : a.Within users profiles) (moreUsers : users ⊆ users')
    (moreProfiles : profiles ⊆ profiles') :
    a.Within users' profiles' where
  request_requester := within.request_requester.mono moreProfiles
  document_uploadedBy := within.document_uploadedBy.mono moreUsers
  document_reviewedBy := within.document_reviewedBy.mono moreUsers
  complement_requestedBy := within.complement_requestedBy.mono moreUsers
  decision_actor := within.decision_actor.mono moreUsers
  accreditation_revokedBy := within.accreditation_revokedBy.mono moreUsers
  scan_performedBy := within.scan_performedBy.mono moreUsers
  notification_recipient := within.notification_recipient.mono moreUsers
  loginAttempt_user := within.loginAttempt_user.mono moreUsers
  audit_actor := within.audit_actor.mono moreUsers

/-- A deletion that nothing forbids leaves no reference to the user. -/
theorem Within.onDelete (within : a.Within users profiles) (free : a.blocks id = false)
    (restUsers : ∀ k ∈ users, k ≠ id → k ∈ users')
    (restProfiles : requestRequester.Within a.requests profiles') :
    (a.onDelete id).Within users' profiles' := by
  simp only [blocks, Bool.or_eq_false_iff] at free
  obtain ⟨⟨⟨⟨⟨⟨⟨⟨uploaded, reviewed⟩, requested⟩, decided⟩, revoked⟩, scanned⟩, notified⟩,
    attempted⟩, audited⟩ := free
  refine ⟨restProfiles, ?_, ?_, within.complement_requestedBy.onDelete requested restUsers,
    within.decision_actor.onDelete decided restUsers,
    within.accreditation_revokedBy.onDelete revoked restUsers,
    within.scan_performedBy.onDelete scanned restUsers,
    within.notification_recipient.onDelete notified restUsers,
    within.loginAttempt_user.onDelete attempted restUsers, within.audit_actor.onDelete audited restUsers⟩
  -- A document refers to a user in two columns, and forgetting the reviewer keeps the uploader.
  · show documentUploadedBy.Within
      (documentReviewedBy.onDelete id (documentUploadedBy.onDelete id a.documents)) users'
    refine (within.document_uploadedBy.onDelete uploaded restUsers).onDelete_other
      fun clear cleared action r => ?_
    cases action
    rfl
  · exact within.document_reviewedBy.onDelete reviewed restUsers

end Archive

end AccreditationBackend
