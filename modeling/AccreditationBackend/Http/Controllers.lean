import AccreditationBackend.Http.Queries

/-! The routes on requests, documents, badges, quotas, matches, scans, staff accounts
and sessions, from the guards in front of them to the use cases behind them. -/

set_option autoImplicit false

namespace AccreditationBackend

open Foundation

/-! ## Controllers -/

structure SiteServices where
  toServices : Services
  auth : AuthServices
  documents : DocumentServices
  /-- The storage signs a temporary address for a key. -/
  signedDownloadUrl : Time → String → String

inductive SiteAnswer where
  | operation (reply : Reply)
  | account (reply : UserReply)
  | document (row : Document)
  | request (answer : RequestAnswer)
  | requests (page : PageResult RequestDetail)
  | badge (answer : BadgeAnswer)
  | url (url : String)

/-- What a request draws from its surroundings, in each part. -/
structure Surroundings where
  toAmbient : Ambient := {}
  auth : AuthAmbient := {}
  document : DocumentAmbient := {}

def operate (services : SiteServices) (op : Operation) : SiteOp SiteAnswer := do
  let reply ← (op.execute services.toServices).within databasePart
  return .operation reply

def administer (services : SiteServices) (op : UserOperation) : SiteOp SiteAnswer := do
  let reply ← (op.execute services.auth).within accountsPart
  return .account reply

def file (services : SiteServices) (op : DocumentOperation) : SiteOp SiteAnswer := do
  let row ← (op.execute services.documents).within documentsPart
  return .document row

/-- An absent or empty id is no profile. -/
def requireProfile (user : AuthenticatedUser) : SiteOp Uuid :=
  match user.requesterProfileId.filter (· != "") with
  | some profile => .done profile
  | none => .fail (.forbidden ⟨"Ce compte n'a pas de profil demandeur."⟩)

structure CreateDraftRequestDto where
  matchId : Uuid
  categoryRequestedId : Uuid
  logistics : Logistics := {}

structure RequestComplementDto where
  missingItem : String
  comment : Option String := none
  dueDate : Option Time := none

structure DecideRequestDto where
  status : DecideRequestUseCase.Decision
  reason : Option String := none
  zoneIds : Option (List Uuid) := none
  overrideQuota : Option Bool := none
  assignedBoothNumber : Option Int := none
  assignedFlashSlot : Option String := none

structure UploadDocumentDto where
  subjectType : DocumentSubjectType
  subjectId : Uuid
  documentType : DocumentType

variable (services : SiteServices) (around : Surroundings) (user : AuthenticatedUser)

namespace RequestsController

def create (dto : CreateDraftRequestDto) : SiteOp SiteAnswer := do
  let requesterId ← requireProfile user
  operate services (.saveDraft around.toAmbient {
    requesterId
    matchId := dto.matchId
    categoryRequestedId := dto.categoryRequestedId
    logistics := dto.logistics })

def submit (id : Uuid) : SiteOp SiteAnswer := do
  let requesterId ← requireProfile user
  operate services (.submit around.toAmbient { requestId := id, requesterId, actorUserId := user.id })

def list (query : ListRequestsDto) : SiteOp SiteAnswer := do
  let requesterId ← requireProfile user
  let page ← ListRequestsQuery.execute query (some requesterId)
  return .requests page

/-- The request is read, with all that is joined to it, before its owner is looked at. -/
def ownRequest (id : Uuid) : SiteOp RequestAnswer := do
  let request ← GetRequestQuery.execute id
  let requesterId ← requireProfile user
  if request.detail.request.requesterId ≠ requesterId then
    .fail (.forbidden ⟨"Ce dossier ne vous appartient pas."⟩)
  else return request

def get (id : Uuid) : SiteOp SiteAnswer := do
  let request ← ownRequest user id
  return .request request

def documentTypeInvalid : DomainError where
  code := "DOCUMENT_TYPE_INVALID"
  message := "Type de document invalide."
  kind := .validation

/-- `documentType` is absent when the client's text is none of the types. -/
def uploadDocument (id : Uuid) (documentType : Option DocumentType) (upload : UploadFileInput) : SiteOp SiteAnswer := do
  let _ ← ownRequest user id
  match documentType with
  | none => .fail (.failed (.domain documentTypeInvalid))
  | some documentType => file services (.upload around.document .request id documentType upload user.id)

def resolve (id complementId : Uuid) : SiteOp SiteAnswer := do
  let requesterId ← requireProfile user
  operate services (.resolveComplement around.toAmbient { requestId := id, complementId, requesterId })

def cancel (id : Uuid) : SiteOp SiteAnswer := do
  let requesterId ← requireProfile user
  operate services (.cancel { requestId := id, actorId := user.id, requesterId := some requesterId })

end RequestsController

namespace AdminRequestsController

def complement (id : Uuid) (dto : RequestComplementDto) : SiteOp SiteAnswer :=
  operate services (.requestComplement around.toAmbient {
    requestId := id
    requestedById := user.id
    missingItem := dto.missingItem
    comment := dto.comment
    dueDate := dto.dueDate })

def transition (id : Uuid) (toStatus : RequestStatus) : SiteOp SiteAnswer :=
  operate services (.transition { requestId := id, toStatus, actorId := user.id })

def decide (id : Uuid) (dto : DecideRequestDto) : SiteOp SiteAnswer :=
  operate services (.decide around.toAmbient {
    requestId := id
    actorId := user.id
    actorIsAdmin := user.role == some .admin
    status := dto.status
    reason := dto.reason
    zoneIds := dto.zoneIds.getD []
    overrideQuota := dto.overrideQuota.getD false
    assignedBoothNumber := dto.assignedBoothNumber
    assignedFlashSlot := dto.assignedFlashSlot })

def cancel (id : Uuid) : SiteOp SiteAnswer :=
  operate services (.cancel { requestId := id, actorId := user.id })

end AdminRequestsController

namespace AdminAccreditationsController

def revoke (id : Uuid) (reason : String) : SiteOp SiteAnswer :=
  operate services (.revoke around.toAmbient id reason user.id)

def updateAssignments (id : Uuid) (dto : AssignmentInput) : SiteOp SiteAnswer :=
  operate services (.updateAssignments id dto)

end AdminAccreditationsController

namespace AccreditationsController

def get (requestId : Uuid) : SiteOp SiteAnswer := do
  let requesterId ← requireProfile user
  let badge ← getForRequest requestId (some requesterId)
  return .badge badge

/-- The address of an object of the badge. -/
def addressOf (object : String) (requestId : Uuid) : SiteOp SiteAnswer := do
  let requesterId ← requireProfile user
  let badge ← getForRequest requestId (some requesterId)
  return .url (services.signedDownloadUrl (around.toAmbient.clock 0)
    ("accreditations/" ++ badge.accreditation.id ++ "/" ++ object))

def download (requestId : Uuid) : SiteOp SiteAnswer := addressOf services around user "badge.pdf" requestId

def qrUrl (requestId : Uuid) : SiteOp SiteAnswer := addressOf services around user "qr.png" requestId

end AccreditationsController

namespace AdminDocumentsController

def upload (dto : UploadDocumentDto) (upload : UploadFileInput) : SiteOp SiteAnswer :=
  file services (.upload around.document dto.subjectType dto.subjectId dto.documentType upload user.id)

def review (id : Uuid) (status : ReviewStatus) (rejectionReason : Option String) : SiteOp SiteAnswer :=
  file services (.review around.document id status user.id rejectionReason)

end AdminDocumentsController

def AdminQuotasController.set (matchId : Uuid) (dto : SetQuotaDto) : SiteOp SiteAnswer :=
  operate services (.setQuota around.toAmbient matchId dto)

def AdminMatchesController.update (id : Uuid) (dto : UpdateMatchDto) : SiteOp SiteAnswer :=
  operate services (.updateMatch id dto)

def AccessControlController.scan (dto : VerifyScanDto) : SiteOp SiteAnswer :=
  operate services (.verifyScan around.toAmbient dto user.id)

def AdminAccessControlController.syncOffline (scans : List OfflineScanRecordDto) : SiteOp SiteAnswer :=
  operate services (.syncOfflineScans around.toAmbient scans user.id)

namespace UsersController

def create (dto : CreateStaffUserDto) : SiteOp SiteAnswer :=
  administer services (.createStaffUser around.auth dto user.id)

def update (id : Uuid) (dto : UpdateStaffUserDto) : SiteOp SiteAnswer :=
  administer services (.updateStaffUser id dto user.id)

def resetPassword (id : Uuid) (newTemporaryPassword : String) : SiteOp SiteAnswer :=
  administer services (.session (.resetPassword around.auth id newTemporaryPassword user.id))

def updateStatus (id : Uuid) (status : UserStatus) : SiteOp SiteAnswer :=
  administer services (.session (.updateStatus id status user.id))

def remove (id : Uuid) : SiteOp SiteAnswer := administer services (.deleteStaffUser id user.id)

end UsersController

namespace AuthController

def login (email password : String) (context : LoginContext) : SiteOp SiteAnswer :=
  administer services (.session (.login around.auth email password context))

def refresh (refreshToken : String) (context : LoginContext) : SiteOp SiteAnswer :=
  administer services (.session (.refresh around.auth refreshToken context))

def logout (refreshToken : String) : SiteOp SiteAnswer :=
  administer services (.session (.logout around.auth refreshToken))

def updateDisplayName (displayName : String) : SiteOp SiteAnswer :=
  administer services (.updateOwnDisplayName user.id displayName)

end AuthController

/-! ## Routes -/

/-- A route with the parameters and the body that the client gives it.

Registration and the journalists of an editor in chief create requesters, and are not
among them; nor are the routes that write the reference tables. -/
inductive Endpoint where
  -- RequestsController
  | createDraft (dto : CreateDraftRequestDto)
  | submit (id : Uuid)
  | resolve (id complementId : Uuid)
  | cancelOwn (id : Uuid)
  | listOwn (query : ListRequestsDto)
  | getOwn (id : Uuid)
  | uploadDocument (id : Uuid) (documentType : Option DocumentType) (upload : UploadFileInput)
  -- AccreditationsController
  | badge (requestId : Uuid)
  | badgeUrl (requestId : Uuid)
  | qrUrl (requestId : Uuid)
  -- AdminDocumentsController
  | depositDocument (dto : UploadDocumentDto) (upload : UploadFileInput)
  | reviewDocument (id : Uuid) (status : ReviewStatus) (rejectionReason : Option String)
  -- AdminRequestsController
  | complement (id : Uuid) (dto : RequestComplementDto)
  | transition (id : Uuid) (toStatus : RequestStatus)
  | decide (id : Uuid) (dto : DecideRequestDto)
  | cancel (id : Uuid)
  -- AdminAccreditationsController
  | revoke (id : Uuid) (reason : String)
  | updateAssignments (id : Uuid) (dto : AssignmentInput)
  -- AdminQuotasController, AdminMatchesController
  | setQuota (matchId : Uuid) (dto : SetQuotaDto)
  | updateMatch (id : Uuid) (dto : UpdateMatchDto)
  -- AccessControlController, AdminAccessControlController
  | scan (dto : VerifyScanDto)
  | syncOffline (scans : List OfflineScanRecordDto)
  -- UsersController
  | createUser (dto : CreateStaffUserDto)
  | updateUser (id : Uuid) (dto : UpdateStaffUserDto)
  | resetPassword (id : Uuid) (newTemporaryPassword : String)
  | updateUserStatus (id : Uuid) (status : UserStatus)
  | removeUser (id : Uuid)
  -- AuthController
  | login (email password : String) (context : LoginContext)
  | refresh (refreshToken : String) (context : LoginContext)
  | logout (refreshToken : String)
  | updateDisplayName (displayName : String)

def guardedBy (permission : Permission) : Route := { handler := { permissions := some [permission] } }

def publicRoute : Route := { handler := { isPublic := some true } }

def Endpoint.route : Endpoint → Route
  -- Any account: what it may touch is for the handler to check.
  | .createDraft _ | .submit _ | .resolve .. | .cancelOwn _ | .listOwn _ | .getOwn _ | .uploadDocument .. | .badge _
  | .badgeUrl _ | .qrUrl _ | .updateDisplayName _ => {}
  | .complement .. => guardedBy .requestsComplementRequest
  | .transition .. | .decide .. | .cancel _ => guardedBy .requestsValidate
  | .depositDocument .. => guardedBy .mediaManage
  | .reviewDocument .. => guardedBy .requestsValidate
  | .revoke .. => guardedBy .accreditationsRevoke
  | .updateAssignments .. => guardedBy .accreditationsGenerate
  | .setQuota .. => guardedBy .requestsAttribute
  | .updateMatch .. => guardedBy .competitionsManage
  | .scan _ | .syncOffline _ => guardedBy .scanPerform
  | .createUser _ | .updateUser .. | .resetPassword .. | .updateUserStatus .. | .removeUser _ =>
      guardedBy .usersManage
  | .login .. | .refresh .. | .logout _ => publicRoute

/-- The user that the guards have put on the request. -/
def currentUser : Option AuthenticatedUser → SiteOp AuthenticatedUser
  | some user => .done user
  | none => .fail .typeError

section Routes

variable (caller : Option AuthenticatedUser)

def Endpoint.handle : Endpoint → SiteOp SiteAnswer
  | .createDraft dto => do RequestsController.create services around (← currentUser caller) dto
  | .submit id => do RequestsController.submit services around (← currentUser caller) id
  | .resolve id complementId => do RequestsController.resolve services around (← currentUser caller) id complementId
  | .cancelOwn id => do RequestsController.cancel services (← currentUser caller) id
  | .listOwn query => do RequestsController.list (← currentUser caller) query
  | .getOwn id => do RequestsController.get (← currentUser caller) id
  | .uploadDocument id documentType upload => do
      RequestsController.uploadDocument services around (← currentUser caller) id documentType upload
  | .badge requestId => do AccreditationsController.get (← currentUser caller) requestId
  | .badgeUrl requestId => do AccreditationsController.download services around (← currentUser caller) requestId
  | .qrUrl requestId => do AccreditationsController.qrUrl services around (← currentUser caller) requestId
  | .depositDocument dto upload => do
      AdminDocumentsController.upload services around (← currentUser caller) dto upload
  | .reviewDocument id status rejectionReason => do
      AdminDocumentsController.review services around (← currentUser caller) id status rejectionReason
  | .complement id dto => do AdminRequestsController.complement services around (← currentUser caller) id dto
  | .transition id toStatus => do AdminRequestsController.transition services (← currentUser caller) id toStatus
  | .decide id dto => do AdminRequestsController.decide services around (← currentUser caller) id dto
  | .cancel id => do AdminRequestsController.cancel services (← currentUser caller) id
  | .revoke id reason => do AdminAccreditationsController.revoke services around (← currentUser caller) id reason
  | .updateAssignments id dto => AdminAccreditationsController.updateAssignments services id dto
  | .setQuota matchId dto => AdminQuotasController.set services around matchId dto
  | .updateMatch id dto => AdminMatchesController.update services id dto
  | .scan dto => do AccessControlController.scan services around (← currentUser caller) dto
  | .syncOffline scans => do AdminAccessControlController.syncOffline services around (← currentUser caller) scans
  | .createUser dto => do UsersController.create services around (← currentUser caller) dto
  | .updateUser id dto => do UsersController.update services (← currentUser caller) id dto
  | .resetPassword id password => do
      UsersController.resetPassword services around (← currentUser caller) id password
  | .updateUserStatus id status => do UsersController.updateStatus services (← currentUser caller) id status
  | .removeUser id => do UsersController.remove services (← currentUser caller) id
  | .login email password context => AuthController.login services around email password context
  | .refresh token context => AuthController.refresh services around token context
  | .logout token => AuthController.logout services around token
  | .updateDisplayName displayName => do AuthController.updateDisplayName services (← currentUser caller) displayName

/-- A request, with what its bearer token says if it has a valid one. -/
structure HttpRequest where
  endpoint : Endpoint
  payload : Option JwtPayload := none
  around : Surroundings := {}

def HttpRequest.execute (request : HttpRequest) : SiteOp SiteAnswer := do
  let caller ← (JwtAuthGuard.canActivate request.endpoint.route request.payload).within accountsPart
  match PermissionsGuard.canActivate request.endpoint.route caller with
  | .error why => .fail (.forbidden why)
  | .ok _ => request.endpoint.handle services request.around caller

end Routes

/-- Requests that are served at once. -/
def sitePool {ι : Type} (start : Site) (requests : ι → HttpRequest) : Pool ι siteStore Site HttpFailure SiteAnswer :=
  ⟨start, fun i => (requests i).execute services⟩

end AccreditationBackend
