import AccreditationBackend.Requests.StatusMachine
import AccreditationBackend.Quotas.Service
import AccreditationBackend.Accreditations.Service

/-! The use cases of the requests module.

Each is the sequence of its database statements. What stands between a read and
the write that depends on it is exactly where other calls can move.
-/

set_option autoImplicit false

namespace AccreditationBackend

open Foundation (Proc)

/-- The request a use case acts on, when it exists and its caller may touch it. -/
def loadRequest (id : Uuid) (owned : AccreditationRequest → Bool) : Op AccreditationRequest := do
  let found ← Proc.query (·.requestById id)
  orThrow (found.filter owned) requestNotFound

@[simp] theorem loadRequest_bind {A : Type} (id : Uuid) (owned : AccreditationRequest → Bool)
    (f : AccreditationRequest → Op A) :
    (loadRequest id owned >>= f) =
      .read fun db => orThrow ((db.requestById id).filter owned) requestNotFound >>= f := rfl

/-! ## Drafts -/

namespace SaveDraftRequestUseCase

structure SaveDraftInput where
  requesterId : Uuid
  matchId : Uuid
  categoryRequestedId : Uuid
  logistics : Logistics := {}
  deriving DecidableEq, Repr

def referenceGenerationFailed : DomainError where
  code := "REFERENCE_GENERATION_FAILED"
  message := "Impossible de generer une reference unique."
  kind := .conflict

def generateUniqueReference (ambient : Ambient) : Op String :=
  generateUnique "FSF"
    (fun db reference => (db.requests.find (·.uniqueReference == reference)).isSome) ambient
    referenceGenerationFailed 5 0

def isExistingDraft (requesterId matchId : Uuid) (r : AccreditationRequest) : Bool :=
  r.requesterId == requesterId && r.matchId == matchId && r.status == .draft

def newDraft (input : SaveDraftInput) (id : Uuid) (uniqueReference : String) : AccreditationRequest :=
  input.logistics.apply {
    id
    uniqueReference
    requesterId := input.requesterId
    matchId := input.matchId
    categoryRequestedId := input.categoryRequestedId
    status := .draft }

def execute (ambient : Ambient) (input : SaveDraftInput) : Op AccreditationRequest := do
  let _ ← getMatch input.matchId
  let _ ← getCategory input.categoryRequestedId
  let existing ← Proc.query fun db =>
    db.requests.pick ambient.choice (isExistingDraft input.requesterId input.matchId)
  match existing with
  | some existingDraft => issue (.editDraft existingDraft.id input.categoryRequestedId input.logistics)
  | none => do
      let uniqueReference ← generateUniqueReference ambient
      issue (.createRequest (newDraft input ambient.freshId uniqueReference))

end SaveDraftRequestUseCase

/-! ## Submission and review -/

namespace SubmitRequestUseCase

structure SubmitRequestInput where
  requestId : Uuid
  requesterId : Uuid
  actorUserId : Uuid
  deriving DecidableEq, Repr

/-- Another request of the same requester for the same match that is still alive. -/
def isDuplicate (request r : AccreditationRequest) : Bool :=
  r.requesterId == request.requesterId && r.matchId == request.matchId && r.id != request.id &&
    !([RequestStatus.rejected, .cancelled].contains r.status)

def execute (ambient : Ambient) (input : SubmitRequestInput) : Op AccreditationRequest := do
  let request ← loadRequest input.requestId (·.requesterId == input.requesterId)
  lift (assertTransitionAllowed request.status .submitted)
  let m ← getMatch request.matchId
  lift (assertAcceptingRequests (ambient.clock 0) m)
  -- A duplicate is only marked: the decision on it stays with the staff.
  let duplicate ← Proc.query fun db => db.requests.pick ambient.choice (isDuplicate request)
  let updated : AccreditationRequest ← issue (.writeStatus {
    requestId := request.id
    seen := request.status
    target := .submitted
    data := { submittedAt := some (ambient.clock 1), duplicateOfId := duplicate.map (·.id) }
    journal := some { actorId := input.actorUserId } })
  publish (.requestSubmitted request.id request.requesterId)
  return updated

end SubmitRequestUseCase

namespace RequestComplementUseCase

structure RequestComplementInput where
  requestId : Uuid
  requestedById : Uuid
  missingItem : String
  comment : Option String := none
  dueDate : Option Time := none
  deriving DecidableEq, Repr

def complement (ambient : Ambient) (input : RequestComplementInput) : RequestComplement where
  id := ambient.freshId
  requestId := input.requestId
  requestedById := input.requestedById
  missingItem := input.missingItem
  comment := input.comment
  dueDate := input.dueDate

def execute (ambient : Ambient) (input : RequestComplementInput) : Op RequestComplement := do
  let request ← loadRequest input.requestId fun _ => true
  lift (assertTransitionAllowed request.status .infoRequested)
  let _ ← issue (.writeStatus {
    requestId := input.requestId
    seen := request.status
    target := .infoRequested
    journal := some { actorId := input.requestedById, reason := some input.missingItem }
    complement := some (complement ambient input) })
  publish (.requestComplementRequested input.requestId request.requesterId input.missingItem)
  return complement ambient input

end RequestComplementUseCase

namespace ResolveComplementUseCase

structure ResolveComplementInput where
  requestId : Uuid
  complementId : Uuid
  requesterId : Uuid
  deriving DecidableEq, Repr

def complementNotFound : DomainError where
  code := "COMPLEMENT_NOT_FOUND"
  message := "Demande de complement introuvable."
  kind := .notFound

/-- The status is written without the guard of the status machine, and without a decision row. -/
def execute (ambient : Ambient) (input : ResolveComplementInput) : Op RequestComplement := do
  let request ← loadRequest input.requestId (·.requesterId == input.requesterId)
  let foundComplement ← Proc.query fun db => db.complements.find (·.id == input.complementId)
  let _ ← orThrow (foundComplement.filter (·.requestId == input.requestId)) complementNotFound
  -- A complement can be resolved again; its date is then overwritten.
  let resolved : RequestComplement ← issue (.resolveComplement input.complementId (ambient.clock 0))
  -- The open complements are counted afresh, the status is the one read at the start.
  let remainingOpen ← Proc.query fun db =>
    db.complements.count fun c => c.requestId == input.requestId && c.resolvedAt == none
  if remainingOpen = 0 ∧ request.status = .infoRequested then
    let _ ← issue (.writeStatus {
      requestId := input.requestId
      seen := request.status
      target := .underReview })
  return resolved

end ResolveComplementUseCase

namespace TransitionRequestStatusUseCase

structure TransitionRequestStatusInput where
  requestId : Uuid
  toStatus : RequestStatus
  actorId : Uuid
  reason : Option String := none
  deriving DecidableEq, Repr

def execute (input : TransitionRequestStatusInput) : Op AccreditationRequest := do
  let request ← loadRequest input.requestId fun _ => true
  lift (assertTransitionAllowed request.status input.toStatus)
  issue (.writeStatus {
    requestId := input.requestId
    seen := request.status
    target := input.toStatus
    journal := some { actorId := input.actorId, reason := input.reason } })

end TransitionRequestStatusUseCase

/-! ## Decision and cancellation -/

namespace DecideRequestUseCase

inductive Decision where
  | validated | rejected
  deriving DecidableEq, Repr

def Decision.status : Decision → RequestStatus
  | .validated => .validated
  | .rejected => .rejected

structure DecideRequestInput where
  requestId : Uuid
  actorId : Uuid
  actorIsAdmin : Bool := false
  status : Decision
  reason : Option String := none
  zoneIds : List Uuid := []
  overrideQuota : Bool := false
  assignedBoothNumber : Option Int := none
  assignedFlashSlot : Option String := none
  deriving DecidableEq, Repr

def forbiddenScope : DomainError where
  code := "FORBIDDEN_SCOPE"
  message := "Seul un administrateur peut forcer un depassement de quota."
  kind := .forbidden

def quotaExceeded (reservation : ReservationResult) : DomainError :=
  if reservation.overflowPolicy = .priority then {
    code := "QUOTA_EXCEEDED"
    message := "Quota atteint. Un administrateur peut forcer la validation (politique PRIORITY)."
    kind := .quotaExceeded
    details := some (.quota reservation.quotaTotal reservation.consumed none) }
  else {
    code := "QUOTA_EXCEEDED"
    message := "Quota atteint pour cette categorie sur ce match."
    kind := .quotaExceeded
    details := some (.quota reservation.quotaTotal reservation.consumed (some reservation.overflowPolicy)) }

def reserveQuotaOrThrow (request : AccreditationRequest) (input : DecideRequestInput) : Op Unit :=
  if input.overrideQuota then
    if input.actorIsAdmin then return else throw forbiddenScope
  else do
    let reservation ← reserveSlot request.matchId request.categoryRequestedId
    if reservation.reserved then return else throw (quotaExceeded reservation)

def decisionWrite (ambient : Ambient) (input : DecideRequestInput)
    (request : AccreditationRequest) : StatusWrite where
  requestId := request.id
  seen := request.status
  target := input.status.status
  data := {
    decisionAt := some (ambient.clock 0)
    decisionById := some input.actorId
    decisionReason := input.reason }
  journal := some { actorId := input.actorId, reason := input.reason }

/-- The second write assumes that the request is still VALIDATED. -/
def badgeWrite (input : DecideRequestInput) (request : AccreditationRequest) : StatusWrite where
  requestId := request.id
  seen := .validated
  target := .badgeGenerated
  journal := some { actorId := input.actorId }

def execute (services : Services) (ambient : Ambient) (input : DecideRequestInput) :
    Op AccreditationRequest := do
  let request ← loadRequest input.requestId fun _ => true
  lift (assertTransitionAllowed request.status input.status.status)
  -- The slot is taken before the decision is written, and no later failure gives it back.
  if input.status = .validated then reserveQuotaOrThrow request input
  let updated : AccreditationRequest ← issue (.writeStatus (decisionWrite ambient input request))
  publish (.requestDecided request.id request.requesterId input.status.status input.reason input.zoneIds)
  if input.status = .validated then
    let _ ← generateAccreditation services ambient (ambient.clock 1) request.id input.zoneIds
      { assignedBoothNumber := input.assignedBoothNumber, assignedFlashSlot := input.assignedFlashSlot }
    issue (.writeStatus (badgeWrite input request))
  else return updated

end DecideRequestUseCase

namespace CancelRequestUseCase

/-- `requesterId` is given when a requester cancels, and absent for the staff. -/
structure CancelRequestInput where
  requestId : Uuid
  actorId : Uuid
  requesterId : Option Uuid := none
  deriving DecidableEq, Repr

def cancelWrite (input : CancelRequestInput) (request : AccreditationRequest) : StatusWrite where
  requestId := request.id
  seen := request.status
  target := .cancelled
  journal := some { actorId := input.actorId }

/-- An absent or empty id stands for the staff, whose cancellations nobody's ownership limits. -/
def mayCancel (input : CancelRequestInput) (r : AccreditationRequest) : Bool :=
  input.requesterId.all fun requesterId => requesterId == "" || r.requesterId == requesterId

def execute (input : CancelRequestInput) : Op AccreditationRequest := do
  let request ← loadRequest input.requestId (mayCancel input)
  lift (assertTransitionAllowed request.status .cancelled)
  let updated : AccreditationRequest ← issue (.writeStatus (cancelWrite input request))
  -- The slot is released after the status, and by the status that was read.
  if request.status.holdsSlot then releaseSlot request.matchId request.categoryRequestedId
  publish (.requestCancelled request.id request.status)
  return updated

end CancelRequestUseCase

end AccreditationBackend
