import AccreditationBackend.Http.Site
import AccreditationBackend.Kernel.Pagination

/-! The queries behind the routes that read: a request, a list of them, a badge.

The rows of a table stand in the order of their creation.
-/

set_option autoImplicit false

namespace AccreditationBackend

open Foundation

/-! ## One request -/

/-- A request with what its detailed view joins to it. -/
structure RequestView where
  detail : RequestDetail
  complements : List RequestComplement
  decisions : List RequestDecision
  accreditation : Option Accreditation

structure RequestAnswer extends RequestView where
  documents : List Document

def Tables.requestView (t : Tables) (id : Uuid) : Option RequestView := do
  let detail ← t.requestDetail id
  return {
    detail
    complements := (t.complements.rows.filter (·.requestId == id)).reverse
    decisions := (t.decisions.filter (·.requestId == id)).reverse
    accreditation := t.accreditations.find (·.requestId == id) }

def DocumentType.rank : DocumentType → Nat
  | .cartePresse => 0
  | .pieceIdentite => 1
  | .photo => 2
  | .lettreMission => 3
  | .attestationMedia => 4
  | .autre => 5

/-- By type, and the last version first. -/
def Document.precedes (a b : Document) : Bool :=
  a.documentType.rank < b.documentType.rank || a.documentType.rank == b.documentType.rank && b.version ≤ a.version

def Documents.listForSubject (t : Documents) (subjectType : DocumentSubjectType) (subjectId : Uuid) : List Document :=
  (t.documents.rows.filter fun d => d.subjectType == subjectType && d.subjectId == subjectId).mergeSort
    Document.precedes

def GetRequestQuery.execute (requestId : Uuid) : SiteOp RequestAnswer := do
  let found ← Proc.query fun site => site.db.requestView requestId
  match found with
  | none => .fail (.failed (.domain requestNotFound))
  | some request => do
      let documents ← Proc.query fun site => site.documents.listForSubject .request requestId
      return { request with documents }

/-! ## A list of requests -/

structure ListRequestsDto extends PaginationQueryDto where
  matchId : Option Uuid := none
  categoryRequestedId : Option Uuid := none
  status : Option RequestStatus := none

/-- The `WHERE` clause: an absent or empty criterion does not restrict. -/
def ListRequestsDto.selects (query : ListRequestsDto) (requesterId : Option Uuid) (r : AccreditationRequest) : Bool :=
  (requesterId.filter (· != "")).all (r.requesterId == ·) && (query.matchId.filter (· != "")).all (r.matchId == ·) &&
    (query.categoryRequestedId.filter (· != "")).all (r.categoryRequestedId == ·) && query.status.all (r.status == ·)

/-- The two queries go out together; either may meet the later store. -/
def ListRequestsQuery.execute (query : ListRequestsDto) (requesterId : Option Uuid) :
    SiteOp (PageResult RequestDetail) := do
  let items ← Proc.query fun site =>
    let rows := (site.db.requests.rows.filter (query.selects requesterId)).reverse
    ((toSkipTake query.toPageRequest).rows rows).filterMap fun r => site.db.requestDetail r.id
  let total ← Proc.query fun site => site.db.requests.count (query.selects requesterId)
  return buildPageResult items total query.toPageRequest

/-! ## A badge -/

/-- A badge with its zones and the requester of its request. -/
structure BadgeAnswer where
  accreditation : Accreditation
  zones : List Zone
  requesterId : Option Uuid
  deriving DecidableEq, Repr

def Tables.badgeOf (t : Tables) (requestId : Uuid) : Option BadgeAnswer := do
  let accreditation ← t.accreditations.find (·.requestId == requestId)
  return {
    accreditation
    zones := (t.zoneIdsOf accreditation.id).filterMap fun zoneId => t.zones.find (·.id == zoneId)
    requesterId := (t.requestById accreditation.requestId).map (·.requesterId) }

def badgeOutOfScope : DomainError where
  code := "FORBIDDEN_SCOPE"
  message := "Ce badge ne vous appartient pas."
  kind := .forbidden

def getForRequest (requestId : Uuid) (expectedRequesterId : Option Uuid) : SiteOp BadgeAnswer := do
  let found ← Proc.query fun site => site.db.badgeOf requestId
  match found with
  | none => .fail (.failed (.domain accreditationNotFound))
  | some badge =>
      -- An absent or empty id expects nobody.
      if (expectedRequesterId.filter (· != "")).any fun expected => badge.requesterId != some expected then
        .fail (.failed (.domain badgeOutOfScope))
      else return badge

end AccreditationBackend
