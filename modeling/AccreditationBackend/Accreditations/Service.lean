import AccreditationBackend.Kernel.Procedures

/-! Badges: generation, assignments, revocation and lookup by token. -/

set_option autoImplicit false

namespace AccreditationBackend

open Foundation (Proc)

structure BadgePayload where
  accreditationId : Uuid
  number : String
  reference : String
  firstName : String
  lastName : String
  mediaName : String
  matchId : Uuid
  zoneIds : List Uuid
  boothNumber : Option Int
  flashSlot : Option String
  issuedAt : Int
  expiresAt : Int
  deriving DecidableEq, Repr

structure Signature where
  rawPayload : String
  ecdsaSignatureHex : String
  publicKeyFingerprint : String
  offlineChecksum : String
  deriving DecidableEq, Repr

/-- The keyed hash of tokens and the signature of payloads, both of `node:crypto`. -/
structure Services where
  hash : String → String
  sign : BadgePayload → Signature

def defaultValidityDays : Int := 1

structure GenerateAccreditationOptions where
  assignedBoothNumber : Option Int := none
  assignedFlashSlot : Option String := none
  deriving DecidableEq, Repr

/-- A request joined with the rows that its badge prints. -/
structure RequestDetail where
  request : AccreditationRequest
  requester : RequesterProfile
  media : Media
  matchRow : Match
  categoryRequested : AccreditationCategory

def Tables.requestDetail (t : Tables) (id : Uuid) : Option RequestDetail := do
  let request ← t.requestById id
  let requester ← t.requesters.find (·.id == request.requesterId)
  let media ← t.media.find (·.id == requester.mediaId)
  let matchRow ← t.matchRows.find (·.id == request.matchId)
  let categoryRequested ← t.categories.find (·.id == request.categoryRequestedId)
  return { request, requester, media, matchRow, categoryRequested }

/-! ## Generation -/

def badgeNumberGenerationFailed : DomainError where
  code := "BADGE_NUMBER_GENERATION_FAILED"
  message := "Impossible de generer un numero de badge unique."
  kind := .conflict

/-- `prefix-year-dddddd` with the digits of `randomInt(0, 999_999)`. -/
def candidate (label : String) (ambient : Ambient) (attempt : Nat) : String :=
  let digits := String.ofList ((toString (ambient.draw attempt % 999999)).toList.leftpad 6 '0')
  s!"{label}-{ambient.year}-{digits}"

/-- Try fresh candidates, from `attempt` on, until one is free. -/
def generateUnique (label : String) (taken : Database → String → Bool) (ambient : Ambient)
    (why : DomainError) : Nat → Nat → Op String
  | 0, _ => throw why
  | left + 1, attempt => do
      let used ← Proc.query fun db => taken db (candidate label ambient attempt)
      if used then generateUnique label taken ambient why left (attempt + 1)
      else return candidate label ambient attempt

theorem generateUnique_issues {P : Statement → Prop} (label : String) (taken : Database → String → Bool)
    (ambient : Ambient) (why : DomainError) (left attempt : Nat) :
    (generateUnique label taken ambient why left attempt).Issues P := by
  induction left generalizing attempt with
  | zero => trivial
  | succ left ih =>
      refine Proc.issues_bind _ _ _ (query_issues _) fun used => ?_
      split
      · exact ih (attempt + 1)
      · trivial

def generateBadgeNumber (ambient : Ambient) : Op String :=
  generateUnique "ACC" (fun db number => (db.accreditations.find (·.number == number)).isSome) ambient
    badgeNumberGenerationFailed 5 0

def badgePayload (detail : RequestDetail) (number : String) (zoneIds : List Uuid)
    (options : GenerateAccreditationOptions) (issuedAt expiresAt : Time) : BadgePayload where
  accreditationId := detail.request.id
  number := number
  reference := detail.request.uniqueReference
  firstName := detail.requester.firstName
  lastName := detail.requester.lastName
  mediaName := detail.media.name
  matchId := detail.request.matchId
  zoneIds := zoneIds
  boothNumber := options.assignedBoothNumber
  flashSlot := options.assignedFlashSlot
  issuedAt := issuedAt / 1000
  expiresAt := expiresAt / 1000

def cryptoSignature (signature : Signature) (issuedAt expiresAt : Time) : CryptoSignature where
  payloadVersion := "FSF-CRYPTO-V1-ECDSA-P256"
  rawPayload := signature.rawPayload
  ecdsaSignatureHex := signature.ecdsaSignatureHex
  publicKeyFingerprint := signature.publicKeyFingerprint
  issuedTimestamp := issuedAt / 1000
  expiresTimestamp := expiresAt / 1000
  offlineChecksum := signature.offlineChecksum

/-- Any step can fail; the badge row is committed before the QR code and the PDF exist. -/
def generateAccreditation (services : Services) (ambient : Ambient) (issuedAt : Time) (requestId : Uuid)
    (zoneIds : List Uuid) (options : GenerateAccreditationOptions) : Op Accreditation := do
  ambient.attempt .readRequest
  let found ← Proc.query (·.requestDetail requestId)
  let detail ← orThrow found requestNotFound
  let qrTokenHash := services.hash ambient.rawToken
  ambient.attempt .lookUpNumber
  let number ← generateBadgeNumber ambient
  -- The validity hangs on the kick-off as it is now; a later change of the match does not move it.
  let expiresAt := detail.matchRow.kickoffAt + defaultValidityDays * 86400000
  ambient.attempt .sign
  let signature := services.sign (badgePayload detail number zoneIds options issuedAt expiresAt)
  ambient.attempt .createBadge
  let accreditation : Accreditation ← issue (.createAccreditation {
    id := ambient.freshId
    requestId
    number
    status := .active
    qrTokenHash
    issuedAt
    expiresAt
    assignedBoothNumber := options.assignedBoothNumber
    assignedFlashSlot := options.assignedFlashSlot
    cryptoSignature := cryptoSignature signature issuedAt expiresAt } zoneIds)
  ambient.attempt .renderQrCode
  ambient.attempt .readZones
  ambient.attempt .renderBadgePdf
  ambient.attempt .putObjects
  publish (.accreditationGenerated accreditation.id requestId detail.request.requesterId)
  return accreditation

/-! ## Later changes -/

def accreditationAlreadyRevoked : DomainError where
  code := "ACCREDITATION_ALREADY_REVOKED"
  message := "Cette accreditation est deja revoquee."
  kind := .conflict

def updateAssignments (accreditationId : Uuid) (input : AssignmentInput) : Op Accreditation := do
  let found ← Proc.query (·.accreditationById accreditationId)
  let _ ← orThrow found accreditationNotFound
  issue (.updateAssignments accreditationId input)

def revoke (ambient : Ambient) (accreditationId : Uuid) (reason : String) (revokedById : Uuid) :
    Op Accreditation := do
  let found ← Proc.query (·.accreditationById accreditationId)
  let accreditation ← orThrow found accreditationNotFound
  -- The status was read before: two revocations at once both pass.
  if accreditation.status = .revoked then throw accreditationAlreadyRevoked
  let updated : Accreditation ← issue (.revoke accreditationId (ambient.clock 0) revokedById reason)
  publish (.accreditationRevoked accreditationId accreditation.requestId reason)
  return updated

def findByRawToken (services : Services) (rawToken : String) : Op (Option Accreditation) :=
  Proc.query (·.accreditationByHash (services.hash rawToken))

end AccreditationBackend
