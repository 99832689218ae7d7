import AccreditationBackend.Foundation.Table

/-! Rows of the relational schema, with the enumerations of their columns.

A column is kept when some modelled function reads, writes or returns it. Row
ids are opaque, and the ids of a DTO are checked to be UUIDs, so the truthiness
of an optional one is its presence. Instants are milliseconds since the epoch.
-/

set_option autoImplicit false

namespace AccreditationBackend

open Foundation (Keyed Table)

abbrev Uuid := String
abbrev Time := Int

inductive RequestStatus where
  | draft | submitted | underReview | infoRequested | complete | pendingValidation
  | validated | rejected | cancelled | badgeGenerated | accessUsed
  deriving DecidableEq, Repr

inductive RoleInEvent where
  | journalisteReporter | photographe | cameraman | commentateur | technicienRegie
  deriving DecidableEq, Repr

inductive MatchStatus where
  | draft | open | closed | played | cancelled | archived
  deriving DecidableEq, Repr

inductive OverflowPolicy where
  | queue | manualArbitration | priority | close
  deriving DecidableEq, Repr

inductive AccreditationStatus where
  | active | revoked | expired
  deriving DecidableEq, Repr

inductive ScanResult where
  | valid | invalid | expired | revoked | alreadyUsed | outOfScope
  deriving DecidableEq, Repr

inductive ScanSource where
  | online | offlineSynced
  deriving DecidableEq, Repr

/-! ## Reference data -/

structure Media where
  id : Uuid
  name : String
  deriving DecidableEq, Repr

structure RequesterProfile where
  id : Uuid
  mediaId : Uuid
  firstName : String
  lastName : String
  function : String
  deriving DecidableEq, Repr

structure Match where
  id : Uuid
  competitionId : Uuid
  homeTeam : String
  awayTeam : String
  kickoffAt : Time
  timezone : String := "Africa/Dakar"
  stadium : String
  city : String
  status : MatchStatus := .draft
  capacityTotal : Option Nat := none
  pressTribuneCapacity : Option Nat := none
  requestsOpenAt : Option Time := none
  requestsCloseAt : Option Time := none
  rulesNotes : Option String := none
  deriving DecidableEq, Repr

structure AccreditationCategory where
  id : Uuid
  label : String
  deriving DecidableEq, Repr

structure Zone where
  id : Uuid
  label : String
  deriving DecidableEq, Repr

/-! ## Quotas -/

/-- `quotaTotal` is only ever written from a value checked with `@Min(0)`. -/
structure MatchCategoryQuota where
  id : Uuid
  matchId : Uuid
  categoryId : Uuid
  quotaTotal : Nat
  consumed : Int := 0
  overflowPolicy : OverflowPolicy := .manualArbitration
  deriving DecidableEq, Repr

structure MatchCategoryQuotaZone where
  quotaId : Uuid
  zoneId : Uuid
  deriving DecidableEq, Repr

/-! ## Requests -/

structure AccreditationRequest where
  id : Uuid
  uniqueReference : String
  requesterId : Uuid
  matchId : Uuid
  categoryRequestedId : Uuid
  status : RequestStatus := .draft
  roleInEvent : Option RoleInEvent := none
  needsDesk : Bool := false
  needsPower : Bool := false
  needsLanWifi : Bool := false
  carPlateNumber : Option String := none
  preferredZoneIds : List Uuid := []
  submittedAt : Option Time := none
  decisionAt : Option Time := none
  decisionById : Option Uuid := none
  decisionReason : Option String := none
  duplicateOfId : Option Uuid := none
  deriving DecidableEq, Repr

structure RequestComplement where
  id : Uuid
  requestId : Uuid
  requestedById : Uuid
  missingItem : String
  comment : Option String := none
  dueDate : Option Time := none
  resolvedAt : Option Time := none
  deriving DecidableEq, Repr

structure RequestDecision where
  requestId : Uuid
  actorId : Uuid
  fromStatus : RequestStatus
  toStatus : RequestStatus
  reason : Option String := none
  deriving DecidableEq, Repr

/-! ## Badges and scans -/

structure CryptoSignature where
  payloadVersion : String
  rawPayload : String
  ecdsaSignatureHex : String
  publicKeyFingerprint : String
  issuedTimestamp : Int
  expiresTimestamp : Int
  offlineChecksum : String
  deriving DecidableEq, Repr

structure Accreditation where
  id : Uuid
  requestId : Uuid
  number : String
  status : AccreditationStatus := .active
  qrTokenHash : String
  issuedAt : Time
  expiresAt : Time
  revokedAt : Option Time := none
  revokedById : Option Uuid := none
  revocationReason : Option String := none
  assignedBoothNumber : Option Int := none
  assignedFlashSlot : Option String := none
  cryptoSignature : CryptoSignature
  deriving DecidableEq, Repr

structure AccreditationZone where
  accreditationId : Uuid
  zoneId : Uuid
  deriving DecidableEq, Repr

structure ScanLog where
  accreditationId : Option Uuid
  scannedTokenHash : String
  matchId : Uuid
  zoneId : Option Uuid
  gate : Option String
  deviceId : String
  scannedById : Uuid
  result : ScanResult
  reason : Option String := none
  source : ScanSource
  scannedAt : Time
  syncedAt : Option Time := none
  deriving DecidableEq, Repr

/-! ## Unique constraints -/

section Keys

/-- A table whose only unique column is `c`. -/
abbrev Keyed.by {ρ κ : Type} [DecidableEq κ] (c : ρ → κ) : Keyed ρ where
  Key := κ
  key := c
  Clash := (· = ·)
  symm _ _ := Eq.symm
  decide := inferInstance

/-- A table in which each of two columns is unique. -/
abbrev Keyed.byEither {ρ κ κ' : Type} [DecidableEq κ] [DecidableEq κ'] (c : ρ → κ) (c' : ρ → κ') :
    Keyed ρ where
  Key := κ × κ'
  key r := (c r, c' r)
  Clash a b := a.1 = b.1 ∨ a.2 = b.2
  symm _ _ := Or.imp Eq.symm Eq.symm
  decide _ _ := inferInstance

instance : Keyed Media := Keyed.by (·.id)
instance : Keyed RequesterProfile := Keyed.by (·.id)
instance : Keyed Match := Keyed.by (·.id)
instance : Keyed AccreditationCategory := Keyed.by (·.id)
instance : Keyed Zone := Keyed.by (·.id)
instance : Keyed MatchCategoryQuota := Keyed.byEither (·.id) fun q => (q.matchId, q.categoryId)
instance : Keyed MatchCategoryQuotaZone := Keyed.by fun z => (z.quotaId, z.zoneId)
instance : Keyed AccreditationRequest := Keyed.byEither (·.id) (·.uniqueReference)
instance : Keyed RequestComplement := Keyed.by (·.id)
instance : Keyed AccreditationZone := Keyed.by fun z => (z.accreditationId, z.zoneId)

/-- Id, request, number and token hash are each unique. -/
instance : Keyed Accreditation where
  Key := Uuid × Uuid × String × String
  key a := (a.id, a.requestId, a.number, a.qrTokenHash)
  Clash a b := a.1 = b.1 ∨ a.2.1 = b.2.1 ∨ a.2.2.1 = b.2.2.1 ∨ a.2.2.2 = b.2.2.2
  symm _ _ := Or.imp Eq.symm (Or.imp Eq.symm (Or.imp Eq.symm Eq.symm))
  decide _ _ := inferInstance

end Keys

/-! ## Data of the statements -/

/-- `undefined` leaves a column alone; a new row takes the column's default. -/
structure Logistics where
  roleInEvent : Option RoleInEvent := none
  needsDesk : Option Bool := none
  needsPower : Option Bool := none
  needsLanWifi : Option Bool := none
  carPlateNumber : Option String := none
  preferredZoneIds : Option (List Uuid) := none
  deriving DecidableEq, Repr

def Logistics.apply (l : Logistics) (r : AccreditationRequest) : AccreditationRequest :=
  { r with
    roleInEvent := l.roleInEvent.or r.roleInEvent
    needsDesk := l.needsDesk.getD r.needsDesk
    needsPower := l.needsPower.getD r.needsPower
    needsLanWifi := l.needsLanWifi.getD r.needsLanWifi
    carPlateNumber := l.carPlateNumber.or r.carPlateNumber
    preferredZoneIds := l.preferredZoneIds.getD r.preferredZoneIds }

/-- The further columns of a status update; an absent one is left alone. -/
structure RequestData where
  submittedAt : Option Time := none
  duplicateOfId : Option Uuid := none
  decisionAt : Option Time := none
  decisionById : Option Uuid := none
  decisionReason : Option String := none
  deriving DecidableEq, Repr

/-- Actor and reason of the decision row written with a status. -/
structure Journal where
  actorId : Uuid
  reason : Option String := none
  deriving DecidableEq, Repr

/-- A transaction that writes the status of a request. `seen` is the status the
use case acted on, which the decision row records as `fromStatus`. -/
structure StatusWrite where
  requestId : Uuid
  seen : RequestStatus
  target : RequestStatus
  data : RequestData := {}
  journal : Option Journal := none
  complement : Option RequestComplement := none
  deriving DecidableEq, Repr

def StatusWrite.apply (w : StatusWrite) (r : AccreditationRequest) : AccreditationRequest :=
  { r with
    status := w.target
    submittedAt := w.data.submittedAt.or r.submittedAt
    duplicateOfId := w.data.duplicateOfId.or r.duplicateOfId
    decisionAt := w.data.decisionAt.or r.decisionAt
    decisionById := w.data.decisionById.or r.decisionById
    decisionReason := w.data.decisionReason.or r.decisionReason }

def StatusWrite.decisions (w : StatusWrite) : List RequestDecision :=
  w.journal.toList.map fun j => ⟨w.requestId, j.actorId, w.seen, w.target, j.reason⟩

structure SetQuotaDto where
  categoryId : Uuid
  quotaTotal : Nat
  overflowPolicy : Option OverflowPolicy := none
  zoneIds : List Uuid
  deriving DecidableEq, Repr

/-- `none` is `undefined` and leaves the column alone; `some none` is `null`. -/
structure AssignmentInput where
  assignedBoothNumber : Option (Option Int) := none
  assignedFlashSlot : Option (Option String) := none
  deriving DecidableEq, Repr

structure UpdateMatchDto where
  competitionId : Option Uuid := none
  homeTeam : Option String := none
  awayTeam : Option String := none
  kickoffAt : Option Time := none
  timezone : Option String := none
  stadium : Option String := none
  city : Option String := none
  status : Option MatchStatus := none
  capacityTotal : Option Nat := none
  pressTribuneCapacity : Option Nat := none
  requestsOpenAt : Option Time := none
  requestsCloseAt : Option Time := none
  rulesNotes : Option String := none
  deriving DecidableEq, Repr

def UpdateMatchDto.apply (dto : UpdateMatchDto) (m : Match) : Match :=
  { m with
    competitionId := dto.competitionId.getD m.competitionId
    homeTeam := dto.homeTeam.getD m.homeTeam
    awayTeam := dto.awayTeam.getD m.awayTeam
    kickoffAt := dto.kickoffAt.getD m.kickoffAt
    timezone := dto.timezone.getD m.timezone
    stadium := dto.stadium.getD m.stadium
    city := dto.city.getD m.city
    status := dto.status.getD m.status
    capacityTotal := dto.capacityTotal.or m.capacityTotal
    pressTribuneCapacity := dto.pressTribuneCapacity.or m.pressTribuneCapacity
    requestsOpenAt := dto.requestsOpenAt.or m.requestsOpenAt
    requestsCloseAt := dto.requestsCloseAt.or m.requestsCloseAt
    rulesNotes := dto.rulesNotes.or m.rulesNotes }

end AccreditationBackend
