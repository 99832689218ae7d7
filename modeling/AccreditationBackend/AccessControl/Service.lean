import AccreditationBackend.Accreditations.Service

/-! Access control: the verdict of a scan, its log, and the offline contract. -/

set_option autoImplicit false

namespace AccreditationBackend

open Foundation (Proc)

structure VerifyScanDto where
  token : String
  matchId : Uuid
  zoneId : Option Uuid := none
  deviceId : String := ""
  gate : Option String := none
  deriving DecidableEq, Repr

/-- What an agent sees of the holder of a valid badge. -/
structure ScannedAccreditation where
  requesterName : String
  mediaName : String
  categoryLabel : String
  zones : List String
  expiresAt : Time
  deriving DecidableEq, Repr

structure ScanVerdict where
  result : ScanResult
  reason : Option String := none
  accreditation : Option ScannedAccreditation := none
  deriving DecidableEq, Repr

structure AccreditationDetail where
  accreditation : Accreditation
  zoneIds : List Uuid
  zoneLabels : List String
  request : RequestDetail

def Tables.zoneLabelsOf (t : Tables) (accreditationId : Uuid) : List String :=
  (t.zoneIdsOf accreditationId).filterMap fun zoneId => (t.zones.find (·.id == zoneId)).map (·.label)

def Tables.accreditationDetail (t : Tables) (id : Uuid) : Option AccreditationDetail := do
  let accreditation ← t.accreditationById id
  let request ← t.requestDetail accreditation.requestId
  return { accreditation, zoneIds := t.zoneIdsOf id, zoneLabels := t.zoneLabelsOf id, request }

def evaluate (now : Time) (detail : AccreditationDetail) (dto : VerifyScanDto) : ScanVerdict :=
  -- The first check that fails names the verdict; the status of the request is not among them.
  if detail.accreditation.status = .revoked then
    { result := .revoked
      reason := some (detail.accreditation.revocationReason.getD "Accreditation revoquee") }
  else if detail.accreditation.status = .expired ∨ detail.accreditation.expiresAt < now then
    { result := .expired, reason := some "Accreditation expiree" }
  else if detail.request.request.matchId ≠ dto.matchId then
    { result := .outOfScope, reason := some "Cette accreditation ne concerne pas ce match" }
  else if dto.zoneId.any fun zoneId => !detail.zoneIds.contains zoneId then
    { result := .outOfScope, reason := some "Cette accreditation ne couvre pas cette zone" }
  else { result := .valid }

def unknownToken : ScanVerdict := { result := .invalid, reason := some "Jeton inconnu" }

def alreadyUsed : ScanVerdict :=
  { result := .alreadyUsed, reason := some "Cette accreditation a deja ete utilisee pour cette zone" }

/-- The row logged for an online scan. -/
def onlineScan (services : Services) (dto : VerifyScanDto) (scannedById : Uuid) (scannedAt : Time)
    (accreditationId : Option Uuid) (verdict : ScanVerdict) : ScanLog where
  accreditationId := accreditationId
  scannedTokenHash := services.hash dto.token
  matchId := dto.matchId
  zoneId := dto.zoneId
  gate := dto.gate
  deviceId := dto.deviceId
  scannedById := scannedById
  result := verdict.result
  reason := verdict.reason
  source := .online
  scannedAt := scannedAt

def AccreditationDetail.shown (detail : AccreditationDetail) : ScannedAccreditation where
  requesterName := s!"{detail.request.requester.firstName} {detail.request.requester.lastName}"
  mediaName := detail.request.media.name
  categoryLabel := detail.request.categoryRequested.label
  zones := detail.zoneLabels
  expiresAt := detail.accreditation.expiresAt

/-- Earlier use is judged per zone: a badge stays valid in a zone it has not used. -/
def wasAlreadyUsed (accreditationId : Uuid) (zoneId : Option Uuid) : Op Bool := do
  let count : Nat ← issue (.countUses accreditationId zoneId)
  return decide (0 < count)

def judge (now : Time) (detail : AccreditationDetail) (dto : VerifyScanDto) : Op ScanVerdict := do
  let verdict := evaluate now detail dto
  if verdict.result = .valid then
    let used ← wasAlreadyUsed detail.accreditation.id dto.zoneId
    return if used then alreadyUsed else verdict
  else return verdict

def verifyScan (services : Services) (ambient : Ambient) (dto : VerifyScanDto) (scannedById : Uuid) :
    Op ScanVerdict := do
  let found ← findByRawToken services dto.token
  match found with
  | none => do
      let _ ←
        issue (.createScanLog (onlineScan services dto scannedById (ambient.clock 0) none unknownToken))
      return unknownToken
  | some accreditation => do
      let joined ← Proc.query (·.accreditationDetail accreditation.id)
      -- `findUniqueOrThrow`: the row cannot have gone, and its relations are declared.
      match joined with
      | none => .fail .recordNotFound
      | some detail => do
          -- The uses are counted here and the verdict is logged in a later statement.
          let verdict ← judge (ambient.clock 0) detail dto
          let _ ← issue (.createScanLog
            (onlineScan services dto scannedById (ambient.clock 1) (some detail.accreditation.id) verdict))
          return { verdict with
            accreditation := if verdict.result = .valid then some detail.shown else none }

/-! ## Offline contract -/

structure OfflineEntry where
  accreditationId : Uuid
  qrTokenHash : String
  expiresAt : Time
  zoneIds : List Uuid
  deriving DecidableEq, Repr

/-- An active badge whose request is for the match. -/
def Tables.activeFor (t : Tables) (matchId : Uuid) (a : Accreditation) : Bool :=
  a.status == .active && (t.requestById a.requestId).any (·.matchId == matchId)

def Tables.exportForOfflineUse (t : Tables) (matchId : Uuid) : List OfflineEntry :=
  (t.accreditations.rows.filter (t.activeFor matchId)).map fun a =>
    { accreditationId := a.id, qrTokenHash := a.qrTokenHash, expiresAt := a.expiresAt, zoneIds := t.zoneIdsOf a.id }

/-- `scannedAt` comes as an ISO string; the code reads it through `new Date` alone,
as the instant kept here, so two spellings of one instant are one time. -/
structure OfflineScanRecordDto where
  accreditationId : Uuid
  matchId : Uuid
  zoneId : Option Uuid := none
  deviceId : String := ""
  gate : Option String := none
  result : ScanResult
  scannedAt : Time
  deriving DecidableEq, Repr

structure SyncOfflineScansResult where
  inserted : Nat := 0
  skipped : Nat := 0
  deriving DecidableEq, Repr

def isSameScan (scan : OfflineScanRecordDto) (l : ScanLog) : Bool :=
  l.accreditationId == some scan.accreditationId && l.deviceId == scan.deviceId &&
    l.scannedAt == scan.scannedAt

def offlineScan (scan : OfflineScanRecordDto) (scannedById : Uuid) (syncedAt : Time)
    (accreditation : Option Accreditation) : ScanLog where
  accreditationId := some scan.accreditationId
  scannedTokenHash := (accreditation.map (·.qrTokenHash)).getD "unknown"
  matchId := scan.matchId
  zoneId := scan.zoneId
  gate := scan.gate
  deviceId := scan.deviceId
  scannedById := scannedById
  result := scan.result
  source := .offlineSynced
  scannedAt := scan.scannedAt
  syncedAt := some syncedAt

/-- The `index` counts the rounds of the loop, each of which reads the clock. -/
def syncOfflineScans (ambient : Ambient) (scannedById : Uuid) :
    Nat → List OfflineScanRecordDto → SyncOfflineScansResult → Op SyncOfflineScansResult
  | _, [], result => return result
  | index, scan :: rest, result => do
      let existing ← Proc.query fun db => db.scanLogs.any (isSameScan scan)
      -- A record is known by badge, device and time, whatever its zone and verdict.
      if existing then
        syncOfflineScans ambient scannedById (index + 1) rest
          { result with skipped := result.skipped + 1 }
      else do
        let accreditation ← Proc.query (·.accreditationById scan.accreditationId)
        let _ ← issue (.createScanLog (offlineScan scan scannedById (ambient.clock index) accreditation))
        syncOfflineScans ambient scannedById (index + 1) rest
          { result with inserted := result.inserted + 1 }

end AccreditationBackend
