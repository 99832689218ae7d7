import AccreditationBackend.Foundation.Procedure
import AccreditationBackend.Store.Database

/-! The statements that write the database, each atomic.

A statement stands for one Prisma call or one `$transaction`. It is refused as
a whole when a record is missing or a constraint fails.
-/

set_option autoImplicit false

namespace AccreditationBackend

open Foundation (Table Interface Handler Proc)

inductive Statement where
  | publish (event : DomainEvent)
  | createRequest (row : AccreditationRequest)
  | editDraft (id categoryId : Uuid) (logistics : Logistics)
  | writeStatus (write : StatusWrite)
  | resolveComplement (id : Uuid) (resolvedAt : Time)
  | setQuota (freshId matchId : Uuid) (dto : SetQuotaDto)
  | reserve (quotaId : Uuid) (limit : Nat)
  | release (quotaId : Uuid)
  | createAccreditation (row : Accreditation) (zoneIds : List Uuid)
  | updateAssignments (id : Uuid) (input : AssignmentInput)
  | revoke (id : Uuid) (revokedAt : Time) (revokedById : Uuid) (reason : String)
  | updateMatch (id : Uuid) (dto : UpdateMatchDto)
  | countUses (accreditationId : Uuid) (zoneId : Option Uuid)
  | createScanLog (row : ScanLog)

abbrev Statement.Reply : Statement → Type
  | .publish _ => Unit
  | .createRequest _ => AccreditationRequest
  | .editDraft .. => AccreditationRequest
  | .writeStatus _ => AccreditationRequest
  | .resolveComplement .. => RequestComplement
  | .setQuota .. => MatchCategoryQuota
  | .reserve .. => Nat
  | .release _ => Unit
  | .createAccreditation .. => Accreditation
  | .updateAssignments .. => Accreditation
  | .revoke .. => Accreditation
  | .updateMatch .. => Match
  | .countUses .. => Nat
  | .createScanLog _ => ScanLog

abbrev store : Interface := ⟨Statement, Statement.Reply⟩

def orFail {A : Type} (found : Option A) (why : Failure) : Except Failure A :=
  match found with
  | some value => .ok value
  | none => .error why

def require (p : Prop) [Decidable p] (why : Failure) : Except Failure Unit :=
  if p then .ok () else .error why

/-! ## Columns written by the statements -/

def redraft (categoryId : Uuid) (logistics : Logistics) (r : AccreditationRequest) :
    AccreditationRequest :=
  logistics.apply { r with categoryRequestedId := categoryId }

def resolve (resolvedAt : Time) (c : RequestComplement) : RequestComplement :=
  { c with resolvedAt := some resolvedAt }

def SetQuotaDto.create (dto : SetQuotaDto) (id matchId : Uuid) : MatchCategoryQuota where
  id := id
  matchId := matchId
  categoryId := dto.categoryId
  quotaTotal := dto.quotaTotal
  overflowPolicy := dto.overflowPolicy.getD .manualArbitration

def SetQuotaDto.update (dto : SetQuotaDto) (q : MatchCategoryQuota) : MatchCategoryQuota :=
  { q with quotaTotal := dto.quotaTotal, overflowPolicy := dto.overflowPolicy.getD q.overflowPolicy }

def consume (q : MatchCategoryQuota) : MatchCategoryQuota := { q with consumed := q.consumed + 1 }

def giveBack (q : MatchCategoryQuota) : MatchCategoryQuota := { q with consumed := q.consumed - 1 }

/-- The `WHERE` clause of the guarded update. -/
def reservable (quotaId : Uuid) (limit : Nat) (q : MatchCategoryQuota) : Bool :=
  q.id == quotaId && decide (q.consumed < limit)

def AssignmentInput.apply (input : AssignmentInput) (a : Accreditation) : Accreditation :=
  { a with
    assignedBoothNumber := input.assignedBoothNumber.getD a.assignedBoothNumber
    assignedFlashSlot := input.assignedFlashSlot.getD a.assignedFlashSlot }

def markRevoked (revokedAt : Time) (revokedById : Uuid) (reason : String) (a : Accreditation) :
    Accreditation :=
  { a with
    status := .revoked
    revokedAt := some revokedAt
    revokedById := some revokedById
    revocationReason := some reason }

/-! None of them touches a unique column. -/

section Keys

open Foundation

theorem redraft_key (categoryId : Uuid) (logistics : Logistics) (r : AccreditationRequest) :
    Keyed.key (redraft categoryId logistics r) = Keyed.key r := rfl

theorem StatusWrite.apply_key (w : StatusWrite) (r : AccreditationRequest) :
    Keyed.key (w.apply r) = Keyed.key r := rfl

theorem resolve_key (resolvedAt : Time) (c : RequestComplement) :
    Keyed.key (resolve resolvedAt c) = Keyed.key c := rfl

theorem SetQuotaDto.update_key (dto : SetQuotaDto) (q : MatchCategoryQuota) :
    Keyed.key (dto.update q) = Keyed.key q := rfl

theorem consume_key (q : MatchCategoryQuota) : Keyed.key (consume q) = Keyed.key q := rfl

theorem giveBack_key (q : MatchCategoryQuota) : Keyed.key (giveBack q) = Keyed.key q := rfl

theorem AssignmentInput.apply_key (input : AssignmentInput) (a : Accreditation) :
    Keyed.key (input.apply a) = Keyed.key a := rfl

theorem markRevoked_key (revokedAt : Time) (revokedById : Uuid) (reason : String) (a : Accreditation) :
    Keyed.key (markRevoked revokedAt revokedById reason a) = Keyed.key a := rfl

theorem UpdateMatchDto.apply_key (dto : UpdateMatchDto) (m : Match) :
    Keyed.key (dto.apply m) = Keyed.key m := rfl

end Keys

/-- The rows counted as earlier uses of a badge in a zone, or at no zone. -/
def isUse (accreditationId : Uuid) (zoneId : Option Uuid) (l : ScanLog) : Bool :=
  l.accreditationId == some accreditationId && l.zoneId == zoneId && l.result == .valid

def Tables.uses (t : Tables) (accreditationId : Uuid) (zoneId : Option Uuid) : Nat :=
  t.scanLogs.countP (isUse accreditationId zoneId)

/-- The complement created in the same transaction as a status, when there is one. -/
def Tables.addComplement (t : Tables) :
    Option RequestComplement → Except Failure (Table RequestComplement)
  | none => .ok t.complements
  | some c => do
      require (c.requestId ∈ t.requests.column (·.id)) .foreignKeyViolation
      orFail (t.complements.insert c) .uniqueViolation

/-- The upsert of `setQuota`, with the row it returns. -/
def Tables.upsertQuota (t : Tables) (freshId matchId : Uuid) (dto : SetQuotaDto) :
    Except Failure (MatchCategoryQuota × Table MatchCategoryQuota) :=
  match t.quotas.find (quotaOf matchId dto.categoryId) with
  | some q =>
      .ok (dto.update q, t.quotas.update (quotaOf matchId dto.categoryId) dto.update dto.update_key)
  | none => do
      require (matchId ∈ t.matchRows.column (·.id) ∧ dto.categoryId ∈ t.categories.column (·.id))
        .foreignKeyViolation
      let quotas ← orFail (t.quotas.insert (dto.create freshId matchId)) .uniqueViolation
      return (dto.create freshId matchId, quotas)

def Tables.apply : (stmt : Statement) → Tables → Except Failure (stmt.Reply × Tables)
  | .publish event, t => .ok ((), { t with events := t.events ++ [event] })
  | .createRequest row, t => do
      require (row.requesterId ∈ t.requesters.column (·.id) ∧ row.matchId ∈ t.matchRows.column (·.id) ∧
        row.categoryRequestedId ∈ t.categories.column (·.id)) .foreignKeyViolation
      let requests ← orFail (t.requests.insert row) .uniqueViolation
      return (row, { t with requests })
  -- The `status: DRAFT` filter was part of the read before; the update names the id alone.
  | .editDraft id categoryId logistics, t => do
      let r ← orFail (t.requests.find (·.id == id)) .recordNotFound
      require (categoryId ∈ t.categories.column (·.id)) .foreignKeyViolation
      return (redraft categoryId logistics r,
        { t with
          requests := t.requests.update (·.id == id) (redraft categoryId logistics)
            (redraft_key categoryId logistics) })
  -- One `$transaction`: the status, and with it the decision row and the complement where there are any.
  | .writeStatus w, t => do
      let r ← orFail (t.requests.find (·.id == w.requestId)) .recordNotFound
      let complements ← t.addComplement w.complement
      return (w.apply r,
        { t with
          requests := t.requests.update (·.id == w.requestId) w.apply w.apply_key
          complements
          decisions := t.decisions ++ w.decisions })
  | .resolveComplement id resolvedAt, t => do
      let c ← orFail (t.complements.find (·.id == id)) .recordNotFound
      return (resolve resolvedAt c,
        { t with complements := t.complements.update (·.id == id) (resolve resolvedAt) (resolve_key resolvedAt) })
  | .setQuota freshId matchId dto, t => do
      -- One `$transaction`: upsert, then the zones are deleted and created anew.
      let (q, quotas) ← t.upsertQuota freshId matchId dto
      require (∀ zoneId ∈ dto.zoneIds, zoneId ∈ t.zones.column (·.id)) .foreignKeyViolation
      let quotaZones ← orFail ((t.quotaZones.delete (·.quotaId == q.id)).insertAll
        (dto.zoneIds.map fun zoneId => ⟨q.id, zoneId⟩)) .uniqueViolation
      return (q, { t with quotas, quotaZones })
  -- `updateMany` never fails: it replies with the number of rows that matched.
  | .reserve quotaId limit, t =>
      .ok (t.quotas.count (reservable quotaId limit),
        { t with quotas := t.quotas.update (reservable quotaId limit) consume consume_key })
  -- The decrement is unguarded; its caller has looked at the counter before.
  | .release quotaId, t => do
      let _ ← orFail (t.quotas.find (·.id == quotaId)) .recordNotFound
      return ((), { t with quotas := t.quotas.update (·.id == quotaId) giveBack giveBack_key })
  | .createAccreditation row zoneIds, t => do
      require (row.requestId ∈ t.requests.column (·.id)) .foreignKeyViolation
      -- The zones are created in the same transaction; a refused zone takes the badge with it.
      let accreditations ← orFail (t.accreditations.insert row) .uniqueViolation
      require (∀ zoneId ∈ zoneIds, zoneId ∈ t.zones.column (·.id)) .foreignKeyViolation
      let accreditationZones ← orFail (t.accreditationZones.insertAll
        (zoneIds.map fun zoneId => ⟨row.id, zoneId⟩)) .uniqueViolation
      return (row, { t with accreditations, accreditationZones })
  | .updateAssignments id input, t => do
      let a ← orFail (t.accreditations.find (·.id == id)) .recordNotFound
      return (input.apply a,
        { t with
          accreditations := t.accreditations.update (·.id == id) input.apply input.apply_key })
  | .revoke id revokedAt revokedById reason, t => do
      let a ← orFail (t.accreditations.find (·.id == id)) .recordNotFound
      return (markRevoked revokedAt revokedById reason a,
        { t with
          accreditations :=
            t.accreditations.update (·.id == id) (markRevoked revokedAt revokedById reason)
              (markRevoked_key revokedAt revokedById reason) })
  | .updateMatch id dto, t => do
      let m ← orFail (t.matchRows.find (·.id == id)) .recordNotFound
      require (∀ competitionId ∈ dto.competitionId.toList, competitionId ∈ t.competitions)
        .foreignKeyViolation
      return (dto.apply m, { t with matchRows := t.matchRows.update (·.id == id) dto.apply dto.apply_key })
  -- A read, made a statement so that an interleaving can tell when the uses were counted.
  | .countUses accreditationId zoneId, t => .ok (t.uses accreditationId zoneId, t)
  | .createScanLog row, t => do
      require ((∀ id ∈ row.accreditationId.toList, id ∈ t.accreditations.column (·.id)) ∧
        row.matchId ∈ t.matchRows.column (·.id) ∧ (∀ id ∈ row.zoneId.toList, id ∈ t.zones.column (·.id)) ∧
        row.scannedById ∈ t.users) .foreignKeyViolation
      return (row, { t with scanLogs := t.scanLogs ++ [row] })

/-! ## Numbers -/

/-- The values of an `INTEGER` column. -/
def fitsInteger (n : Int) : Bool := decide (-2147483648 ≤ n) && decide (n ≤ 2147483647)

/-- The numbers of a client that the statement writes: `@IsInt()` bounds none of them above. -/
def Statement.integers : Statement → List Int
  | .setQuota _ _ dto => [dto.quotaTotal]
  | .createAccreditation row _ => row.assignedBoothNumber.toList
  | .updateAssignments _ input => input.assignedBoothNumber.join.toList
  | .updateMatch _ dto => (dto.capacityTotal.toList ++ dto.pressTribuneCapacity.toList).map Int.ofNat
  | _ => []

def Statement.fits (stmt : Statement) : Bool := stmt.integers.all fitsInteger

@[simp] theorem setQuota_fits (freshId matchId : Uuid) (dto : SetQuotaDto) :
    (Statement.setQuota freshId matchId dto).fits = fitsInteger dto.quotaTotal := by
  simp [Statement.fits, Statement.integers]

@[simp] theorem createAccreditation_fits (row : Accreditation) (zoneIds : List Uuid) :
    (Statement.createAccreditation row zoneIds).fits = row.assignedBoothNumber.all fitsInteger := by
  cases booth : row.assignedBoothNumber <;> simp [Statement.fits, Statement.integers, booth]

end AccreditationBackend
