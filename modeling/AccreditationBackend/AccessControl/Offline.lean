import AccreditationBackend.AccessControl.Scans

/-! The offline contract against the online verdict.

A device decides from the entries it loaded, a gate from the database as it is.
Both ask whether the badge is fit, and an issued badge only becomes unfit by its
revocation.
-/

set_option autoImplicit false

namespace AccreditationBackend

open Foundation

/-- The rule a device applies to an entry that it loaded. -/
def OfflineEntry.accepts (entry : OfflineEntry) (hash : String) (zoneId : Option Uuid)
    (now : Time) : Bool :=
  entry.qrTokenHash == hash && !decide (entry.expiresAt < now) &&
    zoneId.all fun zoneId => entry.zoneIds.contains zoneId

/-- What a device lets in that loaded the export of the match from `t`. -/
def acceptedOffline (services : Services) (t : Tables) (now : Time) (dto : VerifyScanDto) : Bool :=
  (t.exportForOfflineUse dto.matchId).any fun entry => entry.accepts
  (services.hash dto.token) dto.zoneId now

/-- The verdict of a scan before earlier uses are counted. -/
def onlineVerdict (services : Services) (t : Tables) (now : Time) (dto : VerifyScanDto) : ScanVerdict :=
  match t.accreditationByHash (services.hash dto.token) with
  | none => unknownToken
  | some accreditation =>
      match t.accreditationDetail accreditation.id with
      | none => unknownToken
      | some detail => evaluate now detail dto

/-- A scan judges by the online verdict, unless the badge was used before. -/
theorem Judged.online {services : Services} {db : Database} {now : Time} {dto : VerifyScanDto}
    {joined : Option AccreditationDetail} {verdict : ScanVerdict}
    (judged : Judged services db now dto joined verdict) :
    verdict = onlineVerdict services db.toTables now dto ∨
      verdict = alreadyUsed ∧ (onlineVerdict services db.toTables now dto).result = .valid := by
  unfold onlineVerdict
  cases judged with
  | unknown missing => exact .inl (by simp only [missing])
  | refused found joined invalid => exact .inl (by simp only [found, joined])
  | used found joined valid earlier => exact .inr ⟨rfl, by simpa only [found, joined] using valid⟩
  | first found joined valid unused => exact .inl (by simp only [found, joined])

/-- The badge is active, unexpired, for the match and for the zone. -/
structure Fit (t : Tables) (now : Time) (dto : VerifyScanDto) (a : Accreditation) : Prop where
  active : a.status = .active
  unexpired : now ≤ a.expiresAt
  ownMatch : ∃ r, t.requestById a.requestId = some r ∧ r.matchId = dto.matchId
  zones : ∀ zoneId ∈ dto.zoneId, zoneId ∈ t.zoneIdsOf a.id

theorem activeFor_iff {t : Tables} {matchId : Uuid} {a : Accreditation} :
    t.activeFor matchId a = true ↔
      a.status = .active ∧ ∃ r, t.requestById a.requestId = some r ∧ r.matchId = matchId := by
  simp only [Tables.activeFor, Bool.and_eq_true, beq_iff_eq, Option.any_eq_true]

theorem accepts_iff {entry : OfflineEntry} {hash : String} {zoneId : Option Uuid} {now : Time} :
    entry.accepts hash zoneId now = true ↔
      entry.qrTokenHash = hash ∧ now ≤ entry.expiresAt ∧ ∀ id ∈ zoneId, id ∈ entry.zoneIds := by
  have zones : (zoneId.all fun id => entry.zoneIds.contains id) = true ↔
    ∀ id ∈ zoneId, id ∈ entry.zoneIds := by
    cases zoneId <;> simp
  simp only [OfflineEntry.accepts, Bool.and_eq_true, beq_iff_eq, zones, Bool.not_eq_true',
    decide_eq_false_iff_not, Int.not_lt, and_assoc]

section Verdicts

variable {services : Services} {now : Time} {dto : VerifyScanDto}

theorem acceptedOffline_iff {t : Tables} :
    acceptedOffline services t now dto = true ↔
      ∃ a, t.accreditationByHash (services.hash dto.token) = some a ∧ Fit t now dto a := by
  unfold acceptedOffline Tables.exportForOfflineUse Tables.accreditationByHash
  simp only [List.any_eq_true, List.mem_map, List.mem_filter, activeFor_iff, accepts_iff,
    Table.find_some_iff (selects_tokenHash _), beq_iff_eq]
  constructor
  · rintro ⟨_, ⟨a, ⟨stored, active, ownMatch⟩, rfl⟩, token, unexpired, zones⟩
    exact ⟨a, ⟨stored, token⟩, active, unexpired, ownMatch, zones⟩
  · rintro ⟨a, ⟨stored, token⟩, fit⟩
    exact ⟨_, ⟨a, ⟨stored, fit.active, fit.ownMatch⟩, rfl⟩, token, fit.unexpired, fit.zones⟩

theorem onlineVerdict_iff {db : Database} :
    (onlineVerdict services db.toTables now dto).result = .valid ↔
      ∃ a, db.accreditationByHash (services.hash dto.token) = some a ∧ Fit db.toTables now dto a := by
  unfold onlineVerdict
  cases found : db.accreditationByHash (services.hash dto.token) with
  | none => simp [unknownToken]
  | some a =>
      obtain ⟨detail, joined, rfl, zoneIds, request⟩ :=
        accreditationDetail_found db (byHash_iff.mp found).1
      simp only [joined, evaluate_valid, zoneIds, Option.some.injEq]
      constructor
      · rintro ⟨active, unexpired, ownMatch, zones⟩
        exact ⟨_, rfl, active, unexpired, ⟨_, request, ownMatch⟩, zones⟩
      · rintro ⟨_, rfl, fit⟩
        obtain ⟨r, stored, ownMatch⟩ := fit.ownMatch
        cases stored.symm.trans request
        exact ⟨fit.active, fit.unexpired, ownMatch, fit.zones⟩

/-! ## Between the export and the scan -/

theorem Endures.fit_iff {s t : Database} (endures : Endures s t) {a b : Accreditation}
    (found : s.accreditationById a.id = some a) (same : SameBadge a b) (status : b.status = a.status) :
    Fit s.toTables now dto a ↔ Fit t.toTables now dto b := by
  obtain ⟨r, request⟩ := Table.find_of_column
    (s.referential.accreditation_request (List.mem_map_of_mem (Table.find_some_mem found).1))
  obtain ⟨r', request', matchKept⟩ := endures.request a.requestId r request
  have zonesKept : t.zoneIdsOf b.id = s.zoneIdsOf a.id := by
    rw [same.id]
    exact endures.zones a.id (by simp [found])
  -- The request of the badge was there before, and its match cannot change.
  have matches_ : (∃ r, s.requestById a.requestId = some r ∧ r.matchId = dto.matchId) ↔
      ∃ r, t.requestById b.requestId = some r ∧ r.matchId = dto.matchId := by
    rw [same.requestId, request', show s.requestById a.requestId = some r from request]
    simp [matchKept]
  constructor
  · intro fit
    exact ⟨status.trans fit.active, by rw [same.expiresAt]; exact fit.unexpired, matches_.mp fit.ownMatch,
      by rw [zonesKept]; exact fit.zones⟩
  · intro fit
    exact ⟨status.symm.trans fit.active, by rw [← same.expiresAt]; exact fit.unexpired, matches_.mpr fit.ownMatch,
      by rw [← zonesKept]; exact fit.zones⟩

def GeneratedBetween (s t : Database) (hash : String) : Prop :=
  s.accreditationByHash hash = none ∧ ∃ a, t.accreditationByHash hash = some a

def RevokedBetween (s t : Database) (hash : String) : Prop :=
  ∃ a b, s.accreditationByHash hash = some a ∧ a.status ≠ .revoked ∧
    t.accreditationByHash hash = some b ∧ b.id = a.id ∧ b.status = .revoked

theorem Endures.verdicts {s t : Database} (endures : Endures s t) :
    (acceptedOffline services s.toTables now dto = true ↔
        (onlineVerdict services t.toTables now dto).result = .valid) ∨
      GeneratedBetween s t (services.hash dto.token) ∨ RevokedBetween s t (services.hash dto.token) := by
  rw [acceptedOffline_iff, onlineVerdict_iff]
  cases before : s.accreditationByHash (services.hash dto.token) with
  | none =>
      cases after : t.accreditationByHash (services.hash dto.token) with
      | none => exact .inl (by simp)
      | some b => exact .inr (.inl ⟨before, b, after⟩)
  | some a =>
      obtain ⟨b, after, same⟩ := endures.byHash before
      rw [after]
      simp only [Option.some.injEq, exists_eq_left']
      by_cases kept : b.status = a.status
      · exact .inl (endures.fit_iff (byHash_iff.mp before).1 same kept)
      · -- The only other status a badge can have come to is REVOKED.
        have revoked : b.status = .revoked := same.status.resolve_left kept
        exact .inr (.inr ⟨a, b, before, fun already => kept (revoked.trans already.symm), after, same.id, revoked⟩)

end Verdicts

/-- In the state that it was exported from, the offline list decides like the
online verdict; later only for a token whose badge was generated or revoked since. -/
theorem offline_agrees (services : Services) (start : Database) (ops : List Operation) (now : Time)
    (dto : VerifyScanDto) :
    (acceptedOffline services start.toTables now dto = true ↔
        (onlineVerdict services start.toTables now dto).result = .valid) ∧
      ((acceptedOffline services start.toTables now dto = true ↔
          (onlineVerdict services (runFrom (perform services) start ops).toTables now dto).result = .valid) ∨
        GeneratedBetween start (runFrom (perform services) start ops) (services.hash dto.token) ∨
        RevokedBetween start (runFrom (perform services) start ops) (services.hash dto.token)) :=
  ⟨acceptedOffline_iff.trans onlineVerdict_iff.symm, (run_endures services start ops).verdicts⟩

end AccreditationBackend
