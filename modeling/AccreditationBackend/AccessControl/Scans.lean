import AccreditationBackend.Accreditations.Endurance

/-! One scan that runs alone: what it judges, what it logs and what it returns. -/

set_option autoImplicit false

namespace AccreditationBackend

open Foundation

/-- The verdict of a scan, with the badge that it is about. -/
inductive Judged (services : Services) (db : Database) (now : Time) (dto : VerifyScanDto) :
    Option AccreditationDetail → ScanVerdict → Prop
  | unknown (missing : db.accreditationByHash (services.hash dto.token) = none) :
      Judged services db now dto none unknownToken
  | refused {a : Accreditation} {detail : AccreditationDetail}
      (found : db.accreditationByHash (services.hash dto.token) = some a)
      (joined : db.accreditationDetail a.id = some detail)
      (invalid : (evaluate now detail dto).result ≠ .valid) :
      Judged services db now dto (some detail) (evaluate now detail dto)
  | used {a : Accreditation} {detail : AccreditationDetail}
      (found : db.accreditationByHash (services.hash dto.token) = some a)
      (joined : db.accreditationDetail a.id = some detail)
      (valid : (evaluate now detail dto).result = .valid)
      (earlier : 0 < db.uses detail.accreditation.id dto.zoneId) : Judged services db now dto
      (some detail) alreadyUsed
  | first {a : Accreditation} {detail : AccreditationDetail}
      (found : db.accreditationByHash (services.hash dto.token) = some a)
      (joined : db.accreditationDetail a.id = some detail)
      (valid : (evaluate now detail dto).result = .valid)
      (unused : db.uses detail.accreditation.id dto.zoneId = 0) :
      Judged services db now dto (some detail) (evaluate now detail dto)

/-- The badge of a verdict is the one of the token, with its zones and its request. -/
structure Matched (services : Services) (db : Database) (token : String)
    (detail : AccreditationDetail) : Prop where
  badge : db.accreditationByHash (services.hash token) = some detail.accreditation
  zones : detail.zoneIds = db.zoneIdsOf detail.accreditation.id
  request : db.requestById detail.accreditation.requestId = some detail.request.request

theorem matched_of_joined {services : Services} {db : Database} {token : String} {a : Accreditation}
    {detail : AccreditationDetail} (found : db.accreditationByHash (services.hash token) = some a)
    (joined : db.accreditationDetail a.id = some detail) : Matched services db token detail := by
  obtain ⟨detail', joined', rfl, zones, request⟩ := accreditationDetail_found db (byHash_iff.mp found).1
  cases joined.symm.trans joined'
  exact ⟨found, zones, request⟩

theorem Judged.matched {services : Services} {db : Database} {now : Time} {dto : VerifyScanDto}
    {detail : AccreditationDetail} {verdict : ScanVerdict}
    (judged : Judged services db now dto (some detail) verdict) :
    Matched services db dto.token detail := by
  cases judged with
  | refused found joined invalid => exact matched_of_joined found joined
  | used found joined valid earlier => exact matched_of_joined found joined
  | first found joined valid unused => exact matched_of_joined found joined

theorem Judged.fit {services : Services} {db : Database} {now : Time} {dto : VerifyScanDto}
    {joined : Option AccreditationDetail} {verdict : ScanVerdict}
    (judged : Judged services db now dto joined verdict) (valid : verdict.result = .valid) :
    ∃ detail, joined = some detail ∧ (evaluate now detail dto).result = .valid ∧
      db.uses detail.accreditation.id dto.zoneId = 0 := by
  cases judged with
  | unknown missing => cases valid
  | refused found joined invalid => exact absurd valid invalid
  | used found joined valid' earlier => cases valid
  | @first a detail found joined valid' unused => exact ⟨detail, rfl, valid', unused⟩

theorem evaluate_revoked {detail : AccreditationDetail}
    (revoked : detail.accreditation.status = .revoked) (now : Time) (dto : VerifyScanDto) :
    (evaluate now detail dto).result = .revoked := by
  simp [evaluate, revoked]

theorem Judged.revoked {services : Services} {db : Database} {now : Time} {dto : VerifyScanDto}
    {joined : Option AccreditationDetail} {verdict : ScanVerdict}
    (judged : Judged services db now dto joined verdict)
    {a : Accreditation} (badge : db.accreditationByHash (services.hash dto.token) = some a)
    (revoked : a.status = .revoked) : verdict.result = .revoked := by
  cases joined with
  | none =>
      cases judged with
      | unknown missing => cases badge.symm.trans missing
  | some detail =>
      have same : a = detail.accreditation := Option.some.inj (badge.symm.trans judged.matched.badge)
      have turned := evaluate_revoked (same ▸ revoked) now dto
      cases judged with
      | refused found joined invalid => exact turned
      | used found joined valid earlier => cases turned.symm.trans valid
      | first found joined valid unused => exact turned

theorem evaluate_valid {now : Time} {detail : AccreditationDetail} {dto : VerifyScanDto} :
    (evaluate now detail dto).result = .valid ↔
      detail.accreditation.status = .active ∧ now ≤ detail.accreditation.expiresAt ∧
        detail.request.request.matchId = dto.matchId ∧
        ∀ zoneId ∈ dto.zoneId, zoneId ∈ detail.zoneIds := by
  have zones : (dto.zoneId.any fun zoneId => !detail.zoneIds.contains zoneId) = false ↔
      ∀ zoneId ∈ dto.zoneId, zoneId ∈ detail.zoneIds := by
    cases dto.zoneId <;> simp
  rw [← zones]
  unfold evaluate
  generalize (dto.zoneId.any fun zoneId => !detail.zoneIds.contains zoneId) = outside
  cases status : detail.accreditation.status
  case revoked => simp
  case expired => simp
  case active =>
    by_cases expired : detail.accreditation.expiresAt < now
    · simp [expired, Int.not_le.mpr expired]
    -- An active badge in time: what is left is its match and its zone.
    · have open_ : now ≤ detail.accreditation.expiresAt := Int.not_lt.mp expired
      by_cases other : detail.request.request.matchId = dto.matchId
      · cases outside <;> simp [expired, other, open_]
      · simp [expired, other]

def Reply.isValid : Reply → Bool
  | .verdict shown => shown.result == .valid
  | _ => false

/-- The row that the scan logs, at a later reading of the clock when a badge was looked at. -/
def scanRow (services : Services) (ambient : Ambient) (dto : VerifyScanDto) (scannedById : Uuid) :
    Option AccreditationDetail → ScanVerdict → ScanLog
  | none, verdict => onlineScan services dto scannedById (ambient.clock 0) none verdict
  | some detail, verdict =>
      onlineScan services dto scannedById (ambient.clock 1) (some detail.accreditation.id) verdict

/-- The verdict as the agent sees it. -/
def shownVerdict (joined : Option AccreditationDetail) (verdict : ScanVerdict) : ScanVerdict :=
  { verdict with accreditation := if verdict.result = .valid then joined.map (·.shown) else none }

/-- The count is a statement, but it changes nothing. -/
theorem handle_countUses (id : Uuid) (zoneId : Option Uuid) (db : Database) :
    handle (.countUses id zoneId) db = .ok (db.uses id zoneId, db) :=
  handle_iff.mpr ⟨rfl, rfl⟩

@[simp] theorem wasAlreadyUsed_bind {A : Type} (id : Uuid) (zoneId : Option Uuid) (f : Bool → Op A) :
    (wasAlreadyUsed id zoneId >>= f) =
      .exec (Statement.countUses id zoneId) fun count : Nat => f (decide (0 < count)) := rfl

/-- The value is returned once the row is logged. -/
structure Logs {A : Type} (p : Op A) (db : Database) (row : ScanLog) (value : A) : Prop where
  logged : ∀ reply db', handle (.createScanLog row) db = .ok (reply, db') →
    p.run handle db = (.ok value, db')
  refused : ∀ why, handle (.createScanLog row) db = .error why → p.run handle db = (.error why, db)

theorem Logs.congr {A : Type} {p q : Op A} {db : Database} {row : ScanLog} {value : A}
    (logs : Logs q db row value) (same : p.run handle db = q.run handle db) :
    Logs p db row value where
  logged reply db' replied := same.trans (logs.logged reply db' replied)
  refused why failed := same.trans (logs.refused why failed)

theorem log_alone {A : Type} (row : ScanLog) (value : A) (db : Database) :
    Logs (do let _ ← issue (.createScanLog row); return value : Op A) db row value := by
  have shape : (do let _ ← issue (.createScanLog row); return value : Op A) =
      .exec (Statement.createScanLog row) fun _ => .done value := rfl
  rw [shape]
  constructor
  · intro reply db' replied
    simp only [Proc.run, replied]
  · intro why failed
    simp only [Proc.run, failed]

section Alone

variable (services : Services) (ambient : Ambient) (dto : VerifyScanDto) (scannedById : Uuid)

theorem judge_alone (db : Database) {a : Accreditation} {detail : AccreditationDetail}
    (found : db.accreditationByHash (services.hash dto.token) = some a)
    (joined : db.accreditationDetail a.id = some detail) (now : Time) :
    ∃ verdict, Judged services db now dto (some detail) verdict ∧
      (judge now detail dto).run handle db = (.ok verdict, db) := by
  unfold judge
  dsimp only
  by_cases valid : (evaluate now detail dto).result = .valid
  · rw [if_pos valid]
    by_cases earlier : 0 < db.uses detail.accreditation.id dto.zoneId
    · refine ⟨alreadyUsed, .used found joined valid earlier, ?_⟩
      simp [wasAlreadyUsed_bind, Proc.run, handle_countUses, earlier]
    · refine ⟨evaluate now detail dto, .first found joined valid (by omega), ?_⟩
      simp [wasAlreadyUsed_bind, Proc.run, handle_countUses, earlier]
  · rw [if_neg valid]
    exact ⟨evaluate now detail dto, .refused found joined valid, rfl⟩

theorem verifyScan_alone (db : Database) :
    ∃ joined verdict, Judged services db (ambient.clock 0) dto joined verdict ∧
      Logs (verifyScan services ambient dto scannedById) db
        (scanRow services ambient dto scannedById joined verdict)
        (shownVerdict joined verdict) := by
  cases found : db.accreditationByHash (services.hash dto.token) with
  | none =>
      refine ⟨none, unknownToken, .unknown found, ?_⟩
      have shown : shownVerdict none unknownToken = unknownToken := by simp [shownVerdict, unknownToken]
      rw [shown]
      refine (log_alone _ _ db).congr ?_
      unfold verifyScan findByRawToken
      simp only [Proc.query_bind, Proc.run, found]
      rfl
  | some a =>
      obtain ⟨detail, joined, _⟩ := accreditationDetail_found db (byHash_iff.mp found).1
      obtain ⟨verdict, judged, reached⟩ := judge_alone services dto db found joined (ambient.clock 0)
      refine ⟨some detail, verdict, judged, (log_alone _ _ db).congr ?_⟩
      unfold verifyScan findByRawToken
      simp only [Proc.query_bind, Proc.run, found, joined]
      rw [Proc.run_bind, reached]
      rfl

theorem scan_alone (db : Database) :
    ∃ joined verdict, Judged services db (ambient.clock 0) dto joined verdict ∧
      Logs ((Operation.verifyScan ambient dto scannedById).execute services) db
        (scanRow services ambient dto scannedById joined verdict)
          (.verdict (shownVerdict joined verdict)) := by
  obtain ⟨joined, verdict, judged, logs⟩ := verifyScan_alone services ambient dto scannedById db
  refine ⟨joined, verdict, judged, ?_, ?_⟩
  · intro reply db' replied
    simp only [Operation.execute, Proc.run_bind, logs.logged reply db' replied]
    rfl
  · intro why failed
    simp only [Operation.execute, Proc.run_bind, logs.refused why failed]

theorem scan_returned {db : Database} {reply : Reply}
    (returned : outcome services db (.verifyScan ambient dto scannedById) = .ok reply) :
    ∃ joined verdict, Judged services db (ambient.clock 0) dto joined verdict ∧
      reply = .verdict (shownVerdict joined verdict) ∧
      ∃ row db', handle (.createScanLog (scanRow services ambient dto scannedById joined verdict)) db =
        .ok (row, db') := by
  obtain ⟨joined, verdict, judged, logs⟩ := scan_alone services ambient dto scannedById db
  refine ⟨joined, verdict, judged, ?_⟩
  cases replied : handle (.createScanLog (scanRow services ambient dto scannedById joined verdict)) db with
  | error why =>
      rw [outcome, logs.refused why replied] at returned
      cases returned
  | ok result =>
      rw [outcome, logs.logged result.1 result.2 replied] at returned
      exact ⟨(Except.ok.inj returned).symm, result.1, result.2, rfl⟩

end Alone

end AccreditationBackend
