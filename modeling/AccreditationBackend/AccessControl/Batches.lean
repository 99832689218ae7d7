import AccreditationBackend.AccessControl.Sync

/-! Offline scans of which some name what does not exist.

Each record is inserted by a statement of its own. The first one that a foreign
key refuses ends the call: what came before it stays in the log, and a
repetition gets no further than that record again.
-/

set_option autoImplicit false

namespace AccreditationBackend

open Foundation

theorem refers_iff {scan : OfflineScanRecordDto} {t : Tables} {agent : Uuid} :
    scan.Refers t agent ↔ scan.accreditationId ∈ t.accreditations.column (·.id) ∧
      scan.matchId ∈ t.matchRows.column (·.id) ∧
      (∀ zoneId ∈ scan.zoneId.toList, zoneId ∈ t.zones.column (·.id)) ∧ agent ∈ t.users := by
  simp only [Option.mem_toList]
  constructor
  · exact fun refers => ⟨refers.accreditation, refers.matchRow, refers.zone, refers.agent⟩
  · rintro ⟨badge, matchRow, zone, agent⟩
    exact ⟨badge, matchRow, zone, agent⟩

instance (t : Tables) (agent : Uuid) :
    DecidablePred fun scan : OfflineScanRecordDto => scan.Refers t agent :=
  fun _ => decidable_of_iff _ refers_iff.symm

theorem refers_of_logged {scan : OfflineScanRecordDto} {agent : Uuid} {syncedAt : Time}
    {badge : Option Accreditation} {db db' : Database} {reply : ScanLog}
    (logged : handle (.createScanLog (offlineScan scan agent syncedAt badge)) db = .ok (reply, db')) :
    scan.Refers db.toTables agent := by
  have applied := handle_ok logged
  simp only [Tables.apply, bind_ok, require_ok] at applied
  obtain ⟨_, allowed, _⟩ := applied
  exact refers_iff.mpr (by simpa [offlineScan] using allowed)

theorem syncOfflineScans_keys (ambient : Ambient) (agent : Uuid) (scans : List OfflineScanRecordDto)
    (db : Database) (index : Nat) (start : SyncOfflineScansResult) :
    scanKeys ((syncOfflineScans ambient agent index scans start).run handle db).2.scanLogs =
        scanKeys db.scanLogs ++
          admittedUntil (·.key) (·.Refers db.toTables agent) (scanKeys db.scanLogs) scans ∧
      ∀ scan : OfflineScanRecordDto,
        scan.Refers ((syncOfflineScans ambient agent index scans start).run handle db).2.toTables agent ↔
          scan.Refers db.toTables agent := by
  induction scans generalizing db index start with
  | nil => simp [syncOfflineScans, Proc.run, admittedUntil]
  | cons scan rest ih =>
      simp only [syncOfflineScans, Proc.query_bind, Proc.run]
      by_cases existing : db.scanLogs.any (isSameScan scan) = true
      · have known := (any_isSameScan db.scanLogs).mp existing
        rw [if_pos existing, admittedUntil, if_pos known]
        exact ih db (index + 1) _
      · have new := (any_isSameScan db.scanLogs).not.mp existing
        rw [if_neg existing, admittedUntil, if_neg new]
        simp only [Proc.run]
        rw [issue_bind, Proc.run]
        cases logged : handle (.createScanLog (offlineScan scan agent (ambient.clock index)
          (db.accreditationById scan.accreditationId))) db with
        -- The refused record stands where it stood, before all that follows it.
        | error why =>
            have unfit : ¬ scan.Refers db.toTables agent := fun refers => by
              obtain ⟨db', accepted⟩ := handle_refers refers
              cases logged.symm.trans accepted
            rw [if_neg unfit, List.append_nil]
            exact ⟨rfl, fun _ => Iff.rfl⟩
        | ok result =>
            obtain ⟨reply, next⟩ := result
            have kept (other : OfflineScanRecordDto) :
                other.Refers next.toTables agent ↔ other.Refers db.toTables agent := by
              rw [← handle.after_ok logged]
              exact refers_logged
            have grown : scanKeys next.scanLogs = scanKeys db.scanLogs ++ [scan.key] := by
              rw [apply_scans (handle_ok logged), scanKeys_append]
              rfl
            obtain ⟨keys, refers⟩ := ih next (index + 1) { start with inserted := start.inserted + 1 }
            rw [if_pos (refers_of_logged logged)]
            refine ⟨?_, fun other => (refers other).trans (kept other)⟩
            rw [keys, grown, List.append_assoc, List.singleton_append]
            simp only [kept]

section Retries

variable (services : Services)

/-- The database after the calls with the batch, one for each ambient. -/
def attempted (start : Database) (scans : List OfflineScanRecordDto) (agent : Uuid)
    (calls : List Ambient) : Database :=
  runFrom (perform services) start (calls.map (.syncOfflineScans · scans agent))

theorem sync_keys (ambient : Ambient) (scans : List OfflineScanRecordDto) (agent : Uuid)
    (db : Database) :
    scanKeys (perform services db (.syncOfflineScans ambient scans agent)).scanLogs =
        scanKeys db.scanLogs ++
          admittedUntil (·.key) (·.Refers db.toTables agent) (scanKeys db.scanLogs) scans ∧
      ∀ scan : OfflineScanRecordDto,
        scan.Refers (perform services db (.syncOfflineScans ambient scans agent)).toTables agent ↔
          scan.Refers db.toTables agent := by
  have ran := syncOfflineScans_keys ambient agent scans db 0 {}
  simp only [perform, Operation.execute, Proc.run_bind]
  split
  next returned => exact (congrArg Prod.snd returned) ▸ ran
  next thrown => exact (congrArg Prod.snd thrown) ▸ ran

/-- However often the call is repeated, the log has the keys that the first one left. -/
theorem attempted_keys (start : Database) (scans : List OfflineScanRecordDto) (agent : Uuid)
    (first : Ambient) (retries : List Ambient) :
    scanKeys (attempted services start scans agent (first :: retries)).scanLogs =
      scanKeys start.scanLogs ++
        admittedUntil (·.key) (·.Refers start.toTables agent) (scanKeys start.scanLogs) scans := by
  induction retries generalizing first start with
  | nil => exact (sync_keys services first scans agent start).1
  | cons again rest ih =>
      obtain ⟨keys, refers⟩ := sync_keys services first scans agent start
      have later := ih (perform services start (.syncOfflineScans first scans agent)) again
      simp only [refers, keys, admittedUntil_again, List.append_nil] at later
      exact later

/-- No record that names only existing rows and brings a new key comes after a record
that names a missing row and whose key is new as well. -/
def NoneHeldUp (t : Tables) (scans : List OfflineScanRecordDto) (agent : Uuid) : Prop :=
  NoneBehind (·.key) (·.Refers t agent) (scanKeys t.scanLogs) scans

theorem sound_records_logged (start : Database) (scans : List OfflineScanRecordDto) (agent : Uuid)
    (first : Ambient) (retries : List Ambient) :
    (∀ scan ∈ scans, scan.Refers start.toTables agent →
        scan.key ∈ scanKeys (attempted services start scans agent (first :: retries)).scanLogs) ↔
      NoneHeldUp start.toTables scans agent := by
  rw [attempted_keys, NoneHeldUp]
  exact admittedUntil_complete

end Retries

/-- A record with a badge that was never issued. -/
def forgedScan : OfflineScanRecordDto := { entryScan with accreditationId := "forged" }

/-- Behind a record of an unknown badge a good one never reaches the log. -/
theorem sound_record_lost :
    ¬ ∀ (services : Services) (start : Database) (scans : List OfflineScanRecordDto) (agent : Uuid)
        (first : Ambient) (retries : List Ambient), ∀ scan ∈ scans, scan.Refers start.toTables agent →
      scan.key ∈ scanKeys (attempted services start scans agent (first :: retries)).scanLogs := by
  intro claimed
  have logged := claimed sampleServices badgeIssued [forgedScan, entryScan] "agent" {} [{}] entryScan
    (by simp) (by decide)
  revert logged
  decide

end AccreditationBackend
