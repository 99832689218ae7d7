import AccreditationBackend.AccessControl.SingleUse
import AccreditationBackend.AccessControl.Verdicts
import AccreditationBackend.Foundation.Intake

/-! Offline scans taken into the log.

A record is known by its badge, its device and its time. The log is consulted and
extended inside the loop, so it takes in each key once, in whatever batches,
order and repetition the records arrive.
-/

set_option autoImplicit false

namespace AccreditationBackend

open Foundation

abbrev ScanKey := Uuid × String × Time

def OfflineScanRecordDto.key (scan : OfflineScanRecordDto) : ScanKey :=
  (scan.accreditationId, scan.deviceId, scan.scannedAt)

/-- The key of a logged scan; an unknown token has none. -/
def ScanLog.key (l : ScanLog) : Option ScanKey :=
  l.accreditationId.map fun id => (id, l.deviceId, l.scannedAt)

def scanKeys (logs : List ScanLog) : List ScanKey := logs.filterMap (·.key)

/-- The number of rows in the log with the key. -/
def Tables.rowsOf (t : Tables) (key : ScanKey) : Nat := (scanKeys t.scanLogs).count key

/-- What the record refers to exists. -/
structure OfflineScanRecordDto.Refers (scan : OfflineScanRecordDto) (t : Tables) (agent : Uuid) : Prop where
  accreditation : scan.accreditationId ∈ t.accreditations.column (·.id)
  matchRow : scan.matchId ∈ t.matchRows.column (·.id)
  zone : ∀ zoneId ∈ scan.zoneId, zoneId ∈ t.zones.column (·.id)
  agent : agent ∈ t.users

structure SyncCall where
  ambient : Ambient
  scans : List OfflineScanRecordDto
  agent : Uuid

def SyncCall.operation (call : SyncCall) : Operation :=
  .syncOfflineScans call.ambient call.scans call.agent

def SyncCall.keys (call : SyncCall) : List ScanKey := call.scans.map (·.key)

def SyncCall.Refers (call : SyncCall) (t : Tables) : Prop := ∀ scan ∈ call.scans, scan.Refers t call.agent

section Rows

variable {scan : OfflineScanRecordDto} {agent : Uuid} {syncedAt : Time}

@[simp] theorem scanKeys_append (front back : List ScanLog) :
    scanKeys (front ++ back) = scanKeys front ++ scanKeys back :=
  List.filterMap_append

theorem any_isSameScan (logs : List ScanLog) :
    logs.any (isSameScan scan) = true ↔ scan.key ∈ scanKeys logs := by
  simp only [scanKeys, List.any_eq_true, List.mem_filterMap]
  refine exists_congr fun l => and_congr_right fun _ => ?_
  cases badge : l.accreditationId <;>
    simp [isSameScan, ScanLog.key, OfflineScanRecordDto.key, badge, and_assoc]

theorem refers_logged {row : ScanLog} {db : Database} {other : OfflineScanRecordDto} {by_ : Uuid} :
    other.Refers (handle.after (.createScanLog row) db).toTables by_ ↔ other.Refers db.toTables by_ := by
  have reference := reference_kept (.createScanLog row) db
  have badges : (handle.after (.createScanLog row) db).accreditations = db.accreditations := by
    rcases after_cases (.createScanLog row) db with same | ⟨reply, applied⟩
    · rw [same]
    · exact (apply_badges applied rfl).1
  constructor
  · rintro ⟨badge, matchRow, zone, agent⟩
    exact ⟨badges ▸ badge, matchIds_kept _ db ▸ matchRow, reference.zones ▸ zone, reference.users ▸ agent⟩
  · rintro ⟨badge, matchRow, zone, agent⟩
    refine ⟨?_, ?_, ?_, ?_⟩
    · rwa [badges]
    · rwa [matchIds_kept]
    · rwa [reference.zones]
    · rwa [reference.users]

theorem handle_refers {db : Database} {badge : Option Accreditation} (refers : scan.Refers db.toTables agent) :
    ∃ db', handle (.createScanLog (offlineScan scan agent syncedAt badge)) db =
      .ok (offlineScan scan agent syncedAt badge, db') :=
  handle_logged (by simpa [offlineScan] using refers.accreditation) refers.matchRow refers.zone refers.agent

end Rows

/-! ## One call -/

/-- A run of the loop: the rows appended are those of the keys admitted, and the counters tell them. -/
structure Intakes (before after : Database) (scans : List OfflineScanRecordDto)
    (start result : SyncOfflineScansResult) (rows : List ScanLog) : Prop where
  appended : after.scanLogs = before.scanLogs ++ rows
  keys : rows.map (·.key) = (admitted (scanKeys before.scanLogs) (scans.map (·.key))).map some
  inserted : result.inserted = start.inserted + rows.length
  skipped : result.skipped + rows.length = start.skipped + scans.length
  refers : ∀ (scan : OfflineScanRecordDto) agent, scan.Refers before.toTables agent →
    scan.Refers after.toTables agent

theorem syncOfflineScans_run (ambient : Ambient) (agent : Uuid) (scans : List OfflineScanRecordDto)
    (db : Database) (refers : ∀ scan ∈ scans, scan.Refers db.toTables agent) (index : Nat)
    (start : SyncOfflineScansResult) :
    ∃ result db' rows, (syncOfflineScans ambient agent index scans start).run handle db =
      (.ok result, db') ∧
      Intakes db db' scans start result rows := by
  induction scans generalizing db index start with
  | nil => exact ⟨start, db, [], rfl, by simp, by simp [admitted], rfl, rfl, fun _ _ held => held⟩
  | cons scan rest ih =>
      have others : ∀ other ∈ rest, other.Refers db.toTables agent := fun other member =>
        refers other (List.mem_cons_of_mem _ member)
      simp only [syncOfflineScans, Proc.query_bind, Proc.run]
      by_cases existing : db.scanLogs.any (isSameScan scan) = true
      · obtain ⟨result, db', rows, ran, intakes⟩ := ih db others (index + 1)
          { start with skipped := start.skipped + 1 }
        have known := (any_isSameScan db.scanLogs).mp existing
        refine ⟨result, db', rows,
          by rw [if_pos existing, ran], intakes.appended, ?_, intakes.inserted, ?_, intakes.refers⟩
        · rw [intakes.keys, List.map_cons, admitted, if_pos known]
        · have skipped := intakes.skipped
          simp only [List.length_cons] at skipped ⊢
          omega
      -- The row is accepted, and the rest of the loop meets the log with it.
      · have first := refers scan List.mem_cons_self
        rw [if_neg existing]
        simp only [Proc.run]
        generalize shape : offlineScan scan agent (ambient.clock index)
          (db.accreditationById scan.accreditationId) = row
        obtain ⟨next, logged⟩ : ∃ next, handle (.createScanLog row) db = .ok (row, next) :=
          shape ▸ handle_refers first
        have grown : next.scanLogs = db.scanLogs ++ [row] := apply_scans (handle_ok logged)
        have after := handle.after_ok logged
        have kept (other : OfflineScanRecordDto) (by_ : Uuid) (held : other.Refers db.toTables by_) :
            other.Refers next.toTables by_ := after ▸ refers_logged.mpr held
        obtain ⟨result, db', rows, ran, intakes⟩ :=
          ih next (fun other member => kept other agent (others other member))
            (index + 1) { start with inserted := start.inserted + 1 }
        have new := (any_isSameScan db.scanLogs).not.mp existing
        have key : row.key = some scan.key := by rw [← shape]; rfl
        refine ⟨result, db', row :: rows, ?_, ?_, ?_, ?_, ?_,
          fun other by_ held => intakes.refers other by_ (kept other by_ held)⟩
        · rw [issue_bind, Proc.run, logged]
          exact ran
        · rw [intakes.appended, grown, List.append_assoc, List.singleton_append]
        · have seen : scanKeys next.scanLogs = scanKeys db.scanLogs ++ [scan.key] := by
            rw [grown, scanKeys_append]
            simp [scanKeys, key]
          rw [List.map_cons, intakes.keys, List.map_cons, admitted, if_neg new, List.map_cons, key, seen]
        · have inserted := intakes.inserted
          simp only [List.length_cons] at inserted ⊢
          omega
        · have skipped := intakes.skipped
          simp only [List.length_cons] at skipped ⊢
          omega

theorem syncOfflineScans_known (ambient : Ambient) (agent : Uuid)
    (scans : List OfflineScanRecordDto) {db : Database}
    (known : ∀ scan ∈ scans, scan.key ∈ scanKeys db.scanLogs) (index : Nat)
    (start : SyncOfflineScansResult) :
    (syncOfflineScans ambient agent index scans start).run handle db =
      (.ok { start with skipped := start.skipped + scans.length }, db) := by
  induction scans generalizing index start with
  | nil => rfl
  | cons scan rest ih =>
      have existing := (any_isSameScan db.scanLogs).mpr (known scan List.mem_cons_self)
      simp only [syncOfflineScans, Proc.query_bind, Proc.run]
      rw [if_pos existing, ih fun other member => known other (List.mem_cons_of_mem _ member)]
      simp only [List.length_cons, Nat.add_assoc, Nat.add_comm 1]

section Calls

variable (services : Services)

theorem sync_alone {call : SyncCall} {db : Database} (refers : call.Refers db.toTables) :
    ∃ result rows, outcome services db call.operation = .ok (.synced result) ∧
      Intakes db (perform services db call.operation) call.scans {} result rows := by
  obtain ⟨result, db', rows, ran, intakes⟩ :=
    syncOfflineScans_run call.ambient call.agent call.scans db refers 0 {}
  refine ⟨result, rows, ?_, ?_⟩
  · simp only [outcome, SyncCall.operation, Operation.execute, Proc.run_bind, ran]
    rfl
  · simp only [perform, SyncCall.operation, Operation.execute, Proc.run_bind, ran]
    exact intakes

theorem sync_again (ambient : Ambient) (agent : Uuid) {scans : List OfflineScanRecordDto} {db : Database}
    (known : ∀ scan ∈ scans, scan.key ∈ scanKeys db.scanLogs) :
    outcome services db (.syncOfflineScans ambient scans agent) =
        .ok (.synced { inserted := 0, skipped := scans.length }) ∧
      perform services db (.syncOfflineScans ambient scans agent) = db := by
  have ran := syncOfflineScans_known ambient agent scans known 0 {}
  simp only [outcome, perform, Operation.execute, Proc.run_bind, ran, Nat.zero_add]
  exact ⟨rfl, rfl⟩

theorem Intakes.scanKeys {db db' : Database} {scans : List OfflineScanRecordDto}
    {start result : SyncOfflineScansResult} {rows : List ScanLog}
    (intakes : Intakes db db' scans start result rows) :
    scanKeys rows = admitted (scanKeys db.scanLogs) (scans.map (·.key)) := by
  have keys := congrArg (List.filterMap id) intakes.keys
  simpa [AccreditationBackend.scanKeys, List.filterMap_map, Function.comp_def] using keys

/-- The number of records that a sequence of synchronisations reports as inserted. -/
def ingested : Database → List SyncCall → Nat
  | _, [] => 0
  | db, call :: rest =>
      (match outcome services db call.operation with
        | .ok (.synced result) => result.inserted
        | _ => 0) + ingested (perform services db call.operation) rest

def synced (db : Database) (calls : List SyncCall) : Database :=
  runFrom (perform services) db (calls.map (·.operation))

theorem calls_run {calls : List SyncCall} {db : Database}
    (refers : ∀ call ∈ calls, call.Refers db.toTables) :
    scanKeys (synced services db calls).scanLogs =
        scanKeys db.scanLogs ++ admitted (scanKeys db.scanLogs) (calls.flatMap (·.keys)) ∧
      ingested services db calls = (admitted (scanKeys db.scanLogs) (calls.flatMap (·.keys))).length := by
  induction calls generalizing db with
  | nil => simp [synced, ingested, admitted]
  | cons call rest ih =>
      obtain ⟨result, rows, returned, intakes⟩ := sync_alone services (refers call List.mem_cons_self)
      have others : ∀ other ∈ rest, other.Refers (perform services db call.operation).toTables :=
        fun other member scan held =>
          intakes.refers scan other.agent (refers other (List.mem_cons_of_mem _ member) scan held)
      obtain ⟨logged, counted⟩ := ih others
      have keys : scanKeys (perform services db call.operation).scanLogs =
          scanKeys db.scanLogs ++ admitted (scanKeys db.scanLogs) call.keys := by
        rw [intakes.appended, scanKeys_append, intakes.scanKeys]
        rfl
      have length : result.inserted = (admitted (scanKeys db.scanLogs) call.keys).length := by
        have rowKeys := congrArg List.length intakes.keys
        simp only [List.length_map] at rowKeys
        rw [intakes.inserted, rowKeys, Nat.zero_add]
        rfl
      rw [keys] at logged counted
      rw [List.flatMap_cons, admitted_append]
      constructor
      · rw [← List.append_assoc]
        exact logged
      · rw [ingested, returned, List.length_append, counted, ← length]

/-- A synchronisation takes in each absent key once and no other; repeated it does
nothing. However records are batched, ordered or repeated, the log ends with the
same keys, as often, and as many records are reported as inserted. -/
theorem offline_sync (start : Database) :
    (∀ call : SyncCall, call.Refers start.toTables →
      ∃ result rows, outcome services start call.operation = .ok (.synced result) ∧
        result.inserted + result.skipped = call.scans.length ∧
        (perform services start call.operation).scanLogs = start.scanLogs ++ rows ∧
        rows.length = result.inserted ∧
        (∀ l ∈ rows, ∃ key ∈ call.keys, l.key = some key) ∧
        (∀ key, (scanKeys rows).count key = if key ∈ call.keys ∧ start.rowsOf key = 0 then 1 else 0) ∧
        ∀ ambient agent,
          outcome services (perform services start call.operation)
            (.syncOfflineScans ambient call.scans agent) =
              .ok (.synced { inserted := 0, skipped := call.scans.length }) ∧
            perform services (perform services start call.operation)
              (.syncOfflineScans ambient call.scans agent) =
              perform services start call.operation) ∧
      ∀ calls calls' : List SyncCall, (∀ call ∈ calls, call.Refers start.toTables) →
        (∀ call ∈ calls', call.Refers start.toTables) →
        (∀ key, key ∈ calls.flatMap (·.keys) ↔ key ∈ calls'.flatMap (·.keys)) →
        (∀ key, (synced services start calls).rowsOf key = (synced services start calls').rowsOf key) ∧
          ingested services start calls = ingested services start calls' := by
  constructor
  · intro call refers
    obtain ⟨result, rows, returned, intakes⟩ := sync_alone services refers
    have inserted : result.inserted = rows.length := by rw [intakes.inserted, Nat.zero_add]
    have skipped : result.skipped + rows.length = call.scans.length := by
      rw [intakes.skipped, Nat.zero_add]
    refine ⟨result, rows, returned, by omega, intakes.appended, inserted.symm, fun l member => ?_, fun key => ?_,
      fun ambient agent => sync_again services ambient agent fun scan member => ?_⟩
    · have own := List.mem_map_of_mem (f := (·.key)) member
      rw [intakes.keys] at own
      obtain ⟨key, taken, same⟩ := List.mem_map.mp own
      exact ⟨key, (mem_admitted.mp taken).1, same.symm⟩
    · simp only [intakes.scanKeys, count_admitted, Tables.rowsOf, List.count_eq_zero]
      rfl
    · -- A key of the batch is in the log: it was there before, or has been admitted.
      rw [intakes.appended, scanKeys_append, intakes.scanKeys, List.mem_append, mem_admitted]
      by_cases before : scan.key ∈ scanKeys start.scanLogs
      · exact .inl before
      · exact .inr ⟨List.mem_map_of_mem member, before⟩
  · intro calls calls' refers refers' same
    obtain ⟨logged, counted⟩ := calls_run services refers
    obtain ⟨logged', counted'⟩ := calls_run services refers'
    have perm : (admitted (scanKeys start.scanLogs) _).Perm
      (admitted (scanKeys start.scanLogs) _) := admitted_perm same
    refine ⟨fun key => ?_, by rw [counted, counted', perm.length_eq]⟩
    rw [Tables.rowsOf, Tables.rowsOf, logged, logged', List.count_append, List.count_append,
      perm.count_eq]

end Calls

/-- Two scans of the sample's badge that a device brings back. -/
def entryScan : OfflineScanRecordDto :=
  { accreditationId := "badge", matchId := "final", deviceId := "gate", result := .valid, scannedAt := 1 }

def standScan : OfflineScanRecordDto := { entryScan with zoneId := some "stand", scannedAt := 2 }

/-- Both at once, against each in a call of its own with the first repeated. -/
theorem offline_sync_batches :
    ingested sampleServices badgeIssued [⟨{}, [entryScan, standScan], "agent"⟩] =
      ingested sampleServices badgeIssued
        [⟨{}, [standScan], "agent"⟩, ⟨{}, [entryScan, standScan, entryScan], "agent"⟩] := by
  have entry : entryScan.Refers badgeIssued.toTables "agent" :=
    ⟨by decide, by decide, by decide, by decide⟩
  have stand : standScan.Refers badgeIssued.toTables "agent" :=
    ⟨by decide, by decide, by decide, by decide⟩
  refine ((offline_sync sampleServices badgeIssued).2 _ _ ?_ ?_ ?_).2
  · simp [SyncCall.Refers, entry, stand]
  · simp [SyncCall.Refers, entry, stand]
  · simp [SyncCall.keys, or_comm]

end AccreditationBackend
