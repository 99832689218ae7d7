import AccreditationBackend.AccessControl.Scans
import AccreditationBackend.System.Footprint

/-! Verdicts over sequential runs.

The log is the memory of the gates: an online use is judged against it, and no
operation but a scan adds an online row. Revocation is never undone.
-/

set_option autoImplicit false

namespace AccreditationBackend

open Foundation

/-! ## The log -/

def isOnlineUse (accreditationId : Uuid) (zoneId : Option Uuid) (l : ScanLog) : Bool :=
  isUse accreditationId zoneId l && l.source == .online

/-- No online use of a badge in a zone comes after another use of it there. -/
def UsedOnce (logs : List ScanLog) : Prop :=
  logs.Pairwise fun earlier later => ∀ id zoneId, isOnlineUse id zoneId later = true →
    isUse id zoneId earlier = false

theorem UsedOnce.count_le {logs : List ScanLog} (once : UsedOnce logs) (id : Uuid)
    (zoneId : Option Uuid) :
    logs.countP (isOnlineUse id zoneId) ≤ 1 := by
  induction logs with
  | nil => simp
  | cons l rest ih =>
      obtain ⟨first, others⟩ := List.pairwise_cons.mp once
      have bound := ih others
      by_cases use : isOnlineUse id zoneId l = true
      · -- After a use there is no further online use of the pair.
        have none_ : rest.countP (isOnlineUse id zoneId) = 0 := by
          rw [List.countP_eq_zero]
          intro later member again
          have unused := first later member id zoneId again
          simp only [isOnlineUse, Bool.and_eq_true] at use
          rw [use.1] at unused
          cases unused
        rw [List.countP_cons_of_pos use, none_]
      · rw [List.countP_cons_of_neg use]
        exact bound

theorem UsedOnce.append {logs : List ScanLog} {row : ScanLog} (once : UsedOnce logs)
    (vetted : ∀ id zoneId, isOnlineUse id zoneId row = true → logs.countP (isUse id zoneId) = 0) :
    UsedOnce (logs ++ [row]) := by
  refine List.pairwise_append.mpr
    ⟨once, List.pairwise_singleton _ _, fun earlier member later last id zoneId use => ?_⟩
  obtain rfl := List.mem_singleton.mp last
  simpa using List.countP_eq_zero.mp (vetted id zoneId use) earlier member

/-- What the statement logs is no online scan. -/
def Offline (stmt : Statement) : Prop := ∀ row ∈ stmt.scans, row.source = .offlineSynced

theorem usedOnce_offline {stmt : Statement} {db : Database} (offline : Offline stmt)
    (once : UsedOnce db.scanLogs) :
    UsedOnce (handle.after stmt db).scanLogs := by
  rcases scans_step stmt db with appended | same
  · rw [appended]
    cases stmt
    case createScanLog row =>
      have source : row.source = .offlineSynced := offline row (List.mem_singleton_self row)
      refine once.append fun id zoneId use => ?_
      simp [isOnlineUse, source] at use
    all_goals simpa only [Statement.scans, List.append_nil] using once
  · rw [same]
    exact once

section Runs

variable (services : Services)

theorem footprint_offline {op : Operation}
    (other : ∀ ambient dto agent, op ≠ .verifyScan ambient dto agent) {stmt : Statement}
    (footprint : op.Footprint services stmt) :
    Offline stmt := by
  unfold Offline
  cases op <;>
    simp only [Operation.Footprint, WritesTo, GrantsBadge, Publishes, LogsScan] at footprint <;>
    grind [Statement.scans]

theorem perform_usedOnce {db : Database} (op : Operation) (once : UsedOnce db.scanLogs) :
    UsedOnce (perform services db op).scanLogs := by
  by_cases scan : ∃ ambient dto agent, op = .verifyScan ambient dto agent
  -- Only a scan logs online rows, and it counted the earlier uses of the pair itself.
  · obtain ⟨ambient, dto, agent, rfl⟩ := scan
    obtain ⟨joined, verdict, judged, logs⟩ := scan_alone services ambient dto agent db
    cases replied : handle (.createScanLog (scanRow services ambient dto agent joined verdict)) db with
    | error why =>
        rw [perform, logs.refused why replied]
        exact once
    | ok result =>
        rw [perform, logs.logged result.1 result.2 replied, apply_scans (handle_ok replied)]
        refine once.append fun id zoneId use => ?_
        cases joined with
        | none => simp [isOnlineUse, isUse, scanRow, onlineScan] at use
        | some detail =>
            simp only [isOnlineUse, isUse, scanRow, onlineScan, Bool.and_eq_true, beq_iff_eq,
              Option.some.injEq] at use
            obtain ⟨⟨⟨rfl, rfl⟩, valid⟩, _⟩ := use
            obtain ⟨_, same, _, unused⟩ := judged.fit valid
            cases same
            exact unused
  · refine perform_keeps services (J := fun db => UsedOnce db.scanLogs) (fun stmt s member => ?_) once
    have offline : Offline stmt :=
      footprint_offline services (fun ambient dto agent same => scan ⟨_, _, _, same⟩)
        (events_footprint services db op _ member)
    exact usedOnce_offline offline

theorem run_usedOnce (start : Database) (ops : List Operation) (empty : start.scanLogs = []) :
    UsedOnce (runFrom (perform services) start ops).scanLogs :=
  runFrom_invariant (I := fun db : Database => UsedOnce db.scanLogs)
    (fun _ op once _ => perform_usedOnce services op once)
    (by rw [empty]; exact List.Pairwise.nil)
    (along_of_forall (P := fun _ => True) (fun _ _ => trivial) start)

/-! ## Calls that name what exists -/

/-- The match, the zone and the agent of a scan exist. -/
structure Named (t : Tables) (dto : VerifyScanDto) (agent : Uuid) : Prop where
  matchRow : dto.matchId ∈ t.matchRows.column (·.id)
  zone : ∀ zoneId ∈ dto.zoneId, zoneId ∈ t.zones.column (·.id)
  agent : agent ∈ t.users

theorem Named.later {start : Database} {dto : VerifyScanDto} {agent : Uuid}
    (named : Named start.toTables dto agent) (ops : List Operation) :
    Named (runFrom (perform services) start ops).toTables dto agent := by
  refine run_relates services (R := fun s t : Database => Named s.toTables dto agent →
    Named t.toTables dto agent)
    (fun _ held => held) (fun _ _ _ first second held => second (first held))
    (fun stmt db named => ?_) start ops named
  have reference := reference_kept stmt db
  refine ⟨?_, ?_, ?_⟩
  · rw [matchIds_kept]
    exact named.matchRow
  · rw [reference.zones]
    exact named.zone
  · rw [reference.users]
    exact named.agent

theorem handle_logged {row : ScanLog} {db : Database}
    (badge : ∀ id ∈ row.accreditationId, id ∈ db.accreditations.column (·.id))
    (matchRow : row.matchId ∈ db.matchRows.column (·.id))
    (zone : ∀ id ∈ row.zoneId, id ∈ db.zones.column (·.id))
    (agent : row.scannedById ∈ db.users) : ∃ db', handle (.createScanLog row) db = .ok (row, db') := by
  have allowed : (∀ id ∈ row.accreditationId.toList, id ∈ db.accreditations.column (·.id)) ∧
      row.matchId ∈ db.matchRows.column (·.id) ∧ (∀ id ∈ row.zoneId.toList, id ∈ db.zones.column (·.id)) ∧
      row.scannedById ∈ db.users := by
    simpa using ⟨badge, matchRow, zone, agent⟩
  exact ⟨_, handle_replies rfl (by rw [Tables.apply, require, if_pos allowed]; rfl)⟩

theorem scan_logged (ambient : Ambient) (dto : VerifyScanDto) (agent : Uuid) {db : Database}
    (named : Named db.toTables dto agent) :
    ∃ joined verdict, Judged services db (ambient.clock 0) dto joined verdict ∧
      outcome services db (.verifyScan ambient dto agent) = .ok (.verdict (shownVerdict joined verdict)) ∧
      (perform services db (.verifyScan ambient dto agent)).scanLogs =
        db.scanLogs ++ [scanRow services ambient dto agent joined verdict] := by
  obtain ⟨joined, verdict, judged, logs⟩ := scan_alone services ambient dto agent db
  have row : ∃ db', handle (.createScanLog (scanRow services ambient dto agent joined verdict)) db =
      .ok (scanRow services ambient dto agent joined verdict, db') := by
    cases joined with
    | none => exact handle_logged (by simp [scanRow, onlineScan]) named.matchRow named.zone named.agent
    | some detail =>
        refine handle_logged ?_ named.matchRow named.zone named.agent
        simp only [scanRow, onlineScan, Option.mem_def, Option.some.injEq, forall_eq']
        exact List.mem_map_of_mem (Table.find_some_mem (byHash_iff.mp judged.matched.badge).1).1
  obtain ⟨db', replied⟩ := row
  refine ⟨joined, verdict, judged, ?_, ?_⟩
  · rw [outcome, logs.logged _ db' replied]
  · rw [perform, logs.logged _ db' replied, apply_scans (handle_ok replied)]
    rfl

/-! ## Revocation -/

theorem revoke_marks (ambient : Ambient) (id : Uuid) (reason : String) (by_ : Uuid) (db : Database)
    (returned : (outcome services db (.revoke ambient id reason by_)).isOk = true) :
    ∃ a, (perform services db (.revoke ambient id reason by_)).accreditationById id = some a ∧
      a.status = .revoked := by
  have marked : ((Operation.revoke ambient id reason by_).execute services).Leads handle (fun _ => True)
      (fun r t => ∀ reply, r = .ok reply →
        ∃ a, t.accreditationById id = some a ∧ a.status = .revoked) db := by
    simp only [Operation.execute, revoke, Proc.query_bind]
    rw [Proc.leads_bind, Proc.leads_read]
    cases found : db.accreditationById id with
    | none => exact fun _ returned => by cases returned
    | some a =>
        rw [orThrow_some_bind]
        split
        · exact fun _ returned => by cases returned
        · refine Proc.leads_exec handle _ _ _ _ _ trivial (fun updated t replied => ?_)
            fun _ _ _ returned => by cases returned
          have applied := handle_ok replied
          simp only [Tables.apply, bind_ok, orFail_ok, pure_ok, Prod.mk.injEq] at applied
          obtain ⟨_, _, _, same⟩ := applied
          have revoked : ∃ b, t.accreditationById id = some b ∧ b.status = .revoked := by
            rw [← same]
            unfold Tables.accreditationById at found ⊢
            rw [Table.find_update _ _ _ (markRevoked_key (ambient.clock 0) by_ reason) _ fun _ => rfl, found]
            exact ⟨_, rfl, by simp [beq_iff_eq.mp (Table.find_some_mem found).2, markRevoked]⟩
          obtain ⟨b, foundB, revokedB⟩ := revoked
          refine Proc.leads_exec handle _ _ _ _ _ trivial (fun _ t' published => ?_)
            fun _ _ _ returned => by cases returned
          intro _ _
          obtain ⟨c, foundC, sameC⟩ := (endures_step (.publish _) t).badge id b foundB
          rw [handle.after_ok published] at foundC
          exact ⟨c, foundC, sameC.revoked revokedB⟩
  have ended := ((Proc.leads_iff handle _ _ _ db).mp marked).2
  cases result : outcome services db (.revoke ambient id reason by_) with
  | ok reply => exact ended reply result
  | error why =>
      rw [result] at returned
      cases returned

/-- No later operation of the run gives the badge back. -/
theorem revocation_lasts (start : Database) {ops before after : List Operation} {ambient : Ambient}
    {id by_ : Uuid} {reason : String} (split : ops = before ++ .revoke ambient id reason by_ :: after)
    (returned : (outcome services (runFrom (perform services) start before)
      (.revoke ambient id reason by_)).isOk = true) :
    ∃ a, (runFrom (perform services) start ops).accreditationById id = some a ∧ a.status = .revoked := by
  obtain ⟨a, found, revoked⟩ := revoke_marks services ambient id reason by_ _ returned
  have later := run_endures services
    (perform services (runFrom (perform services) start before) (.revoke ambient id reason by_)) after
  rw [← runFrom_cons, ← runFrom_append, ← split] at later
  obtain ⟨b, foundB, same⟩ := later.badge id a found
  exact ⟨b, foundB, same.revoked revoked⟩

/-- A revoked badge is turned away, and revoked no second time. -/
structure Revoked (start db : Database) (id : Uuid) : Prop where
  turned : ∃ a, db.accreditationById id = some a ∧ ∀ ambient dto agent, Named start.toTables dto agent →
    services.hash dto.token = a.qrTokenHash →
      ∃ verdict, outcome services db (.verifyScan ambient dto agent) = .ok (.verdict verdict) ∧
        verdict.result = .revoked
  again : ∀ ambient reason by_,
    outcome services db (.revoke ambient id reason by_) = .error (.domain accreditationAlreadyRevoked) ∧
      perform services db (.revoke ambient id reason by_) = db

theorem revoked_of_status (start : Database) (ops : List Operation) {id : Uuid} {a : Accreditation}
    (found : (runFrom (perform services) start ops).accreditationById id = some a)
    (revoked : a.status = .revoked) :
    Revoked services start (runFrom (perform services) start ops) id where
  turned := by
    refine ⟨a, found, fun ambient dto agent named token => ?_⟩
    obtain ⟨joined, verdict, judged, returned, _⟩ :=
      scan_logged services ambient dto agent (named.later services ops)
    have named_ := beq_iff_eq.mp (Table.find_some_mem found).2
    have byHash :
        (runFrom (perform services) start ops).accreditationByHash (services.hash dto.token) = some a :=
      byHash_iff.mpr ⟨by rw [named_]; exact found, token.symm⟩
    exact ⟨_, returned, judged.revoked byHash revoked⟩
  again ambient reason by_ := by
    simp only [outcome, perform, Operation.execute, revoke, Proc.query_bind, Proc.run_bind,
      Proc.run, found, orThrow_some_bind, revoked, if_true]
    exact ⟨rfl, rfl⟩

/-! ## All verdicts of a run -/

/-- What holds of the scans in a state that a run has reached. -/
structure ScanLaws (start db : Database) : Prop where
  logged : ∀ ambient dto agent, Named start.toTables dto agent → ∃ verdict row,
    outcome services db (.verifyScan ambient dto agent) = .ok (.verdict verdict) ∧
      (perform services db (.verifyScan ambient dto agent)).scanLogs = db.scanLogs ++ [row] ∧
      row.source = .online ∧ row.result = verdict.result
  once : ∀ id zoneId, db.scanLogs.countP (isOnlineUse id zoneId) ≤ 1
  ordered : UsedOnce db.scanLogs
  granted : ∀ ambient dto agent verdict, outcome services db (.verifyScan ambient dto agent) =
    .ok (.verdict verdict) →
    verdict.result = .valid → ∃ a r, db.accreditationByHash (services.hash dto.token) = some a ∧
      db.requestById a.requestId = some r ∧ r.matchId = dto.matchId ∧
      (∀ zoneId ∈ dto.zoneId, zoneId ∈ db.zoneIdsOf a.id) ∧ ambient.clock 0 ≤ a.expiresAt

theorem returned_valid {ambient : Ambient} {dto : VerifyScanDto} {agent : Uuid} {db : Database}
    {verdict : ScanVerdict}
    (returned : outcome services db (.verifyScan ambient dto agent) = .ok (.verdict verdict))
    (valid : verdict.result = .valid) :
    ∃ detail, Matched services db dto.token detail ∧
      (evaluate (ambient.clock 0) detail dto).result = .valid := by
  obtain ⟨joined, judgement, judged, shown, _⟩ := scan_returned services ambient dto agent returned
  cases shown
  obtain ⟨detail, rfl, fit, _⟩ := judged.fit valid
  exact ⟨detail, judged.matched, fit⟩

theorem run_laws (start : Database) (ops : List Operation) (empty : start.scanLogs = []) :
    ScanLaws services start (runFrom (perform services) start ops) where
  logged ambient dto agent named := by
    obtain ⟨joined, verdict, judged, returned, appended⟩ :=
      scan_logged services ambient dto agent (named.later services ops)
    refine ⟨_, _, returned, appended, ?_, ?_⟩
    · cases joined <;> rfl
    · cases joined <;> rfl
  once := (run_usedOnce services start ops empty).count_le
  ordered := run_usedOnce services start ops empty
  granted ambient dto agent verdict returned valid := by
    obtain ⟨detail, matched, fit⟩ := returned_valid services returned valid
    obtain ⟨_, unexpired, ownMatch, zones⟩ := evaluate_valid.mp fit
    refine ⟨detail.accreditation, detail.request.request, matched.badge, matched.request, ownMatch,
      ?_, unexpired⟩
    rw [← matched.zones]
    exact zones

/-- Over every run that starts with an empty log, each scan is logged with its
verdict, no pair is used online a second time, VALID is given for what the badge
grants, and a revoked badge stays revoked. -/
theorem scan_verdicts (start : Database) (ops : List Operation) (empty : start.scanLogs = []) :
    ScanLaws services start (runFrom (perform services) start ops) ∧
      ∀ before ambient id reason by_ after, ops = before ++ .revoke ambient id reason by_ :: after →
        (outcome services (runFrom (perform services) start before) (.revoke ambient id reason by_)).isOk = true →
        Revoked services start (runFrom (perform services) start ops) id := by
  refine ⟨run_laws services start ops empty, fun before ambient id reason by_ after split returned => ?_⟩
  obtain ⟨a, found, revoked⟩ := revocation_lasts services start split returned
  exact revoked_of_status services start ops found revoked

end Runs

/-- A badge of the sample, issued and used once. -/
def issuedAndUsed : List Operation :=
  [.saveDraft { freshId := "dossier" } ⟨"reporter", "final", "press", {}⟩,
    .generateAccreditation { freshId := "badge", rawToken := "token" } "dossier" ["stand"] {},
    .verifyScan {} { token := "token", matchId := "final", zoneId := some "stand" } "agent"]

def issuedAndRevoked : List Operation := issuedAndUsed ++ [.revoke {} "badge" "perte" "agent"]

theorem scan_verdicts_revoked :
    Revoked sampleServices (sampleDatabase 1)
      (runFrom (perform sampleServices) (sampleDatabase 1) issuedAndRevoked)
      "badge" :=
  (scan_verdicts sampleServices (sampleDatabase 1) issuedAndRevoked rfl).2 issuedAndUsed
  {} "badge" "perte" "agent" []
    rfl (by decide)

end AccreditationBackend
