import AccreditationBackend.Accreditations.Endurance
import AccreditationBackend.Reporting.Exports

/-! The exported reports and the dashboard count the same rows. -/

set_option autoImplicit false

namespace AccreditationBackend

open Foundation

/-! ## Every loader returns -/

namespace ExportsService

section Loaders

variable (db : ReportedDatabase)

theorem detailsWhere_count (w : RequestWhere)
    {order : List AccreditationRequest → List AccreditationRequest}
    (kept : ∀ rows, (order rows).Perm rows) :
    ∃ details, detailsWhere db w order = some details ∧
      details.length = db.requests.count (w.holds db.toTables) := by
  have declared : ∀ r ∈ order (db.requests.rows.filter (w.holds db.toTables)),
      ∃ detail, db.requestDetail r.id = some detail := by
    intro r member
    have stored := (List.mem_filter.mp ((kept _).subset member)).1
    obtain ⟨detail, joined, _⟩ := requestDetail_found db.toDatabase (requestById_stored stored)
    exact ⟨detail, joined⟩
  obtain ⟨details, joined, counted⟩ := joined_all declared
  refine ⟨details, joined, counted.trans ?_⟩
  rw [(kept _).length_eq, Table.count, List.countP_eq_length_filter]

theorem scanDetail_found {l : ScanLog} (stored : l ∈ db.scanLogs) :
    ∃ detail, scanDetail db l = some detail := by
  have sound := db.referential
  obtain ⟨m, matchFound⟩ := Table.find_of_column (sound.scan_match (List.mem_map_of_mem stored))
  obtain ⟨agent, agentFound⟩ :=
    Table.find_of_column (db.known (sound.scan_agent (List.mem_map_of_mem stored)))
  have zone : ∃ zone, optionally (fun id => db.zones.find (·.id == id)) l.zoneId = some zone := by
    cases named : l.zoneId with
    | none => exact ⟨none, rfl⟩
    | some id =>
        obtain ⟨zone, found⟩ :=
          Table.find_of_column (sound.scan_zone (List.mem_filterMap.mpr ⟨l, stored, named⟩))
        exact ⟨some zone, by rw [optionally, found]; rfl⟩
  have badge : ∃ badge, optionally db.accreditationDetail l.accreditationId = some badge := by
    cases named : l.accreditationId with
    | none => exact ⟨none, rfl⟩
    | some id =>
        obtain ⟨a, found⟩ :=
          Table.find_of_column (sound.scan_accreditation (List.mem_filterMap.mpr ⟨l, stored, named⟩))
        obtain ⟨detail, joined, _⟩ := accreditationDetail_found db.toDatabase found
        exact ⟨some detail, by rw [optionally, joined]; rfl⟩
  obtain ⟨zone, zoneFound⟩ := zone
  obtain ⟨badge, badgeFound⟩ := badge
  refine ⟨⟨l, zone, m, agent, badge⟩, ?_⟩
  simp only [scanDetail, zoneFound, matchFound, agentFound, badgeFound, Option.bind_eq_bind,
    Option.bind_some, Option.pure_def]

/-! ## As many rows as selected -/

variable (filter : DashboardFilterDto)

theorem ascending_perm {ρ : Type} (instant : ρ → Option Time) (rows : List ρ) :
    (ascending instant rows).Perm rows :=
  List.mergeSort_perm _ _

theorem descending_perm {ρ : Type} (instant : ρ → Option Time) (rows : List ρ) :
    (descending instant rows).Perm rows :=
  List.mergeSort_perm _ _

/-- The number of rows of a report, where its loader returns. -/
def rowCount (now : Time) (key : ReportKey) : Option Nat :=
  (buildReport db filter now key).map (·.rows.length)

theorem tabulate_rows {ρ : Type} (fields : List (ReportField ρ)) (records : List ρ) :
    (tabulate fields records).rows.length = records.length :=
  List.length_map _

theorem tabulated_count {ρ : Type} (fields : List ρ → List (ReportField ρ))
    {loaded : Option (List ρ)} {n : Nat}
    (counted : ∃ records, loaded = some records ∧ records.length = n) :
    (do
      let records ← loaded
      return tabulate (fields records) records : Option ReportTable).map (·.rows.length) = some n := by
  obtain ⟨records, rfl, rfl⟩ := counted
  simp only [Option.bind_eq_bind, Option.bind_some, Option.pure_def, Option.map_some, tabulate_rows]

theorem requests_count (now : Time) :
    rowCount db filter now .requests =
      some (db.requests.count ((requestFilterWhere filter).holds db.toTables)) :=
  tabulated_count _ (detailsWhere_count db _ (descending_perm _))

theorem rejected_count (now : Time) :
    rowCount db filter now .rejected = some (db.requests.count
      ({ requestFilterWhere filter with statusIn := some [.rejected] }.holds db.toTables)) :=
  tabulated_count _ (detailsWhere_count db _ (descending_perm _))

theorem pending_count (now : Time) :
    rowCount db filter now .pending = some (db.requests.count
      ({ requestFilterWhere filter with statusIn := some DashboardService.pendingStatuses }.holds
        db.toTables)) :=
  tabulated_count _ (detailsWhere_count db _ (ascending_perm _))

theorem accredited_count (now : Time) :
    rowCount db filter now .accredited =
      some (db.accreditations.count ((requestFilterWhere filter).holdsOf db.toTables)) := by
  have declared : ∀ a ∈ descending (fun a : Accreditation => some a.issuedAt)
      (db.accreditations.rows.filter ((requestFilterWhere filter).holdsOf db.toTables)),
      ∃ detail, db.accreditationDetail a.id = some detail := by
    intro a member
    have stored := (List.mem_filter.mp ((descending_perm _ _).subset member)).1
    obtain ⟨detail, joined, _⟩ :=
      accreditationDetail_found db.toDatabase (accreditationById_stored stored)
    exact ⟨detail, joined⟩
  obtain ⟨details, joined, counted⟩ := joined_all declared
  refine tabulated_count (fun _ => accreditedFields) ⟨details, joined, counted.trans ?_⟩
  rw [(descending_perm _ _).length_eq, Table.count, List.countP_eq_length_filter]

theorem scans_count (kind : ScanReport) :
    (loadScans db filter kind).map (·.rows.length) =
      some (db.scanLogs.countP (scanWhere db filter kind)) := by
  have declared : ∀ l ∈ descending (fun l : ScanLog => some l.scannedAt)
      (db.scanLogs.filter (scanWhere db filter kind)), ∃ detail, scanDetail db l = some detail :=
    fun l member => scanDetail_found db (List.mem_filter.mp ((descending_perm _ _).subset member)).1
  obtain ⟨details, joined, counted⟩ := joined_all declared
  refine tabulated_count (fun _ => scanFields) ⟨details, joined, counted.trans ?_⟩
  rw [(descending_perm _ _).length_eq, List.countP_eq_length_filter]

theorem scanWhere_match (kind : ScanReport) (matchId : Uuid) (l : ScanLog) :
    scanWhere db { matchId := some matchId } kind l =
      (kind.includes l.result && l.matchId == matchId) := by
  have plain : (({} : RequestWhere) != {}) = false := rfl
  simp only [scanWhere, plain, Option.all_some, Bool.not_false, Bool.true_or, Bool.and_true]
  rw [Bool.and_comm, Bool.beq_comm]

end Loaders

end ExportsService

/-! ## The classes of the dashboard -/

open DashboardService ExportsService

/-- The classes that the dashboard counts, and the statuses it leaves out. -/
def statusClasses : List (List RequestStatus) :=
  [pendingStatuses, validatedStatuses, [.rejected], [.infoRequested], [.draft, .cancelled]]

theorem statusClasses_one (status : RequestStatus) : statusClasses.countP (·.contains status) = 1 := by
  cases status <;> rfl

theorem holds_in {w : RequestWhere} (plain : w.statusIn = none) (statusIn : List RequestStatus)
    (t : Tables) (r : AccreditationRequest) :
    { w with statusIn := some statusIn }.holds t r = (statusIn.contains r.status && w.holds t r) := by
  simp only [RequestWhere.holds, plain, Option.all_some, Option.all_none, Bool.and_true]
  rw [Bool.and_comm]

theorem classes_total (db : Database) {w : RequestWhere} (plain : w.statusIn = none) :
    (statusClasses.map fun statusIn =>
      db.requests.count ({ w with statusIn := some statusIn }.holds db.toTables)).sum =
      db.requests.count (w.holds db.toTables) := by
  have one : ∀ r ∈ db.requests.rows.filter (w.holds db.toTables),
      (statusClasses.map fun statusIn (r : AccreditationRequest) =>
        statusIn.contains r.status).countP (· r) = 1 := by
    intro r _
    rw [List.countP_map]
    exact statusClasses_one r.status
  have classes := countP_classes one
  rw [List.map_map, ← List.countP_eq_length_filter] at classes
  refine Eq.trans (congrArg List.sum (List.map_congr_left fun statusIn _ => ?_)) classes
  rw [Function.comp_apply, List.countP_filter, Table.count]
  exact List.countP_congr fun r _ => by rw [holds_in plain]

theorem total_split (db : Database) {w : RequestWhere} (plain : w.statusIn = none) :
    let counted (statusIn : List RequestStatus) :=
      db.requests.count ({ w with statusIn := some statusIn }.holds db.toTables)
    db.requests.count (w.holds db.toTables) =
      counted pendingStatuses + counted validatedStatuses + counted [.rejected] + counted
        [.infoRequested] +
        db.requests.count fun r => [.draft, .cancelled].contains r.status && w.holds db.toTables r := by
  have outside : db.requests.count ({ w with statusIn := some [.draft, .cancelled] }.holds db.toTables) =
      db.requests.count fun r => [.draft, .cancelled].contains r.status && w.holds db.toTables r :=
    List.countP_congr fun r _ => by rw [holds_in plain]
  have classes := classes_total db plain
  simp only [statusClasses, List.map_cons, List.map_nil, List.sum_cons, List.sum_nil, outside] at classes
  dsimp only
  omega

/-! ## One match day -/

section MatchDay

variable (now : Time) (db : Database) (matchId : Uuid)

theorem entries_counted :
    (getMatchDayStats now db matchId).entries =
      (db.scanLogs.filter (·.matchId == matchId)).countP (·.result == .valid) :=
  groupCounts_lookup ScanResult.valid

theorem refusals_counted :
    (getMatchDayStats now db matchId).refusals =
      (db.scanLogs.filter (·.matchId == matchId)).countP (·.result != .valid) :=
  groupCounts_sum (c := ScanLog.result) (· != .valid)

theorem scans_split :
    (getMatchDayStats now db matchId).entries + (getMatchDayStats now db matchId).refusals =
      db.scanLogs.countP (·.matchId == matchId) := by
  have split := List.length_eq_countP_add_countP (·.result == .valid)
    (l := db.scanLogs.filter (·.matchId == matchId))
  rw [← List.countP_eq_length_filter] at split
  rw [entries_counted, refusals_counted, split]
  congr 1
  exact List.countP_congr fun l _ => by simp

theorem zoneBreakdown_total :
    ((getMatchDayStats now db matchId).zoneBreakdown.map (·.2)).sum =
      (getMatchDayStats now db matchId).entries := by
  rw [entries_counted, List.countP_eq_length_filter]
  exact groupCounts_total

end MatchDay

theorem day_count (db : ReportedDatabase) (matchId : Uuid) (kind : ScanReport) :
    (loadScans db { matchId := some matchId } kind).map (·.rows.length) =
      some ((db.scanLogs.filter (·.matchId == matchId)).countP fun l => kind.includes l.result) := by
  rw [scans_count, List.countP_filter]
  exact congrArg some (List.countP_congr fun l _ => by rw [scanWhere_match])

/-- Reports and dashboard agree, whatever the filter and whatever the match. -/
theorem exports_agree (rate : Nat → Nat → Nat) (computed exported : Time) (db : ReportedDatabase) :
    (∀ filter,
      let stats := getGlobalStats rate computed db.toDatabase filter
      rowCount db filter exported .requests = some stats.requests.total ∧
      rowCount db filter exported .pending = some stats.requests.pending ∧
      rowCount db filter exported .rejected = some stats.requests.rejected ∧
      rowCount db filter exported .accredited = some stats.accreditations.generated ∧
      stats.requests.total = stats.requests.pending + stats.requests.validated + stats.requests.rejected +
        stats.requests.incomplete + db.requests.count fun r =>
          [.draft, .cancelled].contains r.status && (requestFilterWhere filter).holds db.toTables r) ∧
    ∀ matchId,
      let stats := getMatchDayStats computed db.toDatabase matchId
      rowCount db { matchId := some matchId } exported .entries = some stats.entries ∧
      rowCount db { matchId := some matchId } exported .anomalies = some stats.refusals ∧
      stats.entries + stats.refusals = db.scanLogs.countP (·.matchId == matchId) ∧
      (stats.zoneBreakdown.map (·.2)).sum = stats.entries := by
  refine ⟨fun filter => ⟨requests_count db filter exported, pending_count db filter exported,
    rejected_count db filter exported, accredited_count db filter exported, ?_⟩,
    fun matchId => ⟨?_, ?_, scans_split _ _ _, zoneBreakdown_total _ _ _⟩⟩
  · exact total_split db.toDatabase (w := requestFilterWhere filter) rfl
  · rw [entries_counted]
    exact day_count db matchId .entries
  · rw [refusals_counted]
    exact day_count db matchId .anomalies

end AccreditationBackend
