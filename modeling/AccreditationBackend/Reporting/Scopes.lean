import AccreditationBackend.Reporting.Agreement

/-! The scans that a report selects for a competition, against those of its matches. -/

set_option autoImplicit false

namespace AccreditationBackend

open Foundation ExportsService

/-- The scans that a report tabulates. -/
def selectedScans (db : ReportedDatabase) (filter : DashboardFilterDto) (kind : ScanReport) :
    List ScanLog :=
  db.scanLogs.filter (scanWhere db filter kind)

def competitionMatches (db : ReportedDatabase) (competitionId : Uuid) : List Match :=
  db.matchRows.rows.filter (·.competitionId == competitionId)

/-- The scan took place at a match of the competition. -/
def scannedIn (db : ReportedDatabase) (competitionId : Uuid) (l : ScanLog) : Bool :=
  (db.matchRows.find (·.id == l.matchId)).any (·.competitionId == competitionId)

/-- The scan names a badge, and the badge was requested for a match of the competition. -/
def badgedIn (db : ReportedDatabase) (competitionId : Uuid) (l : ScanLog) : Bool :=
  (l.accreditationId.bind db.accreditationById).any fun a =>
    (db.requestById a.requestId).any fun r =>
      (db.matchRows.find (·.id == r.matchId)).any (·.competitionId == competitionId)

section Scopes

variable (db : ReportedDatabase) (competitionId : Uuid) (kind : ScanReport)

/-- A filter by competition asks for the match that the badge was requested for. -/
theorem scanWhere_competition (l : ScanLog) :
    scanWhere db { competitionId := some competitionId } kind l =
      (kind.includes l.result && badgedIn db competitionId l) := by
  have filtered : ({ competitionId := some competitionId } : RequestWhere) != {} := by simp
  have holds : ({ competitionId := some competitionId } : RequestWhere).holds db.toTables = fun r =>
      (db.matchRows.find (·.id == r.matchId)).any (·.competitionId == competitionId) := by
    funext r
    simp [RequestWhere.holds]
  have holdsOf :
      ({ competitionId := some competitionId } : RequestWhere).holdsOf db.toTables = fun a =>
      (db.requestById a.requestId).any fun r =>
        (db.matchRows.find (·.id == r.matchId)).any (·.competitionId == competitionId) := by
    funext a
    rw [RequestWhere.holdsOf, holds]
  simp [scanWhere, filtered, badgedIn, holdsOf]

/-- Of the matches of the competition, a scan took place at one, or at none. -/
theorem matches_one (l : ScanLog) :
    (competitionMatches db competitionId).countP
        (fun m => scanWhere db { matchId := some m.id } kind l) =
      if kind.includes l.result && scannedIn db competitionId l then 1 else 0 := by
  have unique := selects_matchId l.matchId
  have counted : (competitionMatches db competitionId).countP
        (fun m => scanWhere db { matchId := some m.id } kind l) =
      db.matchRows.count fun m => m.id == l.matchId &&
        (kind.includes l.result && m.competitionId == competitionId) := by
    rw [competitionMatches, List.countP_filter, Table.count]
    refine List.countP_congr fun m _ => ?_
    rw [scanWhere_match, Bool.beq_comm (a := l.matchId)]
    cases kind.includes l.result <;> simp
  rw [counted, Table.count_selects (unique.and _), Table.find_and unique, scannedIn]
  cases found : db.matchRows.find (·.id == l.matchId) <;> cases kind.includes l.result <;>
    simp [Option.filter]

theorem scans_of_matches :
    ((competitionMatches db competitionId).flatMap fun m =>
        selectedScans db { matchId := some m.id } kind).Perm
      (db.scanLogs.filter fun l => kind.includes l.result && scannedIn db competitionId l) :=
  flatMap_filter_perm fun l _ => matches_one db competitionId kind l

/-- The scans of a competition's report are those of the reports of its matches, told apart. -/
def UnionOfMatches : Prop :=
  (selectedScans db { competitionId := some competitionId } kind).Perm
    ((competitionMatches db competitionId).flatMap fun m =>
      selectedScans db { matchId := some m.id } kind)

end Scopes

/-- The report of a competition is the union of the reports of its matches exactly
where each of their scans, and no other, has a badge of the competition. -/
theorem competition_union (db : ReportedDatabase) (competitionId : Uuid) (kind : ScanReport) :
    UnionOfMatches db competitionId kind ↔
      ∀ l ∈ db.scanLogs, kind.includes l.result = true →
        (badgedIn db competitionId l = true ↔ scannedIn db competitionId l = true) := by
  have ofMatches := scans_of_matches db competitionId kind
  have selected : selectedScans db { competitionId := some competitionId } kind =
      db.scanLogs.filter fun l => kind.includes l.result && badgedIn db competitionId l :=
    List.filter_congr fun l _ => scanWhere_competition db competitionId kind l
  have same : UnionOfMatches db competitionId kind ↔
      (db.scanLogs.filter fun l => kind.includes l.result && badgedIn db competitionId l).Perm
        (db.scanLogs.filter fun l => kind.includes l.result && scannedIn db competitionId l) := by
    rw [UnionOfMatches, selected]
    exact ⟨fun union => union.trans ofMatches, fun perm => perm.trans ofMatches.symm⟩
  rw [same, filter_perm_iff]
  refine forall_congr' fun l => imp_congr_right fun _ => ?_
  cases kind.includes l.result with
  | false => simp
  | true =>
      rw [Bool.true_and, Bool.true_and, Bool.eq_iff_iff]
      exact ⟨fun agree _ => agree, fun agree => agree rfl⟩

/-- Somebody comes to the sample's match with a token that nobody was given. -/
def unknownAtGate : ReportedDatabase where
  toDatabase := perform sampleServices (sampleDatabase 0)
    (.verifyScan {} { token := "found on the floor", matchId := "final" } "agent")
  accounts := ⟨[{ id := "agent", email := "agent@fsf.sn", passwordHash := "", kind := .staff }],
    List.pairwise_singleton _ _⟩
  createdAt _ := 0
  known := by decide

/-- The anomaly is in the report of the match, and missing from that of its competition. -/
theorem anomaly_missing : ¬ UnionOfMatches unknownAtGate "cup" .anomalies := by
  intro union
  have counted := union.length_eq
  revert counted
  decide

end AccreditationBackend
