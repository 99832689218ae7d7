import AccreditationBackend.AccessControl.Scans
import AccreditationBackend.Accreditations.Endurance
import AccreditationBackend.Foundation.Stability
import AccreditationBackend.System.Footprint

/-! Revoked badges: whatever runs after a revocation, no gate opens and no device is told of the badge. -/

set_option autoImplicit false

namespace AccreditationBackend

open Foundation

/-- The badge is revoked, and every online scan logged for it since the start says so. -/
structure Barred (start : Database) (badge : Accreditation) (db : Database) : Prop where
  revoked : ∃ a, db.accreditationById badge.id = some a ∧ a.status = .revoked ∧
    a.qrTokenHash = badge.qrTokenHash
  logged : ∃ logs, db.scanLogs = start.scanLogs ++ logs ∧
    ∀ l ∈ logs, l.accreditationId = some badge.id → l.source = .online → l.result = .revoked

/-- The statement logs no other verdict of an online scan of the badge. -/
def Statement.Refuses (id : Uuid) (stmt : Statement) : Prop :=
  ∀ l ∈ stmt.scans, l.accreditationId = some id → l.source = .online → l.result = .revoked

section Barred

variable {start : Database} {badge : Accreditation}

theorem barred_kept {stmt : Statement} {db : Database} (refuses : stmt.Refuses badge.id)
    (barred : Barred start badge db) : Barred start badge (handle.after stmt db) where
  revoked := by
    obtain ⟨a, found, revoked, token⟩ := barred.revoked
    obtain ⟨b, foundB, same⟩ := (endures_step stmt db).badge badge.id a found
    exact ⟨b, foundB, same.revoked revoked, same.qrTokenHash.trans token⟩
  logged := by
    obtain ⟨logs, rows, each⟩ := barred.logged
    obtain grown | same := scans_step stmt db
    · refine ⟨logs ++ stmt.scans, by rw [grown, rows, List.append_assoc], fun l member => ?_⟩
      exact (List.mem_append.mp member).elim (each l) (refuses l)
    · exact ⟨logs, by rw [same, rows], each⟩

theorem Barred.byHash {db : Database} (barred : Barred start badge db) {hash : String} {a : Accreditation}
    (found : db.accreditationByHash hash = some a) : hash = badge.qrTokenHash ↔ a.id = badge.id := by
  obtain ⟨byId, token⟩ := byHash_iff.mp found
  obtain ⟨b, foundB, -, own⟩ := barred.revoked
  constructor
  · rintro rfl
    have byHash : db.accreditationByHash badge.qrTokenHash = some b :=
      byHash_iff.mpr ⟨by rw [(show b.id = badge.id by simpa using (Table.find_some_mem foundB).2)]; exact foundB, own⟩
    rw [found] at byHash
    rw [Option.some.inj byHash]
    simpa using (Table.find_some_mem foundB).2
  · intro same
    rw [same, foundB] at byId
    rw [← token, ← Option.some.inj byId, own]

theorem Barred.unexported {db : Database} (barred : Barred start badge db) (matchId : Uuid) :
    ∀ entry ∈ db.exportForOfflineUse matchId, entry.accreditationId ≠ badge.id := by
  intro entry member named
  obtain ⟨a, kept, rfl⟩ := List.mem_map.mp member
  obtain ⟨stored, active⟩ := List.mem_filter.mp kept
  obtain ⟨b, foundB, revoked, -⟩ := barred.revoked
  have found : db.accreditationById badge.id = some a :=
    (Table.find_some_iff (selects_accreditationId badge.id)).mpr ⟨stored, beq_iff_eq.mpr named⟩
  rw [foundB] at found
  cases found
  simp only [Tables.activeFor, Bool.and_eq_true, beq_iff_eq] at active
  rw [revoked] at active
  cases active.1

/-! ## Scans -/

theorem judge_revoked {detail : AccreditationDetail} (revoked : detail.accreditation.status = .revoked)
    (now : Time) (dto : VerifyScanDto) : judge now detail dto = pure (evaluate now detail dto) := by
  rw [judge, if_neg (by rw [evaluate_revoked revoked]; decide)]

theorem accreditationDetail_badge {t : Tables} {id : Uuid} {detail : AccreditationDetail}
    (joined : t.accreditationDetail id = some detail) : t.accreditationById id = some detail.accreditation := by
  simp only [Tables.accreditationDetail, Option.bind_eq_bind, Option.bind_eq_some_iff, Option.pure_def,
    Option.some.injEq] at joined
  obtain ⟨a, found, _, _, rfl⟩ := joined
  exact found

variable (services : Services)

theorem verifyScan_barred (ambient : Ambient) (dto : VerifyScanDto) (agent : Uuid) :
    (verifyScan services ambient dto agent).Respects handle (Barred start badge) fun result =>
      services.hash dto.token = badge.qrTokenHash → ∀ verdict, result = .ok verdict → verdict.result = .revoked := by
  have keeps (stmt : Statement) (db : Database) (refuses : stmt.Refuses badge.id)
      (barred : Barred start badge db) : Barred start badge (handle.after stmt db) :=
    barred_kept refuses barred
  unfold verifyScan findByRawToken
  rw [Proc.query_bind]
  intro db barred
  dsimp only
  cases found : db.accreditationByHash (services.hash dto.token) with
  | none =>
      -- A token that leads to no badge is not the badge's.
      have other : services.hash dto.token ≠ badge.qrTokenHash := by
        intro same
        obtain ⟨b, foundB, -, own⟩ := barred.revoked
        have named : b.id = badge.id := by simpa using (Table.find_some_mem foundB).2
        have byHash : db.accreditationByHash (services.hash dto.token) = some b :=
          byHash_iff.mpr ⟨by rw [named]; exact foundB, own.trans same.symm⟩
        cases found.symm.trans byHash
      refine Proc.respects_frame keeps (issue_issues ?_) (fun _ mine => absurd mine other) fun _ mine =>
        absurd mine other
      intro l member named
      cases List.mem_singleton.mp member
      cases named
  | some a =>
      have token := barred.byHash found
      dsimp only
      rw [Proc.query_bind]
      intro later barredLater
      dsimp only
      cases joined : later.accreditationDetail a.id with
      | none => exact fun _ _ failed => by cases failed
      | some detail =>
          have own := accreditationDetail_badge joined
          dsimp only
          by_cases mine : a.id = badge.id
          · obtain ⟨b, foundB, revoked, -⟩ := barredLater.revoked
            rw [mine, foundB] at own
            obtain rfl := Option.some.inj own
            rw [judge_revoked revoked, Proc.pure_eq, Proc.done_bind]
            refine Proc.respects_frame keeps (issue_issues ?_) (fun _ => ?_) fun _ _ _ failed => by cases failed
            · intro l member _ _
              cases List.mem_singleton.mp member
              exact evaluate_revoked revoked _ _
            · rintro _ _ ⟨⟩
              exact evaluate_revoked revoked _ _
          · have elsewhere : detail.accreditation.id = a.id := by simpa using (Table.find_some_mem own).2
            have foreign (result : Except Failure ScanVerdict) (same : services.hash dto.token = badge.qrTokenHash) :
                ∀ verdict, result = .ok verdict → verdict.result = .revoked := absurd (token.mp same) mine
            have issues : Proc.Issues (Statement.Refuses badge.id) (do
                let verdict ← judge (ambient.clock 0) detail dto
                let _ ← issue (.createScanLog (onlineScan services dto agent (ambient.clock 1)
                  (some detail.accreditation.id) verdict))
                return { verdict with
                  accreditation := if verdict.result = .valid then some detail.shown else none } : Op ScanVerdict) := by
              refine Proc.issues_bind _ _ _ ?_ fun verdict => ?_
              · unfold judge wasAlreadyUsed
                dsimp only
                split
                · refine Proc.issues_bind _ _ _ ?_ fun _ => trivial
                  exact Proc.issues_bind _ _ _ (issue_issues fun _ member => by cases member) fun _ => trivial
                · trivial
              · refine Proc.issues_bind _ _ _ (issue_issues fun l member named => ?_) fun _ => trivial
                cases List.mem_singleton.mp member
                exact absurd (elsewhere.symm.trans (Option.some.inj named)) mine
            exact Proc.outline_mono _ _ _ _ (Proc.respects_issues keeps issues) fun result _ _ => foreign result

theorem footprint_refuses {services : Services} {op : Operation} {stmt : Statement}
    (footprint : op.Footprint services stmt) (other : ∀ ambient dto agent, op ≠ .verifyScan ambient dto agent) :
    stmt.Refuses badge.id := by
  have write {id : Uuid} {target : RequestStatus} (writes : WritesTo id target stmt) : stmt.Refuses badge.id := by
    obtain ⟨w, rfl, -⟩ := writes
    exact fun _ member => by cases member
  have published (publishes : Publishes stmt) : stmt.Refuses badge.id := by
    obtain ⟨event, rfl⟩ := publishes
    exact fun _ member => by cases member
  have granted {ambient : Ambient} {requestId : Uuid} {zoneIds : List Uuid}
      (grants : GrantsBadge services ambient requestId zoneIds stmt) : stmt.Refuses badge.id := by
    obtain ⟨row, rfl, -⟩ := grants
    exact fun _ member => by cases member
  have plain (none_ : stmt.scans = []) : stmt.Refuses badge.id := by
    intro l member
    rw [none_] at member
    cases member
  cases op with
  | saveDraft ambient input => rcases footprint with ⟨id, rfl⟩ | ⟨reference, rfl⟩ <;> exact plain rfl
  | submit ambient input => exact footprint.elim write published
  | requestComplement ambient input => exact footprint.elim write published
  | resolveComplement ambient input =>
      rcases footprint with rfl | writes
      · exact plain rfl
      · exact write writes
  | transition input => exact write footprint
  | decide ambient input =>
      rcases footprint with writes | publishes | ⟨_, ⟨_, id, limit, rfl⟩ | grants | writes⟩
      · exact write writes
      · exact published publishes
      · exact plain rfl
      · exact granted grants
      · exact write writes
  | cancel input =>
      rcases footprint with writes | publishes | ⟨id, rfl⟩
      · exact write writes
      · exact published publishes
      · exact plain rfl
  | setQuota ambient matchId dto =>
      obtain rfl : stmt = .setQuota ambient.freshId matchId dto := footprint
      exact plain rfl
  | updateMatch id dto =>
      rcases footprint with rfl | publishes
      · exact plain rfl
      · exact published publishes
  | generateAccreditation ambient requestId zoneIds options => exact footprint.elim granted published
  | updateAssignments accreditationId input =>
      obtain rfl : stmt = .updateAssignments accreditationId input := footprint
      exact plain rfl
  | revoke ambient accreditationId reason revokedById =>
      rcases footprint with rfl | publishes
      · exact plain rfl
      · exact published publishes
  | verifyScan ambient dto scannedById => exact absurd rfl (other ambient dto scannedById)
  | syncOfflineScans ambient scans scannedById =>
      obtain ⟨row, rfl, offline⟩ := footprint
      intro l member _ online
      cases List.mem_singleton.mp member
      cases offline.symm.trans online

def Operation.TellsRevoked (badge : Accreditation) (op : Operation) (result : Except Failure Reply) : Prop :=
  ∀ ambient dto agent verdict, op = .verifyScan ambient dto agent → services.hash dto.token = badge.qrTokenHash →
    result = .ok (.verdict verdict) → verdict.result = .revoked

theorem execute_barred (op : Operation) :
    (op.execute services).Respects handle (Barred start badge) (op.TellsRevoked services badge) := by
  by_cases scans : ∃ ambient dto agent, op = .verifyScan ambient dto agent
  · obtain ⟨ambient, dto, agent, rfl⟩ := scans
    refine Proc.outline_seq (verifyScan_barred services ambient dto agent) fun result _ told => ?_
    cases result with
    | error why => exact fun _ _ _ _ _ _ failed => by cases failed
    | ok verdict =>
        rintro _ _ _ _ ⟨⟩ token ⟨⟩
        exact told token verdict rfl
  · have other (ambient : Ambient) (dto : VerifyScanDto) (agent : Uuid) : op ≠ .verifyScan ambient dto agent :=
      fun same => scans ⟨ambient, dto, agent, same⟩
    have issues : (op.execute services).Issues (Statement.Refuses badge.id) :=
      Proc.issues_mono _ (execute_footprint services op) fun _ footprint => footprint_refuses footprint other
    refine Proc.outline_mono _ _ _ _ (Proc.respects_issues (fun _ _ refuses barred => barred_kept refuses barred)
      issues) fun _ _ _ ambient dto agent _ same => absurd same (other ambient dto agent)

end Barred

/-- Once a badge is revoked, and whatever calls start then and however they interleave: it
stays revoked, no device is given it, no online scan is logged for it with another verdict,
and every scan of its token that returns answers REVOKED. -/
theorem revoked_barred {ι : Type} [DecidableEq ι] (services : Services) (start : Database) (calls : ι → Operation)
    (schedule : List ι) {badge : Accreditation} (stored : badge ∈ start.accreditations.rows)
    (revoked : badge.status = .revoked) :
    Barred start badge ((operationPool services start calls).play handle schedule).2.store ∧
    (∀ matchId, ∀ entry ∈ ((operationPool services start calls).play handle schedule).2.store.exportForOfflineUse
      matchId, entry.accreditationId ≠ badge.id) ∧
    ∀ i result, (((operationPool services start calls).play handle schedule).2.procs i).ended = some result →
      (calls i).TellsRevoked services badge result := by
  have found : start.accreditationById badge.id = some badge :=
    (Table.find_some_iff (selects_accreditationId badge.id)).mpr ⟨stored, beq_self_eq_true _⟩
  have begun : Barred start badge start :=
    ⟨⟨badge, found, revoked, rfl⟩, [], (List.append_nil _).symm, fun _ member => by cases member⟩
  obtain ⟨barred, each⟩ := Pool.play_respects handle schedule (operationPool services start calls) begun
    fun i => execute_barred services (calls i)
  exact ⟨barred, barred.unexported, each⟩

/-- A badge of the sample that was issued and revoked. -/
def badgeTakenBack : Database := runFrom (perform sampleServices) (sampleDatabase 1) [
  .saveDraft { freshId := "dossier" } ⟨"reporter", "final", "press", {}⟩,
  .generateAccreditation { freshId := "badge", rawToken := "token" } "dossier" ["stand"] {},
  .revoke {} "badge" "perdu" "agent"]

/-- Its holder tries two gates at once. -/
def twoGates (_ : Fin 2) : Operation := .verifyScan {} { token := "token", matchId := "final" } "agent"

theorem revoked_barred_twice :
    Barred badgeTakenBack (badgeTakenBack.accreditations.rows.head (by decide))
      ((operationPool sampleServices badgeTakenBack twoGates).play handle [0, 1, 0, 1, 0, 1]).2.store ∧
    ((operationPool sampleServices badgeTakenBack twoGates).play handle [0, 1, 0, 1, 0, 1]).2.store.scanLogs.map
      (·.result) = [.revoked, .revoked] :=
  ⟨(revoked_barred sampleServices badgeTakenBack twoGates [0, 1, 0, 1, 0, 1] (List.head_mem _) (by decide)).1,
    by decide⟩

end AccreditationBackend
