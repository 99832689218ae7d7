import AccreditationBackend.AccessControl.Offline
import AccreditationBackend.AccessControl.Verdicts
import AccreditationBackend.Requests.Lifecycle
import AccreditationBackend.Requests.SlotRuns

/-! The request behind a badge that was used.

A used access is final: no transition leaves ACCESS_USED. But no scan writes it;
the request stays as it was, and what can be done to it stays possible.
-/

set_option autoImplicit false

namespace AccreditationBackend

open Foundation

section Scans

variable (services : Services)

/-- The operation is a scan that returns VALID for the badge of the request. -/
def LetsIn (db : Database) (op : Operation) (requestId : Uuid) : Prop :=
  ∃ ambient dto agent verdict a, op = .verifyScan ambient dto agent ∧
    outcome services db op = .ok (.verdict verdict) ∧
    verdict.result = .valid ∧ db.accreditationByHash (services.hash dto.token) = some a ∧
      a.requestId = requestId

/-- What the database must hold for a scan to let somebody in on the badge. -/
structure Admissible (db : Database) (ambient : Ambient) (dto : VerifyScanDto) (agent : Uuid)
    (a : Accreditation) : Prop where
  badge : db.accreditationByHash (services.hash dto.token) = some a
  fit : Fit db.toTables (ambient.clock 0) dto a
  unused : db.uses a.id dto.zoneId = 0
  named : Named db.toTables dto agent

/-- A scan lets somebody in on a request that is not marked as used. -/
def AdmitsUnmarked (db : Database) (op : Operation) : Prop :=
  ∃ ambient dto agent a, op = .verifyScan ambient dto agent ∧ Admissible services db ambient dto agent a ∧
    db.statusOf a.requestId ≠ some .accessUsed

/-- The request is used, cannot be cancelled, and no slot given back is its own. -/
structure Final (db : Database) (requestId : Uuid) : Prop where
  used : db.statusOf requestId = some .accessUsed
  uncancelled : ∀ input, input.requestId = requestId → (outcome services db (.cancel input)).isOk = false
  keepsSlot : ∀ op, ∀ e ∈ events services db op, ∀ quotaId, e.stmt = .release quotaId →
    ∃ input r, op = .cancel input ∧ input.requestId ≠ requestId ∧
      db.requestById input.requestId = some r ∧
      r.status.holdsSlot = true

/-! ## Scans -/

variable {services} {db : Database} {ambient : Ambient} {dto : VerifyScanDto} {agent : Uuid}

theorem Matched.evaluate_iff {detail : AccreditationDetail} {now : Time}
    (matched : Matched services db dto.token detail) :
    (evaluate now detail dto).result = .valid ↔ Fit db.toTables now dto detail.accreditation := by
  rw [evaluate_valid, matched.zones]
  constructor
  · rintro ⟨active, unexpired, ownMatch, zones⟩
    exact ⟨active, unexpired, ⟨_, matched.request, ownMatch⟩, zones⟩
  · rintro ⟨active, unexpired, ⟨r, stored, ownMatch⟩, zones⟩
    cases stored.symm.trans matched.request
    exact ⟨active, unexpired, ownMatch, zones⟩

theorem named_of_logged {row reply : ScanLog} {db' : Database} (own : row.matchId = dto.matchId)
    (zone : row.zoneId = dto.zoneId) (by_ : row.scannedById = agent)
    (logged : handle (.createScanLog row) db = .ok (reply, db')) : Named db.toTables dto agent := by
  have applied := handle_ok logged
  simp only [Tables.apply, bind_ok, require_ok, pure_ok, Prod.mk.injEq] at applied
  obtain ⟨_, ⟨_, matchRow, zones, agents⟩, _⟩ := applied
  exact ⟨own ▸ matchRow, by simpa [zone] using zones, by_ ▸ agents⟩

theorem letsIn_iff {requestId : Uuid} :
    LetsIn services db (.verifyScan ambient dto agent) requestId ↔
      ∃ a, Admissible services db ambient dto agent a ∧ a.requestId = requestId := by
  constructor
  · rintro ⟨_, _, _, verdict, a, ⟨⟩, returned, valid, found, named⟩
    obtain ⟨joined, judgement, judged, shown, row, db', logged⟩ :=
      scan_returned services ambient dto agent returned
    cases shown
    obtain ⟨detail, rfl, evaluated, unused⟩ := judged.fit valid
    obtain rfl : a = detail.accreditation := Option.some.inj (found.symm.trans judged.matched.badge)
    exact ⟨_, ⟨found, judged.matched.evaluate_iff.mp evaluated, unused,
      named_of_logged rfl rfl rfl logged⟩, named⟩
  · rintro ⟨a, admissible, named⟩
    obtain ⟨joined, judgement, judged, returned, _⟩ :=
      scan_logged services ambient dto agent admissible.named
    refine ⟨_, _, _, _, a, rfl, returned, ?_, admissible.badge, named⟩
    cases judged with
    | unknown missing => cases admissible.badge.symm.trans missing
    | refused found joined invalid =>
        have matched := matched_of_joined found joined
        obtain rfl := Option.some.inj (admissible.badge.symm.trans matched.badge)
        exact absurd (matched.evaluate_iff.mpr admissible.fit) invalid
    | used found joined valid earlier =>
        obtain rfl := Option.some.inj (admissible.badge.symm.trans (matched_of_joined found joined).badge)
        exact absurd admissible.unused (by omega)
    | first found joined valid unused => exact valid

theorem scan_keeps_requests (ambient : Ambient) (dto : VerifyScanDto) (agent : Uuid) (db : Database) :
    (perform services db (.verifyScan ambient dto agent)).requests = db.requests := by
  refine perform_relates services (R := fun s t : Database => t.requests = s.requests) (fun _ => rfl)
    (fun _ _ _ first second => second.trans first) fun stmt s member => ?_
  exact requests_kept (footprint_quiet services rfl (events_footprint services db _ _ member)) s

end Scans

/-! ## Requests that are used -/

section Used

variable (services : Services) {db : Database}

/-- A slot is given back only if the request holds one. -/
def ReleasesFor (r : AccreditationRequest) (stmt : Statement) : Prop :=
  ∀ quotaId, stmt = .release quotaId → r.status.holdsSlot = true

theorem cancel_leads (input : CancelRequestUseCase.CancelRequestInput) (db : Database) :
    ((Operation.cancel input).execute services).Leads handle
      (fun e => ∃ r, db.requestById input.requestId = some r ∧ .cancelled ∈ requestTransitions r.status ∧
        ReleasesFor r e.stmt)
      (fun result _ => result.isOk = true →
        ∃ r, db.requestById input.requestId = some r ∧ .cancelled ∈ requestTransitions r.status) db := by
  simp only [Operation.execute]
  rw [Proc.leads_bind]
  unfold CancelRequestUseCase.execute
  refine loadRequest_leads (fun r found _ => guard_leads (fun allowed => ?_) fun _ => by rintro ⟨⟩)
    fun _ => by rintro ⟨⟩
  have body : (do
      let updated : AccreditationRequest ← issue (.writeStatus (CancelRequestUseCase.cancelWrite input r))
      if r.status.holdsSlot then releaseSlot r.matchId r.categoryRequestedId
      publish (.requestCancelled r.id r.status)
      return updated : Op AccreditationRequest).Issues (ReleasesFor r) := by
    refine Proc.issues_bind _ _ _ (issue_issues fun _ released => by cases released) fun updated => ?_
    have announced :
        (do publish (.requestCancelled r.id r.status); return updated : Op AccreditationRequest).Issues
        (ReleasesFor r) :=
      Proc.issues_bind _ _ _ (issue_issues fun _ released => by cases released) fun _ => trivial
    split
    next holds => exact Proc.issues_bind _ _ _ (releaseSlot_issues fun _ _ _ => holds) fun _ => announced
    next => exact announced
  refine Proc.leads_mono handle _ db (Proc.leads_of_issues handle (R := fun _ _ => True) (fun _ => trivial)
    (fun _ _ _ _ _ => trivial) (fun _ _ _ => trivial) _ body db)
    (fun e issued => ⟨r, found, allowed, issued⟩) ?_
  intro result t _
  cases result with
  | ok updated => exact fun _ => ⟨r, found, allowed⟩
  | error why => exact fun ended => by cases ended

theorem used_uncancelled {requestId : Uuid} (used : db.statusOf requestId = some .accessUsed)
    {r : AccreditationRequest} (found : db.requestById requestId = some r) :
    .cancelled ∉ requestTransitions r.status := by
  rw [Tables.statusOf, found, Option.map_some, Option.some.injEq] at used
  rw [used]
  decide

theorem final_of_used {requestId : Uuid} (used : db.statusOf requestId = some .accessUsed) :
    Final services db requestId where
  used := used
  uncancelled := by
    rintro input rfl
    have leads := ((Proc.leads_iff handle _ _ _ db).mp (cancel_leads services input db)).2
    by_contra returned
    obtain ⟨r, found, allowed⟩ := leads (by simpa [outcome] using returned)
    exact used_uncancelled used found allowed
  keepsSlot := by
    intro op e member quotaId released
    have footprint := events_footprint services db op e member
    cases op with
    | cancel input =>
        obtain ⟨r, found, allowed, holds⟩ :=
          ((Proc.leads_iff handle _ _ _ db).mp (cancel_leads services input db)).1 e member
        refine ⟨input, r, rfl, ?_, found, holds quotaId released⟩
        rintro rfl
        exact used_uncancelled used found allowed
    | _ =>
        simp only [released, Operation.Footprint, WritesTo, Publishes, GrantsBadge, LogsScan] at footprint
        grind

theorem used_step {op : Operation} {requestId : Uuid} (used : db.statusOf requestId = some .accessUsed) :
    (perform services db op).statusOf requestId = some .accessUsed := by
  refine perform_keeps services (J := fun db => db.statusOf requestId = some .accessUsed)
    (fun stmt s member held => ?_) used
  have current := events_current services db op _ member
  have lawful : Lawful stmt := footprint_lawful (events_footprint services db op _ member)
  obtain ⟨target, after, rfl | allowed⟩ := status_after current.seen lawful held
  · exact after
  · cases allowed

theorem used_kept {requestId : Uuid} (used : db.statusOf requestId = some .accessUsed)
    (ops : List Operation) :
    (runFrom (perform services) db ops).statusOf requestId = some .accessUsed := by
  induction ops generalizing db with
  | nil => exact used
  | cons op rest ih => exact ih (used_step services used)

/-- After each scan that lets somebody in, the request is used for good, in the
runs in which no scan lets anybody in on a request that is not marked as used,
and in no other run. -/
theorem used_access_final (start : Database) (ops : List Operation) :
    (∀ front scan back requestId, ops = front ++ scan :: back →
        LetsIn services (runFrom (perform services) start front) scan requestId →
        ∀ between rest, back = between ++ rest →
          Final services (runFrom (perform services) start (front ++ scan :: between)) requestId) ↔
      Along (perform services) (fun db op => ¬ AdmitsUnmarked services db op) start ops := by
  rw [along_iff]
  constructor
  · rintro final front op back split ⟨ambient, dto, agent, a, rfl, admissible, unmarked⟩
    have letsIn := letsIn_iff.mpr ⟨a, admissible, rfl⟩
    have used := (final front _ back a.requestId split letsIn [] back rfl).used
    rw [runFrom_append, runFrom_cons, runFrom_nil, statusOf_congr (scan_keeps_requests ambient dto agent _)] at used
    exact unmarked used
  · rintro marked front scan back requestId split letsIn between rest rfl
    refine final_of_used services ?_
    have noted := marked front scan _ split
    obtain ⟨ambient, dto, agent, _, _, rfl, _⟩ := id letsIn
    obtain ⟨a, admissible, rfl⟩ := letsIn_iff.mp letsIn
    have used : (runFrom (perform services) start front).statusOf a.requestId = some .accessUsed := by
      by_contra unmarked
      exact noted ⟨ambient, dto, agent, a, rfl, admissible, unmarked⟩
    rw [runFrom_append]
    exact used_kept services used _

/-- A generated badge of the sample is used, and its dossier cancelled afterwards. -/
def usedThenCancelled : List Operation :=
  dossierValidated ++
    [.verifyScan {} { token := "token", matchId := "final" } "agent", .cancel ⟨"dossier", "user", none⟩]

end Used

theorem cancelled_after_use :
    ¬ ∀ front scan back requestId, usedThenCancelled = front ++ scan :: back →
        LetsIn sampleServices (runFrom (perform sampleServices) (sampleDatabase 1) front) scan requestId →
        ∀ between rest, back = between ++ rest →
          Final sampleServices
            (runFrom (perform sampleServices) (sampleDatabase 1) (front ++ scan :: between))
            requestId := by
  intro final
  have used := (final dossierValidated _ [.cancel ⟨"dossier", "user", none⟩] "dossier" rfl
    ⟨{}, { token := "token", matchId := "final" }, "agent", _, _, rfl, rfl, by decide, rfl, by decide⟩
    [] _ rfl).used
  exact absurd used (by decide)

end AccreditationBackend
