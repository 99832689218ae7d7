import AccreditationBackend.AccessControl.Offline
import AccreditationBackend.AccessControl.Verdicts
import AccreditationBackend.Requests.SlotRuns

/-! The status of the request behind a badge that opens a gate.

A scan looks at the badge, never at the status of its request. A cancellation
writes the request and leaves the badge alone, so only a revocation closes a gate.
-/

set_option autoImplicit false

namespace AccreditationBackend

open Foundation

/-- The statuses of a request past its decision, from the badge on. -/
def decidedStatuses : List RequestStatus := [.badgeGenerated, .accessUsed, .cancelled]

/-- The request has its badge, and is past its decision. -/
structure PastDecision (t : Tables) (requestId : Uuid) : Prop where
  issued : t.hasBadge requestId = true
  status : ∃ status ∈ decidedStatuses, t.statusOf requestId = some status

/-- If the request has a badge, its decision is over. -/
def Concluded (t : Tables) (requestId : Uuid) : Prop :=
  t.hasBadge requestId = true → PastDecision t requestId

/-! ## One statement -/

theorem decidedStatuses_closed {source target : RequestStatus} (decided : source ∈ decidedStatuses)
    (allowed : target ∈ requestTransitions source) : target ∈ decidedStatuses := by
  cases source <;> simp [decidedStatuses, requestTransitions] at decided allowed ⊢
  exact .inr allowed

theorem pastDecision_step {stmt : Statement} {db : Database} {id : Uuid}
    (current : Current (handle.event stmt db)) (lawful : Lawful stmt)
    (past : PastDecision db.toTables id) :
    PastDecision (handle.after stmt db).toTables id := by
  obtain ⟨issued, status, decided, stored⟩ := past
  refine ⟨hasBadge_kept stmt db id issued, ?_⟩
  obtain ⟨target, after, rfl | allowed⟩ := status_after current.seen lawful stored
  · exact ⟨target, decided, after⟩
  · exact ⟨target, decidedStatuses_closed decided allowed, after⟩

theorem hasBadge_origin {stmt : Statement} {db : Database} {id : Uuid} (missing : db.hasBadge id = false)
    (present : (handle.after stmt db).hasBadge id = true) :
    ∃ row zoneIds, stmt = .createAccreditation row zoneIds ∧ row.requestId = id := by
  have step := badge_step (selects_accreditationRequest id) (onKey_badgeRequest id) stmt db
  unfold Tables.hasBadge at missing present
  obtain ⟨a, found⟩ := Option.isSome_iff_exists.mp present
  rw [Option.isSome_eq_false_iff.mp missing |> Option.isNone_iff_eq_none.mp, found] at step
  cases step with
  | created => exact ⟨a, _, rfl, beq_iff_eq.mp (Table.find_some_mem found).2⟩

/-! ## One operation -/

theorem loadRequest_returns {id : Uuid} {owned : AccreditationRequest → Bool} {db t : Database}
    {request : AccreditationRequest} (loaded : (loadRequest id owned).run handle db = (.ok request, t)) :
    request.id = id := by
  have loads : (loadRequest id owned).Leads handle (fun _ => True)
      (fun r _ => ∀ request, r = .ok request → request.id = id) db := by
    rw [← Proc.bind_done (loadRequest _ _)]
    refine loadRequest_leads (fun r _ named found same => ?_) fun _ _ returned => by cases returned
    cases same
    exact named
  have ended := ((Proc.leads_iff handle _ _ _ db).mp loads).2
  rw [loaded] at ended
  exact ended request rfl

theorem writeStatus_returns {w : StatusWrite} {db t : Database} {updated : AccreditationRequest}
    (written : (issue (.writeStatus w)).run handle db = (.ok updated, t)) :
    t.statusOf w.requestId = some w.target := by
  cases replied : handle (.writeStatus w) db with
  | error why =>
      simp only [issue, Proc.command, Proc.run, replied, Prod.mk.injEq, reduceCtorEq, false_and] at written
  | ok result =>
      simp only [issue, Proc.command, Proc.run, replied, Prod.mk.injEq] at written
      rw [← written.2]
      exact statusOf_written replied

/-- The badge is generated by a call of its own, outside every decision. -/
def Operation.grantsDirectly : Operation → Bool
  | .generateAccreditation .. => true
  | _ => false

section Operations

variable (services : Services)

/-- A decision that stored the badge of the request, and then failed. -/
def HalfDecided (id : Uuid) (db : Database) (op : Operation) : Prop :=
  (∃ ambient input, op = .decide ambient input ∧ input.requestId = id) ∧ db.hasBadge id = false ∧
    (perform services db op).hasBadge id = true ∧ (outcome services db op).isOk = false

theorem granted_by_decision {op : Operation} (decides : op.grantsDirectly = false) {row : Accreditation}
    {zoneIds : List Uuid} (footprint : op.Footprint services (.createAccreditation row zoneIds)) :
    ∃ ambient input, op = .decide ambient input ∧ input.requestId = row.requestId ∧
      input.status = .validated := by
  cases op <;> simp only [Operation.Footprint, WritesTo, Publishes, GrantsBadge, LogsScan, Operation.grantsDirectly,
    Bool.true_eq_false, reduceCtorEq, Statement.createAccreditation.injEq] at footprint decides <;> grind

theorem decide_generates (ambient : Ambient) (input : DecideRequestUseCase.DecideRequestInput)
    (validated : input.status = .validated) (db : Database)
    (returned : (outcome services db (.decide ambient input)).isOk = true) :
    (perform services db (.decide ambient input)).statusOf input.requestId = some .badgeGenerated := by
  unfold outcome perform at *
  generalize ran : ((Operation.decide ambient input).execute services).run handle db =
    result at returned ⊢
  obtain ⟨r, t⟩ := result
  cases r with
  | error why => cases returned
  | ok reply =>
      obtain ⟨updated, u, executed, last⟩ := Proc.run_bind_ok handle ran
      obtain rfl : u = t := congrArg Prod.snd last
      unfold DecideRequestUseCase.execute at executed
      simp only [validated, if_true] at executed
      -- Guard, reservation, first write, event and generation have returned; the second write is the last statement.
      obtain ⟨request, _, loaded, executed⟩ := Proc.run_bind_ok handle executed
      obtain ⟨_, _, _, executed⟩ := Proc.run_bind_ok handle executed
      obtain ⟨_, _, _, executed⟩ := Proc.run_bind_ok handle executed
      obtain ⟨_, _, _, executed⟩ := Proc.run_bind_ok handle executed
      obtain ⟨_, _, _, executed⟩ := Proc.run_bind_ok handle executed
      obtain ⟨_, _, _, written⟩ := Proc.run_bind_ok handle executed
      rw [← loadRequest_returns loaded]
      exact writeStatus_returns written

/-- Every operation leaves each badge with a decided request, except a decision that fails half way. -/
theorem perform_concluded {db : Database} {op : Operation} {id : Uuid}
    (concluded : Concluded db.toTables id) (decides : op.grantsDirectly = false) :
    Concluded (perform services db op).toTables id ∨ HalfDecided services id db op := by
  cases before : db.hasBadge id with
  | true =>
      left
      intro _
      refine perform_keeps services (J := fun db => PastDecision db.toTables id) (fun stmt s member => ?_)
        (concluded before)
      have lawful : Lawful stmt := footprint_lawful (events_footprint services db op _ member)
      exact pastDecision_step (events_current services db op _ member) lawful
  | false =>
      cases after : (perform services db op).hasBadge id with
      | false =>
          left
          intro present
          cases after.symm.trans present
      | true =>
          -- The badge is new, so some statement of the operation inserted it: the operation is a decision.
          have granted :
              ∃ e ∈ events services db op, ∃ row zoneIds, e.stmt = .createAccreditation row zoneIds ∧
              row.requestId = id := by
            by_contra ungranted
            have kept := perform_keeps services (J := fun db => db.hasBadge id = false)
              (fun stmt s member missing => by
                by_contra present
                exact ungranted ⟨_, member, hasBadge_origin missing (by simpa using present)⟩) before
            cases after.symm.trans kept
          obtain ⟨e, member, row, zoneIds, shape, rfl⟩ := granted
          have footprint := events_footprint services db op e member
          rw [shape] at footprint
          obtain ⟨ambient, input, rfl, named, validated⟩ := granted_by_decision services decides footprint
          cases returned : (outcome services db (.decide ambient input)).isOk with
          | true =>
              have generated := decide_generates services ambient input validated db returned
              rw [named] at generated
              exact .inl fun _ => ⟨after, _, by simp [decidedStatuses], generated⟩
          | false => exact .inr ⟨⟨ambient, input, rfl, named⟩, before, after, returned⟩

/-! ## Runs -/

/-- Some decision of the run stored the badge of the request, and then failed. -/
def LeftHalfDecided (start : Database) (ops : List Operation) (id : Uuid) : Prop :=
  ∃ front op back, ops = front ++ op :: back ∧
    HalfDecided services id (runFrom (perform services) start front) op

theorem run_concluded (start : Database) (ops : List Operation) {id : Uuid}
    (concluded : Concluded start.toTables id) (decides : ∀ op ∈ ops, op.grantsDirectly = false) :
    Concluded (runFrom (perform services) start ops).toTables id ∨
    LeftHalfDecided services start ops id :=
  runFrom_unless (P := fun op => op.grantsDirectly = false)
    (I := fun db : Database => Concluded db.toTables id)
    (X := HalfDecided services id)
    (fun _ _ concluded decides => perform_concluded services concluded decides) concluded
    decides

/-! ## Cancellation -/

theorem evaluate_congr {now : Time} {dto : VerifyScanDto} {detail detail' : AccreditationDetail}
    (badge : detail'.accreditation = detail.accreditation) (zones : detail'.zoneIds = detail.zoneIds)
    (ownMatch : detail'.request.request.matchId = detail.request.request.matchId) :
    evaluate now detail' dto = evaluate now detail dto := by
  unfold evaluate
  rw [badge, zones, ownMatch]

theorem Endures.onlineVerdict_eq {s t : Database} (endures : Endures s t)
    (badges : t.accreditations = s.accreditations) (now : Time) (dto : VerifyScanDto) :
    onlineVerdict services t.toTables now dto = onlineVerdict services s.toTables now dto := by
  have lookup :
      t.accreditationByHash (services.hash dto.token) =
        s.accreditationByHash (services.hash dto.token) := by
    unfold Tables.accreditationByHash
    rw [badges]
  unfold onlineVerdict
  rw [lookup]
  cases found : s.accreditationByHash (services.hash dto.token) with
  | none => rfl
  | some a =>
      have found' := lookup.trans found
      obtain ⟨detail, joined, badge, zones, request⟩ :=
        accreditationDetail_found s (byHash_iff.mp found).1
      obtain ⟨detail', joined', badge', zones', request'⟩ :=
        accreditationDetail_found t (byHash_iff.mp found').1
      simp only [joined, joined']
      refine evaluate_congr (badge'.trans badge.symm) ?_ ?_
      · rw [zones, zones', endures.zones a.id (by simp [(byHash_iff.mp found).1])]
      · obtain ⟨r, kept, same⟩ := endures.request _ _ request
        cases kept.symm.trans request'
        exact same

theorem cancel_verdict (db : Database) (input : CancelRequestUseCase.CancelRequestInput) (now : Time)
    (dto : VerifyScanDto) :
    onlineVerdict services (perform services db (.cancel input)).toTables now dto =
      onlineVerdict services db.toTables now dto := by
  have badges : (perform services db (.cancel input)).accreditations = db.accreditations := by
    refine perform_relates services (R := fun s t : Database => t.accreditations = s.accreditations)
      (fun _ => rfl)
      (fun _ _ _ first second => second.trans first) fun stmt s member => ?_
    have unwritten : stmt.writesBadges = false := by
      have footprint : Operation.Footprint services (.cancel input) stmt :=
        events_footprint services db _ _ member
      rcases footprint with ⟨w, shape, _⟩ | ⟨event, shape⟩ | ⟨id, shape⟩ <;> rw [shape] <;> rfl
    rcases after_cases stmt s with same | ⟨reply, applied⟩
    · rw [same]
    · exact (apply_badges applied unwritten).1
  exact (run_endures services db [.cancel input]).onlineVerdict_eq services badges now dto

/-! ## What opens a gate -/

/-- The scan, run alone, lets the holder in. -/
def opensGate (db : Database) (ambient : Ambient) (dto : VerifyScanDto) (scannedById : Uuid) : Bool :=
  (outcome services db (.verifyScan ambient dto scannedById)).toOption.any Reply.isValid

theorem opensGate_fit {db : Database} {ambient : Ambient} {dto : VerifyScanDto} {agent : Uuid}
    (opened : opensGate services db ambient dto agent = true) :
    ∃ a, db.accreditationByHash (services.hash dto.token) = some a ∧ a.status = .active ∧
      db.hasBadge a.requestId = true := by
  unfold opensGate at opened
  cases returned : outcome services db (.verifyScan ambient dto agent) with
  | error why =>
      rw [returned] at opened
      cases opened
  | ok reply =>
      rw [returned] at opened
      obtain ⟨joined, verdict, judged, rfl, _⟩ := scan_returned services ambient dto agent returned
      obtain ⟨detail, rfl, valid, _⟩ := judged.fit (beq_iff_eq.mp opened)
      refine ⟨detail.accreditation, judged.matched.badge, (evaluate_valid.mp valid).1, ?_⟩
      have stored := (Table.find_some_mem judged.matched.badge).1
      unfold Tables.hasBadge
      rw [(Table.find_some_iff (selects_accreditationRequest _)).mpr ⟨stored, beq_self_eq_true _⟩]
      rfl

/-- A gate is opened by an active badge, whose request is past its decision or
cancelled since; the cancellation itself changes no verdict, a revocation ends them all. -/
theorem gate_opened (start : Database) (ops : List Operation)
    (concluded : ∀ id, Concluded start.toTables id)
    (decides : ∀ op ∈ ops, op.grantsDirectly = false) :
    (∀ ambient dto agent, opensGate services (runFrom (perform services) start ops) ambient dto agent = true →
      ∃ a, (runFrom (perform services) start ops).accreditationByHash (services.hash dto.token) = some a ∧
        a.status = .active ∧
        ((∃ status ∈ decidedStatuses, (runFrom (perform services) start ops).statusOf a.requestId = some status) ∨
          LeftHalfDecided services start ops a.requestId)) ∧
      (∀ input now dto,
        onlineVerdict services
            (perform services (runFrom (perform services) start ops) (.cancel input)).toTables now dto =
          onlineVerdict services (runFrom (perform services) start ops).toTables now dto) ∧
      ∀ before ambient id reason by_ after, ops = before ++ .revoke ambient id reason by_ :: after →
        (outcome services (runFrom (perform services) start before) (.revoke ambient id reason by_)).isOk = true →
        ∃ a, (runFrom (perform services) start ops).accreditationById id = some a ∧
          ∀ ambient dto agent, services.hash dto.token = a.qrTokenHash →
            opensGate services (runFrom (perform services) start ops) ambient dto agent = false := by
  refine ⟨fun ambient dto agent opened => ?_, cancel_verdict services _, ?_⟩
  · obtain ⟨a, badge, active, issued⟩ := opensGate_fit services opened
    refine ⟨a, badge, active, ?_⟩
    rcases run_concluded services start ops (concluded a.requestId) decides with past | half
    · exact .inl (past issued).status
    · exact .inr half
  · intro before ambient id reason by_ after split returned
    obtain ⟨a, found, revoked⟩ := revocation_lasts services start split returned
    refine ⟨a, found, fun ambient dto agent token => ?_⟩
    by_contra opened
    obtain ⟨b, badge, active, _⟩ := opensGate_fit services (by simpa using opened)
    have named := beq_iff_eq.mp (Table.find_some_mem found).2
    have byHash := byHash_iff.mpr ⟨show _ = some a by rw [named]; exact found, token.symm⟩
    -- The badge that opened the gate would be the revoked one.
    cases badge.symm.trans byHash
    cases active.symm.trans revoked

end Operations

/-! ## A cancelled dossier at the gate -/

/-- The validated dossier of the sample, withdrawn by its holder. -/
def dossierCancelled : List Operation :=
  dossierValidated ++
    [.cancel { requestId := "dossier", actorId := "user", requesterId := some "reporter" }]

/-- The slot went back to the quota, and the badge still opens the gate. -/
theorem cancelled_and_let_in :
    (runFrom (perform sampleServices) (sampleDatabase 1) dossierCancelled).statusOf "dossier" =
      some .cancelled ∧
      (runFrom (perform sampleServices) (sampleDatabase 1) dossierCancelled).consumedOf
        "final" "press" = 0 ∧
      opensGate sampleServices (runFrom (perform sampleServices) (sampleDatabase 1) dossierCancelled) {}
        { token := "token", matchId := "final" } "agent" = true := by
  decide

theorem gate_opened_cancelled :
    ∃ a, (runFrom (perform sampleServices) (sampleDatabase 1) dossierCancelled).accreditationByHash
        (sampleServices.hash "token") = some a ∧ a.status = .active ∧
      ((∃ status ∈ decidedStatuses,
          (runFrom (perform sampleServices) (sampleDatabase 1) dossierCancelled).statusOf a.requestId = some status) ∨
        LeftHalfDecided sampleServices (sampleDatabase 1) dossierCancelled a.requestId) :=
  (gate_opened sampleServices (sampleDatabase 1) dossierCancelled (fun _ => nofun) (by decide)).1 {}
    { token := "token", matchId := "final" } "agent" (by decide)

end AccreditationBackend
