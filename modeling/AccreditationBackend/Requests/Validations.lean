import AccreditationBackend.Accreditations.Issuance

/-! The exact effect of a validation that returns.

The use case crosses the requests, the quotas and the badges. What it leaves is
read off its statements one table at a time.
-/

set_option autoImplicit false

namespace AccreditationBackend

open Foundation

theorem quotas_kept {stmt : Statement} (other : stmt.writesQuotas = false) (db : Database) :
    (handle.after stmt db).quotas = db.quotas := by
  rcases after_cases stmt db with same | ⟨reply, applied⟩
  · rw [same]
  · exact apply_quotas applied other

theorem badges_kept {stmt : Statement} (other : stmt.writesBadges = false) (db : Database) :
    (handle.after stmt db).accreditations = db.accreditations ∧
      (handle.after stmt db).accreditationZones = db.accreditationZones := by
  rcases after_cases stmt db with same | ⟨reply, applied⟩
  · rw [same]
    exact ⟨rfl, rfl⟩
  · exact apply_badges applied other

theorem decisions_kept {stmt : Statement} (other : stmt.decided = []) (db : Database) :
    (handle.after stmt db).decisions = db.decisions := by
  rcases decisions_step stmt db with appended | same
  · rw [appended, other, List.append_nil]
  · rw [same]

theorem matchRow_kept {stmt : Statement} (other : ∀ id dto, stmt ≠ .updateMatch id dto) (db : Database)
    (id : Uuid) :
    (handle.after stmt db).matchRows.find (·.id == id) = db.matchRows.find (·.id == id) := by
  have step := match_step stmt db id
  generalize db.matchRows.find (·.id == id) = a at step ⊢
  generalize (handle.after stmt db).matchRows.find (·.id == id) = b at step ⊢
  cases step with
  | updated known => exact absurd rfl (other _ _)
  | unchanged => rfl

theorem decisions_replied {stmt : Statement} {db t : Database} {reply : stmt.Reply}
    (replied : handle stmt db = .ok (reply, t)) : t.decisions = db.decisions ++ stmt.decided :=
  apply_decisions (handle_ok replied)

theorem quotaRow_other {db : Database} {matchId categoryId : Uuid} {quota q : MatchCategoryQuota}
    (row : db.quotaRow matchId categoryId = some quota) {pair : Uuid × Uuid}
    (other : pair ≠ (matchId, categoryId)) (found : db.quotaRow pair.1 pair.2 = some q) :
    q.id ≠ quota.id := by
  intro same
  obtain ⟨inside, hit⟩ := Table.find_some_mem row
  obtain ⟨inside', hit'⟩ := Table.find_some_mem found
  obtain rfl : q = quota := Table.eq_of_clash inside' inside (.inl same)
  simp only [quotaOf, Bool.and_eq_true, beq_iff_eq] at hit hit'
  exact other (Prod.ext (hit'.1.symm.trans hit.1) (hit'.2.symm.trans hit.2))

theorem quotaRow_reserved {db : Database} {matchId categoryId : Uuid} {quota : MatchCategoryQuota}
    (row : db.quotaRow matchId categoryId = some quota) (room : quota.consumed < quota.quotaTotal) :
    (handle.after (.reserve quota.id quota.quotaTotal) db).quotaRow matchId categoryId =
      some (consume quota) ∧
      ∀ pair : Uuid × Uuid, pair ≠ (matchId, categoryId) →
        (handle.after (.reserve quota.id quota.quotaTotal) db).quotaRow pair.1 pair.2 =
          db.quotaRow pair.1 pair.2 := by
  have reserved (m c : Uuid) := find_reserve quota.id quota.quotaTotal db (onKey_quotaOf m c)
  constructor
  · have found : db.quotas.find (quotaOf matchId categoryId) = some quota := row
    rw [Tables.quotaRow, reserved, found]
    simp [reservable, room]
  · intro pair other
    rw [Tables.quotaRow, reserved, ← Tables.quotaRow]
    cases found : db.quotaRow pair.1 pair.2 with
    | none => rfl
    | some q =>
        have apart := quotaRow_other row other found
        simp [reservable, apart]

theorem issue_returned {stmt : Statement} {db t : Database} {reply : stmt.Reply} :
    (issue stmt).run handle db = (.ok reply, t) ↔ handle stmt db = .ok (reply, t) := by
  simp only [issue, Proc.command, Proc.run]
  cases handle stmt db with
  | ok result =>
      obtain ⟨reply', t'⟩ := result
      simp
  | error why => simp

/-- The badge that a decision has generated for its request. -/
def decidedBadge (services : Services) (ambient : Ambient)
    (input : DecideRequestUseCase.DecideRequestInput) (request : AccreditationRequest)
    (detail : RequestDetail) (number : String) : Accreditation :=
  issuedBadge services ambient (ambient.clock 1) request.id input.zoneIds
    { assignedBoothNumber := input.assignedBoothNumber, assignedFlashSlot := input.assignedFlashSlot }
    detail number

/-- The statements of a validation that returned, with the stores between them. -/
structure Validation (services : Services) (ambient : Ambient)
    (input : DecideRequestUseCase.DecideRequestInput) (db t : Database)
    (reply request : AccreditationRequest)
    (detail : RequestDetail) (number : String) (issued : Database) : Prop where
  found : db.requestById input.requestId = some request
  allowed : .validated ∈ requestTransitions request.status
  admits : Admits db input request
  joined : (decidedFor ambient input request (reservedFor db input request)).requestDetail request.id =
    some detail
  created : handle (.createAccreditation (decidedBadge services ambient input request detail number)
      input.zoneIds) (decidedFor ambient input request (reservedFor db input request)) =
    .ok (decidedBadge services ambient input request detail number, issued)
  generated : handle (.writeStatus (DecideRequestUseCase.badgeWrite input request))
      (handle.after (.publish (.accreditationGenerated ambient.freshId request.id detail.request.requesterId))
        issued) = .ok (reply, t)

section Returned

variable {services : Services} {ambient : Ambient} {input : DecideRequestUseCase.DecideRequestInput}
  {db t : Database} {reply : AccreditationRequest}

theorem decide_validated (validated : input.status = .validated)
    (ran : (DecideRequestUseCase.execute services ambient input).run handle db = (.ok reply, t)) :
    ∃ request detail number issued,
      Validation services ambient input db t reply request detail number issued := by
  cases loaded : (db.requestById input.requestId).filter fun _ => true with
  | none =>
      unfold DecideRequestUseCase.execute at ran
      rw [loadRequest_refused loaded] at ran
      cases ran
  | some request =>
      have found := (Option.filter_eq_some_iff.mp loaded).1
      by_cases allowed : .validated ∈ requestTransitions request.status
      · by_cases admits : Admits db input request
        · rw [decide_opened services ambient found allowed validated admits, Proc.run_bind] at ran
          rcases generateAccreditation_cases services ambient (ambient.clock 1) request.id input.zoneIds
            { assignedBoothNumber := input.assignedBoothNumber, assignedFlashSlot := input.assignedFlashSlot }
            (decidedFor ambient input request (reservedFor db input request)) with
            ⟨why, failed⟩ | ⟨detail, number, issued, joined, created, ⟨why, failed⟩ | returned⟩
          · rw [failed] at ran
            cases ran
          · rw [failed] at ran
            cases ran
          · rw [returned] at ran
            exact ⟨request, detail, number, issued, found, allowed, admits, joined, created,
              issue_returned.mp ran⟩
        · obtain ⟨why, refused⟩ := reserveQuota_refused admits
          unfold DecideRequestUseCase.execute at ran
          rw [loadRequest_passed loaded, guard_passed (validated ▸ allowed)] at ran
          simp only [validated, if_true] at ran
          rw [Proc.run_bind, refused] at ran
          cases ran
      · unfold DecideRequestUseCase.execute at ran
        rw [loadRequest_passed loaded, guard_refused (validated ▸ allowed)] at ran
        cases ran

variable {request : AccreditationRequest} {detail : RequestDetail} {number : String} {issued : Database}
  (run : Validation services ambient input db t reply request detail number issued)

include run

theorem Validation.named : request.id = input.requestId :=
  beq_iff_eq.mp (Table.find_some_mem run.found).2

/-- The row of the request after both of its writes. -/
def generatedRow (ambient : Ambient) (input : DecideRequestUseCase.DecideRequestInput)
    (r : AccreditationRequest) : AccreditationRequest :=
  { r with
    status := .badgeGenerated
    decisionAt := some (ambient.clock 0)
    decisionById := some input.actorId
    decisionReason := input.reason.or r.decisionReason }

theorem Validation.decisionWritten :
    handle (.writeStatus (DecideRequestUseCase.decisionWrite ambient input request))
      (reservedFor db input request) =
      .ok ((DecideRequestUseCase.decisionWrite ambient input request).apply request,
        handle.after (.writeStatus (DecideRequestUseCase.decisionWrite ambient input request))
          (reservedFor db input request)) :=
  decisionWrite_returned ambient run.found reservedFor_requests

theorem Validation.requests (id : Uuid) :
    t.requestById id =
      (db.requestById id).map fun r => if r.id == request.id then generatedRow ambient input
        r else r := by
  have before :
      issued.requests = (decidedFor ambient input request (reservedFor db input request)).requests := by
    rw [← handle.after_ok run.created]
    exact requests_kept (show Quiet (.createAccreditation _ _) from rfl) _
  rw [requestById_written run.generated, Tables.requestById,
    requests_kept (publish_statement_quiet _), before, decidedFor,
    requests_kept (publish_statement_quiet _)]
  have written := requestById_written run.decisionWritten id
  rw [Tables.requestById] at written
  rw [written, Tables.requestById, reservedFor_requests, ← Tables.requestById, Option.map_map]
  congr 1
  funext r
  by_cases named : r.id = request.id
  · simp [named, generatedRow, DecideRequestUseCase.decisionWrite, DecideRequestUseCase.badgeWrite,
      StatusWrite.apply]
  · simp [named, DecideRequestUseCase.decisionWrite, DecideRequestUseCase.badgeWrite]

theorem Validation.quotas : t.quotas = (reservedFor db input request).quotas := by
  rw [← handle.after_ok run.generated, quotas_kept rfl, quotas_kept rfl, ← handle.after_ok run.created,
    quotas_kept rfl, decidedFor, quotas_kept rfl, quotas_kept rfl]

theorem Validation.complements : t.complements = db.complements := by
  have reserved : (reservedFor db input request).complements = db.complements :=
    reservedFor_frame (R := fun s t : Database => t.complements = s.complements) (fun _ => rfl)
      fun _ _ => complements_kept rfl
  rw [← handle.after_ok run.generated, complements_kept rfl, complements_kept rfl,
    ← handle.after_ok run.created, complements_kept rfl, decidedFor, complements_kept rfl,
      complements_kept rfl,
    reserved]

theorem Validation.badges :
    t.accreditations.rows = db.accreditations.rows ++
        [decidedBadge services ambient input request detail number] ∧
      t.accreditationZones.rows = db.accreditationZones.rows ++ input.zoneIds.map fun zoneId =>
        ⟨ambient.freshId, zoneId⟩ := by
  have reserved : (reservedFor db input request).accreditations = db.accreditations ∧
      (reservedFor db input request).accreditationZones = db.accreditationZones :=
    reservedFor_frame (R := fun s t : Database => t.accreditations = s.accreditations ∧
      t.accreditationZones = s.accreditationZones) (fun _ => ⟨rfl, rfl⟩) fun _ _ => badges_kept rfl
  have opened : (decidedFor ambient input request (reservedFor db input request)).accreditations =
      db.accreditations ∧
      (decidedFor ambient input request (reservedFor db input request)).accreditationZones =
        db.accreditationZones := by
    rw [decidedFor, (badges_kept rfl _).1, (badges_kept rfl _).1, (badges_kept rfl _).2,
      (badges_kept rfl _).2]
    exact reserved
  have created := badge_created run.created
  rw [opened.1, opened.2] at created
  rw [← handle.after_ok run.generated, (badges_kept rfl _).1, (badges_kept rfl _).1,
    (badges_kept rfl _).2, (badges_kept rfl _).2]
  exact created

theorem Validation.granted : t.zoneIdsOf ambient.freshId = input.zoneIds := by
  have same : t.accreditationZones = issued.accreditationZones := by
    rw [← handle.after_ok run.generated, (badges_kept rfl _).2, (badges_kept rfl _).2]
  rw [Tables.zoneIdsOf, same]
  exact zoneIdsOf_created run.created

theorem Validation.kickoff :
    ∃ m, db.matchRows.find (·.id == request.matchId) = some m ∧
      (decidedBadge services ambient input request detail number).expiresAt =
        m.kickoffAt + defaultValidityDays * 86400000 := by
  obtain ⟨loaded, matchFound⟩ := requestDetail_parts run.joined
  have written := requestById_written run.decisionWritten request.id
  have own : db.requestById request.id = some request := run.named ▸ run.found
  have same : detail.request.matchId = request.matchId := by
    rw [decidedFor, Tables.requestById, requests_kept (publish_statement_quiet _),
      ← Tables.requestById, written, Tables.requestById, reservedFor_requests, ← Tables.requestById,
      own, Option.map_some, Option.some.injEq] at loaded
    rw [← loaded]
    split <;> rfl
  have kept : (reservedFor db input request).matchRows.find (·.id == request.matchId) =
      db.matchRows.find (·.id == request.matchId) :=
    reservedFor_frame (R := fun s t : Database => t.matchRows.find (·.id == request.matchId) =
      s.matchRows.find (·.id == request.matchId)) (fun _ => rfl)
      fun _ _ s => matchRow_kept (fun _ _ => Statement.noConfusion) s _
  refine ⟨detail.matchRow, ?_, rfl⟩
  rw [same, decidedFor, matchRow_kept (fun _ _ => Statement.noConfusion),
    matchRow_kept (fun _ _ => Statement.noConfusion), kept] at matchFound
  exact matchFound

theorem Validation.decisions :
    t.decisions = db.decisions ++ [
      ⟨request.id, input.actorId, request.status, input.status.status, input.reason⟩,
      ⟨request.id, input.actorId, .validated, .badgeGenerated, none⟩] := by
  have reserved : (reservedFor db input request).decisions = db.decisions :=
    reservedFor_frame (R := fun s t : Database => t.decisions = s.decisions) (fun _ => rfl)
      fun _ _ => decisions_kept rfl
  rw [decisions_replied run.generated, decisions_kept rfl, ← handle.after_ok run.created,
    decisions_kept rfl, decidedFor, decisions_kept rfl, decisions_replied run.decisionWritten,
    reserved, List.append_assoc]
  rfl

theorem Validation.slot (plain : input.overrideQuota = false) :
    ∃ quota, db.quotaRow request.matchId request.categoryRequestedId = some quota ∧
      quota.consumed < quota.quotaTotal ∧
      t.quotaRow request.matchId request.categoryRequestedId = some (consume quota) ∧
      ∀ pair : Uuid × Uuid, pair ≠ (request.matchId, request.categoryRequestedId) →
        t.quotaRow pair.1 pair.2 = db.quotaRow pair.1 pair.2 := by
  have admits := run.admits
  simp only [Admits, plain, Bool.false_eq_true, if_false] at admits
  obtain ⟨quota, row, room⟩ := admits
  have reserved :
      reservedFor db input request = handle.after (.reserve quota.id quota.quotaTotal) db := by
    simp only [reservedFor, plain, Bool.false_eq_true, if_false, row]
  have taken := quotaRow_reserved row room
  rw [← reserved] at taken
  refine ⟨quota, row, room, ?_⟩
  simpa only [Tables.quotaRow, run.quotas] using taken

end Returned

/-- What a validation without override changes, and that it changes nothing else. -/
structure ValidatedExactly (ambient : Ambient) (input : DecideRequestUseCase.DecideRequestInput)
    (db t : Database) (request : AccreditationRequest) (quota : MatchCategoryQuota)
    (badge : Accreditation) :
    Prop where
  found : db.requestById input.requestId = some request
  ready : request.status = .complete ∨ request.status = .pendingValidation
  generated : t.requestById input.requestId = some { request with
    status := .badgeGenerated
    decisionAt := some (ambient.clock 0)
    decisionById := some input.actorId
    decisionReason := input.reason.or request.decisionReason }
  otherRequests : ∀ id, id ≠ input.requestId → t.requestById id = db.requestById id
  row : db.quotaRow request.matchId request.categoryRequestedId = some quota
  room : quota.consumed < quota.quotaTotal
  taken : t.quotaRow request.matchId request.categoryRequestedId =
    some { quota with consumed := quota.consumed + 1 }
  otherQuotas : ∀ matchId categoryId,
    (matchId, categoryId) ≠ (request.matchId, request.categoryRequestedId) →
    t.quotaRow matchId categoryId = db.quotaRow matchId categoryId
  issued : t.accreditations.rows = db.accreditations.rows ++ [badge]
  holder : badge.requestId = input.requestId
  active : badge.status = .active
  expires : ∃ m, db.matchRows.find (·.id == request.matchId) = some m ∧
    badge.expiresAt = m.kickoffAt + 86400000
  zones : t.accreditationZones.rows = db.accreditationZones.rows ++
    input.zoneIds.map fun zoneId => ⟨badge.id, zoneId⟩
  granted : t.zoneIdsOf badge.id = input.zoneIds
  decisions : t.decisions = db.decisions ++ [
    ⟨input.requestId, input.actorId, request.status, .validated, input.reason⟩,
    ⟨input.requestId, input.actorId, .validated, .badgeGenerated, none⟩]
  complements : t.complements = db.complements

theorem validated_entered {source : RequestStatus} (allowed : .validated ∈ requestTransitions source) :
    source = .complete ∨ source = .pendingValidation := by
  cases source <;> simp [requestTransitions] at allowed ⊢

/-- A validation without override that returns takes one slot, adds one badge and
two decisions, moves its request to BADGE_GENERATED, and does nothing else. -/
theorem validation_exact (services : Services) (ambient : Ambient) (db : Database)
    (input : DecideRequestUseCase.DecideRequestInput) (validated : input.status = .validated)
    (plain : input.overrideQuota = false)
    (returned : (outcome services db (.decide ambient input)).isOk = true) :
    ∃ request quota badge, ValidatedExactly ambient input db
      (perform services db (.decide ambient input)) request quota badge := by
  obtain ⟨reply, ran⟩ := decide_returned returned
  obtain ⟨request, detail, number, issued, run⟩ := decide_validated validated ran
  obtain ⟨quota, row, room, taken, others⟩ := run.slot plain
  have decisions := run.decisions
  rw [run.named, validated] at decisions
  refine ⟨request, quota, decidedBadge services ambient input request detail number, {
    found := run.found
    ready := validated_entered run.allowed
    generated := ?_
    otherRequests := fun id other => ?_
    row, room, taken
    otherQuotas := fun matchId categoryId other => others (matchId, categoryId) other
    issued := run.badges.1
    holder := run.named
    active := rfl
    expires := run.kickoff
    zones := run.badges.2
    granted := run.granted
    decisions
    complements := run.complements }⟩
  · rw [run.requests, run.found]
    simp [generatedRow]
  · rw [run.requests]
    cases found : db.requestById id with
    | none => rfl
    | some r =>
        have named : r.id = id := beq_iff_eq.mp (Table.find_some_mem found).2
        have apart : r.id ≠ request.id := by rw [named, run.named]; exact other
        simp [apart]

theorem decide_leaves (services : Services) (ambient : Ambient) {db : Database}
    {input : DecideRequestUseCase.DecideRequestInput} {request : AccreditationRequest}
    (found : db.requestById input.requestId = some request)
    (allowed : .validated ∈ requestTransitions request.status) (validated : input.status = .validated)
    (admits : Admits db input request) :
    ∃ status, (perform services db (.decide ambient input)).statusOf input.requestId = some status ∧
      (status = .validated ∨ status = .badgeGenerated) := by
  by_cases generates : Generates services db ambient input.requestId input.zoneIds input.assignedBoothNumber
  · have returned := decide_returns services ambient found allowed validated admits generates
    obtain ⟨reply, ran⟩ := decide_returned (decide_isOk.mpr returned)
    obtain ⟨request, detail, number, issued, run⟩ := decide_validated validated ran
    refine ⟨.badgeGenerated, ?_, .inr rfl⟩
    rw [Tables.statusOf, run.requests, run.found]
    simp [generatedRow]
  · exact ⟨_, (decide_stuck services ambient found allowed validated admits generates).2, .inl rfl⟩

/-- The dossier of the sample, validated for the stand. -/
theorem validation_exact_stand :
    ∃ request quota badge, ValidatedExactly { freshId := "badge", rawToken := "badge" }
      { requestId := "dossier", actorId := "agent", status := .validated, zoneIds := ["stand"] }
      awaitingDecision
      (perform sampleServices awaitingDecision (validate "badge")) request quota badge :=
  validation_exact sampleServices { freshId := "badge", rawToken := "badge" } awaitingDecision
    { requestId := "dossier", actorId := "agent", status := .validated, zoneIds := ["stand"] } rfl rfl
    (by decide)

end AccreditationBackend
