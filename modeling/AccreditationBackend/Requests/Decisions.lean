import AccreditationBackend.Accreditations.Endurance
import AccreditationBackend.Quotas.Locking
import AccreditationBackend.Requests.LoneRuns
import AccreditationBackend.Requests.SlotRaces

/-! Decisions that fail half way.

A decision is refused before it writes anything, or it writes VALIDATED and then
generates the badge. Nothing takes back what was written when the generation
fails, and a request that is VALIDATED cannot be decided again.
-/

set_option autoImplicit false

namespace AccreditationBackend

open Foundation

def AccreditationRequest.decision (r : AccreditationRequest) :
    RequestStatus × Option Time × Option Uuid × Option String :=
      (r.status, r.decisionAt, r.decisionById, r.decisionReason)

/-- Nothing that a decision on the request writes differs between the two stores. -/
structure SameDecision (requestId : Uuid) (s t : Database) : Prop where
  request : (t.requestById requestId).map (·.decision) = (s.requestById requestId).map (·.decision)
  decisions : t.decisions = s.decisions
  consumed : ∀ matchId categoryId, t.consumedOf matchId categoryId = s.consumedOf matchId categoryId
  accreditations : t.accreditations = s.accreditations
  accreditationZones : t.accreditationZones = s.accreditationZones

theorem SameDecision.refl (requestId : Uuid) (s : Database) : SameDecision requestId s s :=
  ⟨rfl, rfl, fun _ _ => rfl, rfl, rfl⟩

/-- The slot that a validation takes is there: the quota has room, or an administrator forces it. -/
def Admits (db : Database) (input : DecideRequestUseCase.DecideRequestInput)
    (request : AccreditationRequest) : Prop :=
  if input.overrideQuota = true then input.actorIsAdmin = true
  else
    ∃ quota, db.quotaRow request.matchId request.categoryRequestedId = some quota ∧
      quota.consumed < quota.quotaTotal

/-- The validation passes its guards: the request may be validated, and the slot is there. -/
def Admitted (db : Database) (input : DecideRequestUseCase.DecideRequestInput) : Prop :=
  ∃ request, db.requestById input.requestId = some request ∧
    .validated ∈ requestTransitions request.status ∧
    Admits db input request

/-- Nothing stands against the badge of the request. -/
structure Generates (services : Services) (db : Database) (ambient : Ambient) (requestId : Uuid)
    (zoneIds : List Uuid) (assignedBoothNumber : Option Int) : Prop where
  served : ambient.outage = none
  numbered : ∃ attempt < 5, db.accreditations.find (·.number == candidate "ACC" ambient attempt) = none
  fresh : ∀ a ∈ db.accreditations.rows,
    a.id ≠ ambient.freshId ∧ a.requestId ≠ requestId ∧ a.qrTokenHash ≠ services.hash ambient.rawToken
  known : zoneIds ⊆ db.zones.column (·.id)
  distinct : zoneIds.Nodup
  fits : assignedBoothNumber.all fitsInteger = true

/-- A decision that throws leaves what it decides as it was. -/
def AllOrNothing (services : Services) (db : Database) (ambient : Ambient)
    (input : DecideRequestUseCase.DecideRequestInput) : Prop :=
  (outcome services db (.decide ambient input)).isOk = false →
    SameDecision input.requestId db (perform services db (.decide ambient input))

/-! ## The reservation -/

section Reservation

variable {db : Database} {matchId categoryId : Uuid}

theorem reserve_full {quota : MatchCategoryQuota} (row : db.quotaRow matchId categoryId = some quota)
    (full : ¬ quota.consumed < quota.quotaTotal) :
    handle (.reserve quota.id quota.quotaTotal) db = .ok ((0 : Nat), db) := by
  have found : db.quotas.find (·.id == quota.id) = some quota :=
    quotaById_stored (Table.find_some_mem row).1
  have none_ := count_reservable found quota.quotaTotal
  rw [if_neg full] at none_
  have missed : db.quotas.find (reservable quota.id quota.quotaTotal) = none := by
    rw [Table.count_selects (selects_reservable _ _)] at none_
    simpa using none_
  refine handle_iff.mpr ⟨rfl, ?_⟩
  simp only [Tables.apply, none_, Table.update_missing _ _ consume consume_key missed]

theorem reserveSlot_full {quota : MatchCategoryQuota} (row : db.quotaRow matchId categoryId = some quota)
    (full : ¬ quota.consumed < quota.quotaTotal) :
    ∃ result, (reserveSlot matchId categoryId).run handle db = (.ok result, db) ∧
      result.reserved = false := by
  refine ⟨⟨false, quota.overflowPolicy, quota.quotaTotal, quota.consumed⟩, ?_, rfl⟩
  simp only [reserveSlot, getQuotaRow_bind, Proc.run, row, orThrow_some_bind]
  rw [issue_bind_run (reserve_full row full)]
  simp only [Proc.run, row]
  rfl

theorem reserveSlot_taken {quota : MatchCategoryQuota} (row : db.quotaRow matchId categoryId = some quota)
    (room : quota.consumed < quota.quotaTotal) :
    ∃ result, (reserveSlot matchId categoryId).run handle db =
      (.ok result, handle.after (.reserve quota.id quota.quotaTotal) db) ∧ result.reserved = true := by
  have found : db.quotas.find (·.id == quota.id) = some quota :=
    quotaById_stored (Table.find_some_mem row).1
  have one := count_reservable found quota.quotaTotal
  rw [if_pos room] at one
  have kept := find_reserve quota.id quota.quotaTotal db (onKey_quotaOf matchId categoryId)
  rw [show db.quotas.find (quotaOf matchId categoryId) = some quota from row, Option.map_some] at kept
  have replied := handle_reserve quota.id quota.quotaTotal db
  rw [one] at replied
  simp only [reserveSlot, getQuotaRow_bind, Proc.run, row, orThrow_some_bind]
  rw [issue_bind_run replied]
  simp only [Proc.run, Tables.quotaRow, kept]
  exact ⟨_, rfl, rfl⟩

variable {input : DecideRequestUseCase.DecideRequestInput} {request : AccreditationRequest}

theorem reserveQuota_refused (refused : ¬ Admits db input request) :
    ∃ why, (DecideRequestUseCase.reserveQuotaOrThrow request input).run handle db = (.error why, db) := by
  unfold DecideRequestUseCase.reserveQuotaOrThrow
  by_cases forced : input.overrideQuota = true
  · simp only [Admits, forced, if_true] at refused ⊢
    rw [if_neg refused]
    exact ⟨_, rfl⟩
  · simp only [Admits, forced, Bool.false_eq_true, if_false, not_exists, not_and] at refused ⊢
    cases row : db.quotaRow request.matchId request.categoryRequestedId with
    | none =>
        simp only [reserveSlot, getQuotaRow_bind, Proc.read_bind, Proc.run, row]
        exact ⟨_, rfl⟩
    | some quota =>
        obtain ⟨result, ran, unreserved⟩ := reserveSlot_full row (refused quota row)
        rw [Proc.run_bind, ran]
        simp only [unreserved]
        exact ⟨_, rfl⟩

/-- The store that a granted reservation leaves: a forced one takes no slot. -/
def reservedFor (db : Database) (input : DecideRequestUseCase.DecideRequestInput)
    (request : AccreditationRequest) : Database :=
  if input.overrideQuota = true then db
  else
    match db.quotaRow request.matchId request.categoryRequestedId with
    | some quota => handle.after (.reserve quota.id quota.quotaTotal) db
    | none => db

theorem reserveQuota_granted (admits : Admits db input request) :
    (DecideRequestUseCase.reserveQuotaOrThrow request input).run handle db =
      (.ok (), reservedFor db input request) := by
  unfold DecideRequestUseCase.reserveQuotaOrThrow reservedFor
  by_cases forced : input.overrideQuota = true
  · simp only [Admits, forced, if_true] at admits ⊢
    rw [if_pos admits]
    rfl
  · simp only [Admits, forced, Bool.false_eq_true, if_false] at admits ⊢
    obtain ⟨quota, row, room⟩ := admits
    obtain ⟨result, ran, reserved⟩ := reserveSlot_taken row room
    rw [Proc.run_bind, ran, row]
    simp only [reserved]
    rfl

end Reservation

/-! ## The badge -/

section Generation

variable {A : Type} {ambient : Ambient} {db : Database}

def Returns (p : Op A) (db : Database) : Prop := (p.run handle db).1.isOk = true

theorem decide_isOk {services : Services} {ambient : Ambient}
    {input : DecideRequestUseCase.DecideRequestInput} {db : Database} :
    (outcome services db (.decide ambient input)).isOk = true ↔
      Returns (DecideRequestUseCase.execute services ambient input) db := by
  unfold Returns
  simp only [outcome, Operation.execute, reply_run]
  generalize (DecideRequestUseCase.execute services ambient input).run handle db = result
  obtain ⟨r, t⟩ := result
  cases r <;> rfl

theorem attempt_returns {step : GenerationStep} {f : Unit → Op A} :
    Returns (ambient.attempt step >>= f) db ↔ ambient.outage ≠ some step ∧ Returns (f ()) db := by
  unfold Ambient.attempt
  by_cases failed : ambient.outage = some step
  · rw [if_pos failed]
    exact iff_of_false (by simp [Returns, Proc.run, Except.isOk, Except.toBool])
      fun ⟨calm, _⟩ => calm failed
  · rw [if_neg failed]
    exact ⟨fun returned => ⟨failed, returned⟩, fun both => both.2⟩

theorem query_returns {B : Type} {look : Database → B} {f : B → Op A} :
    Returns (Proc.query look >>= f) db ↔ Returns (f (look db)) db := Iff.rfl

theorem issue_returns {stmt : Statement} {f : stmt.Reply → Op A} :
    Returns (issue stmt >>= f) db ↔ ∃ reply t, handle stmt db = .ok (reply, t) ∧ Returns (f reply) t := by
  rw [issue_bind, Returns, Proc.run]
  cases replied : handle stmt db with
  | ok result =>
      obtain ⟨reply, t⟩ := result
      simp [Returns]
  | error why => simp [Except.isOk, Except.toBool]

theorem publish_returns {event : DomainEvent} {f : Unit → Op A} :
    Returns (publish event >>= f) db ↔ Returns (f ()) (handle.after (.publish event) db) := by
  rw [Returns, publish_bind, Proc.run, publish_after]
  rfl

theorem generateUnique_run (ambient : Ambient) (db : Database) (label : String)
    (taken : Database → String → Bool) (why : DomainError) (left attempt : Nat) :
    ∃ r, (generateUnique label taken ambient why left attempt).run handle db = (r, db) ∧
      (r.isOk = true ↔ ∃ k < left, taken db (candidate label ambient (attempt + k)) = false) ∧
      ∀ number, r = .ok number → taken db number = false := by
  induction left generalizing attempt with
  | zero => exact ⟨_, rfl, by simp [Except.isOk, Except.toBool], by simp⟩
  | succ left ih =>
      simp only [generateUnique, Proc.query_bind, Proc.run]
      by_cases used : taken db (candidate label ambient attempt) = true
      · rw [if_pos used]
        obtain ⟨r, ran, free, untaken⟩ := ih (attempt + 1)
        refine ⟨r, ran, free.trans ⟨?_, ?_⟩, untaken⟩
        · rintro ⟨k, bound, found⟩
          exact ⟨k + 1, by omega, by rwa [Nat.add_right_comm, Nat.add_assoc] at found⟩
        · rintro ⟨k, bound, found⟩
          cases k with
          | zero => exact absurd (used.symm.trans found) (by decide)
          | succ k => exact ⟨k, by omega, by rwa [Nat.add_right_comm, Nat.add_assoc]⟩
      · rw [if_neg used]
        have free : taken db (candidate label ambient attempt) = false := by simpa using used
        refine ⟨_, rfl, iff_of_true rfl ⟨0, by omega, by simpa using free⟩, ?_⟩
        rintro number ⟨⟩
        exact free

theorem createAccreditation_accepted (row : Accreditation) {zoneIds : List Uuid}
    (request : row.requestId ∈ db.requests.column (·.id)) :
    (∃ result, handle (.createAccreditation row zoneIds) db = .ok result) ↔
      (∀ a ∈ db.accreditations.rows, a.id ≠ row.id ∧ a.requestId ≠ row.requestId ∧ a.number ≠ row.number ∧
        a.qrTokenHash ≠ row.qrTokenHash) ∧ zoneIds ⊆ db.zones.column (·.id) ∧ zoneIds.Nodup ∧
        row.assignedBoothNumber.all fitsInteger = true := by
  have badge : (∃ accreditations, db.accreditations.insert row = some accreditations) ↔
      ∀ a ∈ db.accreditations.rows, a.id ≠ row.id ∧ a.requestId ≠ row.requestId ∧ a.number ≠ row.number ∧
        a.qrTokenHash ≠ row.qrTokenHash := by
    rw [Table.insert_accepted]
    simp only [Keyed.Clash, Keyed.key, not_or, ne_eq]
  constructor
  · rintro ⟨⟨reply, db'⟩, created⟩
    have applied := handle_ok created
    simp only [Tables.apply, bind_ok, orFail_ok, require_ok, pure_ok, Prod.mk.injEq] at applied
    obtain ⟨_, _, accreditations, inserted, _, known, _, granted, _⟩ := applied
    have distinct := (Table.insertAll_accepted.mp ⟨_, granted⟩).2
    rw [List.pairwise_map] at distinct
    refine ⟨badge.mp ⟨_, inserted⟩, known, distinct.imp fun apart same => ?_,
      createAccreditation_fits row zoneIds ▸ handle_fits created⟩
    exact apart (by simp [Keyed.Clash, Keyed.key, same])
  · rintro ⟨free, known, distinct, fits⟩
    obtain ⟨accreditations, inserted⟩ := badge.mpr free
    -- The zones of other badges belong to badges that are stored.
    obtain ⟨accreditationZones, granted⟩ :
        ∃ t, db.accreditationZones.insertAll (zoneIds.map fun zoneId => ⟨row.id, zoneId⟩) = some t := by
      refine Table.insertAll_accepted.mpr
        ⟨fun a stored b member clash => ?_, List.pairwise_map.mpr (distinct.imp ?_)⟩
      · obtain ⟨zoneId, _, rfl⟩ := List.mem_map.mp member
        obtain ⟨badge, inside, named⟩ := List.mem_map.mp
          (db.referential.accreditationZone_accreditation (List.mem_map_of_mem (f := (·.accreditationId)) stored))
        exact (free badge inside).1 (named.trans (congrArg Prod.fst clash))
      · exact fun apart clash => apart (congrArg Prod.snd clash)
    have zones : ∀ zoneId ∈ zoneIds, zoneId ∈ db.zones.column (·.id) := fun _ member => known member
    exact ⟨_, handle_replies ((createAccreditation_fits row zoneIds).trans fits) (by
      rw [Tables.apply, require, if_pos request, inserted, require, if_pos zones, granted]; rfl)⟩

theorem generateAccreditation_returns {services : Services} (issuedAt : Time) {requestId : Uuid}
    {zoneIds : List Uuid} (options : GenerateAccreditationOptions) {request : AccreditationRequest}
    (found : db.requestById requestId = some request) :
    Returns (generateAccreditation services ambient issuedAt requestId zoneIds options) db ↔
      Generates services db ambient requestId zoneIds options.assignedBoothNumber := by
  obtain ⟨detail, joined, _⟩ := requestDetail_found db found
  obtain ⟨r, ran, free, untaken⟩ := generateUnique_run ambient db "ACC"
    (fun db number => (db.accreditations.find (·.number == number)).isSome)
    badgeNumberGenerationFailed 5 0
  simp only [Nat.zero_add, Option.isSome_eq_false_iff, Option.isNone_iff_eq_none] at free
  have stored : requestId ∈ db.requests.column (·.id) := by
    obtain ⟨inside, named⟩ := Table.find_some_mem found
    exact List.mem_map.mpr ⟨request, inside, beq_iff_eq.mp named⟩
  unfold generateAccreditation
  rw [attempt_returns, query_returns, joined, orThrow_some_bind, attempt_returns,
    generateBadgeNumber, Returns, Proc.run_bind, ran]
  cases r with
  | error why =>
      refine iff_of_false (fun ⟨_, _, returned⟩ => by cases returned) fun generates => ?_
      cases free.mpr generates.numbered
  | ok number =>
      dsimp only
      rw [← Returns, attempt_returns, attempt_returns, issue_returns]
      have unused : ∀ a ∈ db.accreditations.rows, a.number ≠ number := by
        have missing := untaken number rfl
        rw [Option.isSome_eq_false_iff, Option.isNone_iff_eq_none, Table.find_eq_none] at missing
        exact fun a inside same => by simpa [same] using missing a inside
      simp only [attempt_returns, publish_returns]
      constructor
      · rintro ⟨read, lookUp, sign, create, reply, t, created, qrCode, zones, pdf, put, _⟩
        obtain ⟨fresh, known, distinct, fits⟩ := (createAccreditation_accepted _ stored).mp ⟨_, created⟩
        refine ⟨?_, free.mp rfl, fun a inside => ?_, known, distinct, fits⟩
        · cases failed : ambient.outage with
          | none => rfl
          | some step => cases step <;> contradiction
        · obtain ⟨id, request, _, hash⟩ := fresh a inside
          exact ⟨id, request, hash⟩
      · rintro ⟨served, _, fresh, known, distinct, fits⟩
        have calm (step : GenerationStep) : ambient.outage ≠ some step := by simp [served]
        obtain ⟨⟨reply, t⟩, created⟩ := (createAccreditation_accepted {
            id := ambient.freshId
            requestId
            number
            status := .active
            qrTokenHash := services.hash ambient.rawToken
            issuedAt
            expiresAt := detail.matchRow.kickoffAt + defaultValidityDays * 86400000
            assignedBoothNumber := options.assignedBoothNumber
            assignedFlashSlot := options.assignedFlashSlot
            cryptoSignature := _ } stored).mpr
          ⟨fun a inside =>
            ⟨(fresh a inside).1, (fresh a inside).2.1, unused a inside, (fresh a inside).2.2⟩,
            known, distinct, fits⟩
        exact ⟨calm _, calm _, calm _, calm _, reply, t, created, calm _, calm _, calm _, calm _, rfl⟩

end Generation

/-! ## The decision -/

/-- The tables that a badge is checked against. -/
structure SameBadges (s t : Database) : Prop where
  accreditations : t.accreditations = s.accreditations
  zones : t.zones = s.zones

theorem SameBadges.refl (s : Database) : SameBadges s s := ⟨rfl, rfl⟩

theorem SameBadges.trans {s t u : Database} (first : SameBadges s t) (second : SameBadges t u) :
    SameBadges s u :=
  ⟨second.accreditations.trans first.accreditations, second.zones.trans first.zones⟩

theorem sameBadges_after {stmt : Statement} (other : stmt.writesBadges = false) (db : Database) :
    SameBadges db (handle.after stmt db) := by
  refine ⟨?_, (reference_kept stmt db).zones⟩
  rcases after_cases stmt db with same | ⟨reply, applied⟩
  · rw [same]
  · exact (apply_badges applied other).1

theorem SameBadges.generates {services : Services} {ambient : Ambient} {requestId : Uuid}
    {zoneIds : List Uuid} {booth : Option Int} {s t : Database} (same : SameBadges s t) :
    Generates services t ambient requestId zoneIds booth ↔ Generates services s ambient requestId zoneIds booth := by
  constructor
  · rintro ⟨served, numbered, fresh, known, distinct, fits⟩
    rw [same.accreditations] at numbered fresh
    rw [same.zones] at known
    exact ⟨served, numbered, fresh, known, distinct, fits⟩
  · rintro ⟨served, numbered, fresh, known, distinct, fits⟩
    rw [← same.accreditations] at numbered fresh
    rw [← same.zones] at known
    exact ⟨served, numbered, fresh, known, distinct, fits⟩

theorem quiet_run {A : Type} {p : Op A} (quiet : p.Issues Quiet) (db : Database) :
    (p.run handle db).2.requests = db.requests :=
  Proc.run_frame handle (R := fun s t : Database => t.requests = s.requests) (fun _ => rfl)
    (fun _ _ _ first second => second.trans first) (fun _ s quiet => requests_kept quiet s) p quiet db

section Decide

variable (services : Services) (ambient : Ambient) {input : DecideRequestUseCase.DecideRequestInput}
  {db : Database}
  {request : AccreditationRequest}

theorem decide_refused
    (refused : ∀ request, db.requestById input.requestId = some request →
      input.status.status ∈ requestTransitions request.status →
        input.status = .validated ∧ ¬ Admits db input request) :
    perform services db (.decide ambient input) = db := by
  simp only [perform, Operation.execute, reply_run, DecideRequestUseCase.execute]
  cases loaded : (db.requestById input.requestId).filter fun _ => true with
  | none => rw [loadRequest_refused loaded]
  | some request =>
      rw [loadRequest_passed loaded]
      by_cases allowed : input.status.status ∈ requestTransitions request.status
      · rw [guard_passed allowed]
        obtain ⟨validated, refusal⟩ := refused request (Option.filter_eq_some_iff.mp loaded).1 allowed
        obtain ⟨why, ran⟩ := reserveQuota_refused refusal
        simp only [validated, if_true]
        rw [Proc.run_bind, ran]
      · rw [guard_refused allowed]

theorem decisionWrite_returned (found : db.requestById input.requestId = some request) {s : Database}
    (same : s.requests = db.requests) :
    handle (.writeStatus (DecideRequestUseCase.decisionWrite ambient input request)) s =
      .ok ((DecideRequestUseCase.decisionWrite ambient input request).apply request,
        handle.after (.writeStatus (DecideRequestUseCase.decisionWrite ambient input request)) s) := by
  have named := beq_iff_eq.mp (Table.find_some_mem found).2
  refine handle_written ?_ rfl
  rw [Tables.requestById, same, ← found, ← named]
  rfl

theorem decide_rejected (found : db.requestById input.requestId = some request)
    (allowed : input.status.status ∈ requestTransitions request.status)
    (rejected : input.status = .rejected) :
    Returns (DecideRequestUseCase.execute services ambient input) db := by
  unfold Returns DecideRequestUseCase.execute
  rw [loadRequest_passed (by rw [found]; rfl), guard_passed allowed]
  simp only [rejected, reduceCtorEq, if_false]
  rw [issue_bind_run (decisionWrite_returned ambient found rfl)]
  exact publish_returns.mpr rfl

/-- The store in which the generation starts, after the decision is written and announced. -/
def decidedFor (ambient : Ambient) (input : DecideRequestUseCase.DecideRequestInput)
    (request : AccreditationRequest) (s : Database) : Database :=
  handle.after (.publish (.requestDecided request.id request.requesterId input.status.status input.reason
    input.zoneIds))
    (handle.after (.writeStatus (DecideRequestUseCase.decisionWrite ambient input request)) s)

theorem reservedFor_frame {R : Database → Database → Prop} (refl : ∀ s, R s s)
    (keeps : ∀ id limit s, R s (handle.after (.reserve id limit) s)) :
    R db (reservedFor db input request) := by
  unfold reservedFor
  split
  · exact refl db
  · split
    · exact keeps _ _ db
    · exact refl db

theorem reservedFor_requests : (reservedFor db input request).requests = db.requests :=
  reservedFor_frame (R := fun s t : Database => t.requests = s.requests) (fun _ => rfl)
    fun id limit s => requests_kept (show Quiet (.reserve id limit) from rfl) s

theorem decide_opened (found : db.requestById input.requestId = some request)
    (allowed : .validated ∈ requestTransitions request.status) (validated : input.status = .validated)
    (admits : Admits db input request) :
    (DecideRequestUseCase.execute services ambient input).run handle db =
      (do
        let _ ← generateAccreditation services ambient (ambient.clock 1) request.id input.zoneIds
          { assignedBoothNumber := input.assignedBoothNumber, assignedFlashSlot := input.assignedFlashSlot }
        issue (.writeStatus (DecideRequestUseCase.badgeWrite input request)) :
          Op AccreditationRequest).run handle
        (decidedFor ambient input request (reservedFor db input request)) := by
  have quiet : (reservedFor db input request).requests = db.requests := reservedFor_requests
  have permitted : input.status.status ∈ requestTransitions request.status := validated ▸ allowed
  unfold DecideRequestUseCase.execute decidedFor
  rw [loadRequest_passed (by rw [found]; rfl), guard_passed permitted]
  simp only [validated, if_true]
  rw [Proc.run_bind, reserveQuota_granted admits]
  dsimp only
  rw [issue_bind_run (decisionWrite_returned ambient found quiet), publish_bind, Proc.run, ← validated,
    publish_after]

/-- VALIDATED is written when the generation starts, and no badge has been touched. -/
theorem decide_admitted (found : db.requestById input.requestId = some request)
    (allowed : .validated ∈ requestTransitions request.status) (validated : input.status = .validated)
    (admits : Admits db input request) :
    ∃ t, SameBadges db t ∧ t.statusOf input.requestId = some .validated ∧
      (DecideRequestUseCase.execute services ambient input).run handle db =
        (do
          let _ ← generateAccreditation services ambient (ambient.clock 1) request.id input.zoneIds
            { assignedBoothNumber := input.assignedBoothNumber, assignedFlashSlot := input.assignedFlashSlot }
          issue (.writeStatus (DecideRequestUseCase.badgeWrite input request)) :
            Op AccreditationRequest).run handle t := by
  have named := beq_iff_eq.mp (Table.find_some_mem found).2
  have quiet : (reservedFor db input request).requests = db.requests := reservedFor_requests
  refine ⟨_, ?_, ?_, decide_opened services ambient found allowed validated admits⟩
  · have badges : SameBadges db (reservedFor db input request) :=
      reservedFor_frame SameBadges.refl fun _ _ s => sameBadges_after rfl s
    exact (badges.trans (sameBadges_after rfl _)).trans (sameBadges_after rfl _)
  · have stored := statusOf_written (decisionWrite_returned ambient found quiet)
    rw [decidedFor, statusOf_congr (requests_kept (publish_statement_quiet _) _)]
    simpa [DecideRequestUseCase.decisionWrite, DecideRequestUseCase.Decision.status, validated,
      named] using stored

theorem decide_returns (found : db.requestById input.requestId = some request)
    (allowed : .validated ∈ requestTransitions request.status)
    (validated : input.status = .validated) (admits : Admits db input request)
    (generates : Generates services db ambient input.requestId input.zoneIds input.assignedBoothNumber) :
    Returns (DecideRequestUseCase.execute services ambient input) db := by
  obtain ⟨t, same, stored, ran⟩ := decide_admitted services ambient found allowed validated admits
  have named := beq_iff_eq.mp (Table.find_some_mem found).2
  obtain ⟨r, present, _⟩ := statusOf_some stored
  rw [← named] at present generates
  have returned := (generateAccreditation_returns (ambient.clock 1)
    { assignedBoothNumber := input.assignedBoothNumber, assignedFlashSlot := input.assignedFlashSlot }
    present).mpr (same.generates.mpr generates)
  have kept :=
    quiet_run (generateAccreditation_quiet services ambient (ambient.clock 1) request.id input.zoneIds
      { assignedBoothNumber := input.assignedBoothNumber, assignedFlashSlot := input.assignedFlashSlot }) t
  rw [Returns, ran, Proc.run_bind]
  unfold Returns at returned
  generalize (generateAccreditation _ _ _ _ _ _).run handle t = result at returned kept
  obtain ⟨outcome, u⟩ := result
  cases outcome with
  | error why => cases returned
  | ok accreditation =>
      have there : u.requestById request.id = some r := by rw [Tables.requestById, kept]; exact present
      dsimp only
      rw [issue_run, handle_written (w := DecideRequestUseCase.badgeWrite input request) there rfl]
      rfl

theorem decide_stuck (found : db.requestById input.requestId = some request)
    (allowed : .validated ∈ requestTransitions request.status)
    (validated : input.status = .validated) (admits : Admits db input request)
    (stuck : ¬ Generates services db ambient input.requestId input.zoneIds input.assignedBoothNumber) :
    (outcome services db (.decide ambient input)).isOk = false ∧
      (perform services db (.decide ambient input)).statusOf input.requestId = some .validated := by
  obtain ⟨t, same, stored, ran⟩ := decide_admitted services ambient found allowed validated admits
  have named := beq_iff_eq.mp (Table.find_some_mem found).2
  obtain ⟨r, present, _⟩ := statusOf_some stored
  rw [← named] at present stuck
  have failed := (generateAccreditation_returns (ambient.clock 1)
    { assignedBoothNumber := input.assignedBoothNumber, assignedFlashSlot := input.assignedFlashSlot }
    present).not.mpr (same.generates.not.mpr stuck)
  have kept :=
    quiet_run (generateAccreditation_quiet services ambient (ambient.clock 1) request.id input.zoneIds
      { assignedBoothNumber := input.assignedBoothNumber, assignedFlashSlot := input.assignedFlashSlot }) t
  simp only [outcome, perform, Operation.execute, ran, Proc.run_bind]
  unfold Returns at failed
  generalize (generateAccreditation _ _ _ _ _ _).run handle t = result at failed kept
  obtain ⟨outcome, u⟩ := result
  cases outcome with
  | ok accreditation => exact absurd rfl failed
  | error why => exact ⟨rfl, (statusOf_congr kept input.requestId).trans stored⟩

end Decide

/-- A decision that throws leaves everything as it was, unless its badge cannot
be generated after its guards have passed. -/
theorem decision_all_or_nothing (services : Services) (db : Database) (ambient : Ambient)
    (input : DecideRequestUseCase.DecideRequestInput) :
    AllOrNothing services db ambient input ↔
      (input.status = .validated → Admitted db input →
        Generates services db ambient input.requestId input.zoneIds input.assignedBoothNumber) := by
  constructor
  · rintro whole validated ⟨request, found, allowed, admits⟩
    by_contra stuck
    obtain ⟨failed, stays⟩ := decide_stuck services ambient found allowed validated admits stuck
    have same := (whole failed).request
    obtain ⟨r, after, status⟩ := statusOf_some stays
    rw [after, found, Option.map_some, Option.map_some, Option.some.injEq] at same
    -- The table leads from VALIDATED to VALIDATED by no transition.
    have validated : request.status = .validated := (congrArg Prod.fst same).symm.trans status
    rw [validated] at allowed
    simp [requestTransitions] at allowed
  · intro generates failed
    have returned (ok : Returns (DecideRequestUseCase.execute services ambient input) db) : False := by
      rw [decide_isOk.mpr ok] at failed
      cases failed
    rw [decide_refused services ambient fun request found allowed => ?_]
    · exact .refl _ _
    · cases verdict : input.status with
      | rejected => exact (returned (decide_rejected services ambient found allowed verdict)).elim
      | validated =>
          refine ⟨rfl, fun admits => ?_⟩
          rw [verdict] at allowed
          exact returned (decide_returns services ambient found allowed verdict admits
            (generates verdict ⟨request, found, allowed, admits⟩))

/-- A validation for a zone that does not exist. -/
def toNowhere : DecideRequestUseCase.DecideRequestInput :=
  { requestId := "dossier", actorId := "agent", status := .validated, zoneIds := ["nowhere"] }

theorem validated_without_badge :
    ¬ AllOrNothing sampleServices (runFrom (perform sampleServices) (sampleDatabase 1) dossierComplete)
      { freshId := "badge" } toNowhere := by
  intro whole
  have same := (whole (by decide)).request
  exact absurd same (by decide)

end AccreditationBackend
