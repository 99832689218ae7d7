import AccreditationBackend.Requests.Cancellations

/-! Validations forced by an administrator.

The override is looked at before the quota is, so the policy of the quota has no
say in it. And a forced validation takes no slot, where the cancellation after
it gives one back.
-/

set_option autoImplicit false

namespace AccreditationBackend

open Foundation

/-! ## The policy -/

/-- A validation of a request that may be validated, whose quota is full. -/
structure MeetsFull (db : Database) (input : DecideRequestUseCase.DecideRequestInput)
    (request : AccreditationRequest) (quota : MatchCategoryQuota) : Prop where
  validated : input.status = .validated
  found : db.requestById input.requestId = some request
  allowed : .validated ∈ requestTransitions request.status
  row : db.quotaRow request.matchId request.categoryRequestedId = some quota
  full : quota.quotaTotal ≤ quota.consumed

/-- A full quota lets a validation through by an administrator's override under
the policy PRIORITY; any other policy turns the validation down untouched. -/
structure PolicyRespected (services : Services) (db : Database) (ambient : Ambient)
    (input : DecideRequestUseCase.DecideRequestInput) (quota : MatchCategoryQuota) : Prop where
  returned : (outcome services db (.decide ambient input)).isOk = true →
    input.overrideQuota = true ∧ input.actorIsAdmin = true ∧ quota.overflowPolicy = .priority
  refused : quota.overflowPolicy ≠ .priority →
    (∃ why, outcome services db (.decide ambient input) = .error (.domain why) ∧
        why.code = "QUOTA_EXCEEDED") ∧
      perform services db (.decide ambient input) = db

section Policy

variable (services : Services) (ambient : Ambient) {db : Database}
  {input : DecideRequestUseCase.DecideRequestInput} {request : AccreditationRequest}
  {quota : MatchCategoryQuota}

theorem quotaExceeded_code (reservation : ReservationResult) :
    (DecideRequestUseCase.quotaExceeded reservation).code = "QUOTA_EXCEEDED" := by
  unfold DecideRequestUseCase.quotaExceeded
  split <;> rfl

theorem MeetsFull.exceeded (full : MeetsFull db input request quota)
    (plain : input.overrideQuota = false) :
    ∃ reservation, outcome services db (.decide ambient input) =
        .error (.domain (DecideRequestUseCase.quotaExceeded reservation)) ∧
      perform services db (.decide ambient input) = db := by
  obtain ⟨reservation, ran, unreserved⟩ := reserveSlot_full full.row (by have := full.full; omega)
  refine ⟨reservation, ?_⟩
  have permitted : input.status.status ∈ requestTransitions request.status :=
    full.validated ▸ full.allowed
  simp only [outcome, perform, Operation.execute, reply_run, DecideRequestUseCase.execute]
  rw [loadRequest_passed (by rw [full.found]; rfl), guard_passed permitted]
  simp only [full.validated, if_true]
  rw [DecideRequestUseCase.reserveQuotaOrThrow, if_neg (by simp [plain]), Proc.run_bind,
    Proc.run_bind, ran]
  simp only [unreserved, Bool.false_eq_true, if_false]
  exact ⟨rfl, rfl⟩

theorem MeetsFull.forbidden (full : MeetsFull db input request quota)
    (forced : input.overrideQuota = true) (staff : input.actorIsAdmin = false) :
    outcome services db (.decide ambient input) =
      .error (.domain DecideRequestUseCase.forbiddenScope) := by
  have permitted : input.status.status ∈ requestTransitions request.status :=
    full.validated ▸ full.allowed
  simp only [outcome, Operation.execute, reply_run, DecideRequestUseCase.execute]
  rw [loadRequest_passed (by rw [full.found]; rfl), guard_passed permitted]
  simp only [full.validated, if_true, DecideRequestUseCase.reserveQuotaOrThrow, forced, staff,
    Bool.false_eq_true, if_false]
  rfl

theorem MeetsFull.forced (full : MeetsFull db input request quota) (forced : input.overrideQuota = true) :
    ¬ ((∃ why, outcome services db (.decide ambient input) = .error (.domain why) ∧
        why.code = "QUOTA_EXCEEDED") ∧
      perform services db (.decide ambient input) = db) := by
  rintro ⟨⟨why, failed, code⟩, same⟩
  by_cases admin : input.actorIsAdmin = true
  · have admits : Admits db input request := by simp only [Admits, forced, if_true, admin]
    obtain ⟨status, stored, past⟩ :=
      decide_leaves services ambient full.found full.allowed full.validated admits
    rw [same, Tables.statusOf, full.found, Option.map_some, Option.some.injEq] at stored
    rcases validated_entered full.allowed with before | before <;> rw [before] at stored <;>
      simp [← stored] at past
  · rw [full.forbidden services ambient forced (by simpa using admin)] at failed
    cases failed
    simp [DecideRequestUseCase.forbiddenScope] at code

end Policy

/-- The policy of a full quota is respected exactly by the validations that do
not override it, and by those that meet the policy PRIORITY. -/
theorem override_policy (services : Services) (db : Database) (ambient : Ambient)
    (input : DecideRequestUseCase.DecideRequestInput) :
    (∀ request quota, MeetsFull db input request quota →
      PolicyRespected services db ambient input quota) ↔
      ∀ request quota, MeetsFull db input request quota →
        quota.overflowPolicy = .priority ∨ input.overrideQuota = false := by
  refine forall_congr' fun request => forall_congr' fun quota => imp_congr_right fun full => ?_
  constructor
  · intro respected
    by_contra neither
    obtain ⟨other, forced⟩ := not_or.mp neither
    exact full.forced services ambient (by simpa using forced) (respected.refused other)
  · intro permitted
    by_cases plain : input.overrideQuota = false
    · obtain ⟨reservation, failed, same⟩ := full.exceeded services ambient plain
      refine ⟨fun returned => ?_, fun _ => ⟨⟨_, failed, quotaExceeded_code reservation⟩, same⟩⟩
      rw [failed] at returned
      cases returned
    · have priority := permitted.resolve_right plain
      have forced : input.overrideQuota = true := by simpa using plain
      refine ⟨fun returned => ⟨forced, ?_, priority⟩, fun other => absurd priority other⟩
      by_contra staff
      rw [full.forbidden services ambient forced (by simpa using staff)] at returned
      cases returned

/-- The administrator's validation by force. -/
def forcedValidation : DecideRequestUseCase.DecideRequestInput where
  requestId := "dossier"
  actorId := "chief"
  actorIsAdmin := true
  status := .validated
  overrideQuota := true

/-- A dossier ready for its decision, without a slot left and under MANUAL_ARBITRATION. -/
def awaitingSlot : Database := runFrom (perform sampleServices) (sampleDatabase 0) dossierComplete

theorem override_without_priority :
    ¬ ∀ request quota, MeetsFull awaitingSlot forcedValidation request quota →
      PolicyRespected sampleServices awaitingSlot { freshId := "badge" } forcedValidation quota := by
  intro respected
  have forced := (respected ((awaitingSlot.requestById "dossier").get (by decide))
    { id := "quota", matchId := "final", categoryId := "press", quotaTotal := 0 }
    ⟨rfl, by decide, by decide, by decide, by decide⟩).returned (by decide)
  cases forced.2.2

/-! ## The cancellation after it -/

/-- The cancellation of a request right after its validation succeeds, and leaves
every quota as it was before both. -/
structure CancelsOut (services : Services) (db : Database) (ambient : Ambient)
    (input : DecideRequestUseCase.DecideRequestInput) (cancel : CancelRequestUseCase.CancelRequestInput) :
    Prop where
  returned : (outcome services (perform services db (.decide ambient input)) (.cancel cancel)).isOk = true
  quotas : ∀ matchId categoryId,
    (perform services (perform services db (.decide ambient input)) (.cancel cancel)).quotaRow
    matchId categoryId =
      db.quotaRow matchId categoryId

section Release

variable {db : Database} {matchId categoryId : Uuid} {quota : MatchCategoryQuota}

theorem quotaRow_released (row : db.quotaRow matchId categoryId = some quota) :
    (handle.after (.release quota.id) db).quotaRow matchId categoryId = some (giveBack quota) ∧
      ∀ pair : Uuid × Uuid, pair ≠ (matchId, categoryId) →
        (handle.after (.release quota.id) db).quotaRow pair.1 pair.2 = db.quotaRow pair.1 pair.2 := by
  have stored : db.quotas.find (·.id == quota.id) = some quota :=
    quotaById_stored (Table.find_some_mem row).1
  have released (m c : Uuid) := find_release stored (onKey_quotaOf m c)
  constructor
  · have found : db.quotas.find (quotaOf matchId categoryId) = some quota := row
    rw [Tables.quotaRow, released, found]
    simp
  · intro pair other
    rw [Tables.quotaRow, released, ← Tables.quotaRow]
    cases found : db.quotaRow pair.1 pair.2 with
    | none => rfl
    | some q =>
        have apart := quotaRow_other row other found
        simp [apart]

theorem quotaRow_givenBack (row : db.quotaRow matchId categoryId = some quota) :
    (givenBack quota db).quotaRow matchId categoryId =
        some (if quota.consumed ≤ 0 then quota else giveBack quota) ∧
      ∀ pair : Uuid × Uuid, pair ≠ (matchId, categoryId) →
        (givenBack quota db).quotaRow pair.1 pair.2 = db.quotaRow pair.1 pair.2 := by
  unfold givenBack
  split
  · exact ⟨row, fun _ _ => rfl⟩
  · exact quotaRow_released row

end Release

section Undone

variable {services : Services} {ambient : Ambient} {input : DecideRequestUseCase.DecideRequestInput}
  {cancel : CancelRequestUseCase.CancelRequestInput} {db t : Database}
  {reply request : AccreditationRequest}
  {detail : RequestDetail} {number : String} {issued : Database}

/-- The row that a validation leaves: a forced one takes no slot. -/
theorem Validation.quota
    (run : Validation services ambient input db t reply request detail number issued)
    {quota : MatchCategoryQuota}
    (row : db.quotaRow request.matchId request.categoryRequestedId = some quota) :
    t.quotaRow request.matchId request.categoryRequestedId =
        some (if input.overrideQuota then quota else consume quota) ∧
      ∀ pair : Uuid × Uuid, pair ≠ (request.matchId, request.categoryRequestedId) →
        t.quotaRow pair.1 pair.2 = db.quotaRow pair.1 pair.2 := by
  cases forced : input.overrideQuota with
  | true =>
      have same : t.quotas = db.quotas := by simp only [run.quotas, reservedFor, forced, if_true]
      simp only [Tables.quotaRow, same, if_true]
      exact ⟨row, fun _ _ => trivial⟩
  | false =>
      obtain ⟨own, row', _, taken, others⟩ := run.slot forced
      obtain rfl : quota = own := Option.some.inj (row.symm.trans row')
      exact ⟨taken, others⟩

theorem Validation.cancelled
    (run : Validation services ambient input db t reply request detail number issued)
    (same : cancel.requestId = input.requestId)
    (may : CancelRequestUseCase.mayCancel cancel request = true) {quota : MatchCategoryQuota}
    (row : t.quotaRow request.matchId request.categoryRequestedId = some quota) :
    (outcome services t (.cancel cancel)).isOk = true ∧
      (perform services t (.cancel cancel)).quotaRow request.matchId request.categoryRequestedId =
        some (if quota.consumed ≤ 0 then quota else giveBack quota) ∧
      ∀ pair : Uuid × Uuid, pair ≠ (request.matchId, request.categoryRequestedId) →
        (perform services t (.cancel cancel)).quotaRow pair.1 pair.2 = t.quotaRow pair.1 pair.2 := by
  have found : t.requestById cancel.requestId = some (generatedRow ambient input request) := by
    rw [run.requests, same, run.found]
    simp
  have cancellable : Cancellable t cancel (generatedRow ambient input request) :=
    ⟨found, may, by simp [generatedRow, requestTransitions]⟩
  have holds : (generatedRow ambient input request).status.holdsSlot = true := rfl
  have ran := cancel_returned cancellable fun uncounted => by cases row.symm.trans uncounted.2
  have settled : settledFor cancel (generatedRow ambient input request) t =
      givenBack quota (cancelledFor cancel (generatedRow ambient input request) t) :=
    settledFor_found holds row
  have there : (cancelledFor cancel (generatedRow ambient input request) t).quotaRow _ _ = some quota :=
    (cancelledFor_quotaRow _ _).trans row
  have given := quotaRow_givenBack there
  simp only [outcome, perform, Operation.execute, reply_run]
  rw [ran, settled]
  refine ⟨rfl, ?_, fun pair other => ?_⟩
  · rw [Tables.quotaRow, quotas_kept rfl]
    exact given.1
  · rw [Tables.quotaRow, quotas_kept rfl]
    exact (given.2 pair other).trans (cancelledFor_quotaRow _ _)

end Undone

theorem released_taken (quota : MatchCategoryQuota) :
    (if (consume quota).consumed ≤ 0 then consume quota else giveBack (consume quota)) = quota ↔
      0 ≤ quota.consumed := by
  have counter : (consume quota).consumed = quota.consumed + 1 := rfl
  by_cases low : (consume quota).consumed ≤ 0
  · rw [if_pos low]
    refine iff_of_false (fun same => ?_) (by omega)
    rw [same] at counter
    omega
  · rw [if_neg low]
    refine iff_of_true ?_ (by omega)
    simp [consume, giveBack]

theorem released_untaken (quota : MatchCategoryQuota) :
    (if quota.consumed ≤ 0 then quota else giveBack quota) = quota ↔ quota.consumed ≤ 0 := by
  split
  next low => exact iff_of_true rfl low
  next high =>
    refine iff_of_false (fun same => ?_) high
    have counter := congrArg MatchCategoryQuota.consumed same
    simp only [giveBack] at counter
    omega

/-- A cancellation right after a validation is neutral for the quotas exactly when
the validation took its slot from a counter that was not below zero, or was
forced while the counter stood at zero or below. -/
theorem cancellation_neutral (services : Services) (db : Database) (ambient : Ambient)
    (input : DecideRequestUseCase.DecideRequestInput)
    (cancel : CancelRequestUseCase.CancelRequestInput) {request : AccreditationRequest}
    {quota : MatchCategoryQuota} (found : db.requestById input.requestId = some request)
    (row : db.quotaRow request.matchId request.categoryRequestedId = some quota)
    (validated : input.status = .validated)
    (returned : (outcome services db (.decide ambient input)).isOk = true)
    (same : cancel.requestId = input.requestId)
    (may : CancelRequestUseCase.mayCancel cancel request = true) :
    CancelsOut services db ambient input cancel ↔
      if input.overrideQuota then quota.consumed ≤ 0 else 0 ≤ quota.consumed := by
  obtain ⟨reply, ran⟩ := decide_returned returned
  obtain ⟨own, detail, number, issued, run⟩ := decide_validated validated ran
  obtain rfl : request = own := Option.some.inj (found.symm.trans run.found)
  obtain ⟨taken, others⟩ := run.quota row
  obtain ⟨cancelled, left_, apart⟩ := run.cancelled same may taken
  have neutral : CancelsOut services db ambient input cancel ↔
      (perform services (perform services db (.decide ambient input)) (.cancel cancel)).quotaRow
        request.matchId request.categoryRequestedId = some quota := by
    constructor
    · intro out
      rw [out.quotas, row]
    · intro kept
      refine ⟨cancelled, fun matchId categoryId => ?_⟩
      by_cases pair : (matchId, categoryId) = (request.matchId, request.categoryRequestedId)
      · cases pair
        rw [kept, row]
      · exact (apart (matchId, categoryId) pair).trans (others (matchId, categoryId) pair)
  rw [neutral, left_, Option.some.injEq]
  cases input.overrideQuota with
  | true => exact released_untaken quota
  | false => exact released_taken quota

/-- One slot of two is taken when a validation of the dossier is forced and then cancelled. -/
def oneTaken : Database :=
  handle.after (.reserve "quota" 2) (runFrom (perform sampleServices) (sampleDatabase 2) dossierComplete)

/-- The slot that the cancellation frees was taken for another. -/
theorem forced_and_cancelled :
    ¬ CancelsOut sampleServices oneTaken { freshId := "badge" } forcedValidation
      { requestId := "dossier", actorId := "chief" } := by
  intro out
  exact absurd (out.quotas "final" "press") (by decide)

theorem cancellation_neutral_plain :
    CancelsOut sampleServices awaitingDecision { freshId := "badge" }
      { requestId := "dossier", actorId := "agent", status := .validated }
      { requestId := "dossier", actorId := "agent" } :=
  (@cancellation_neutral sampleServices awaitingDecision { freshId := "badge" }
    { requestId := "dossier", actorId := "agent", status := .validated }
    { requestId := "dossier", actorId := "agent" }
    ((awaitingDecision.requestById "dossier").get (by decide))
    { id := "quota", matchId := "final", categoryId := "press", quotaTotal := 2 }
    (by decide) (by decide) rfl (by decide) rfl (by decide)).mpr (by decide)

end AccreditationBackend
