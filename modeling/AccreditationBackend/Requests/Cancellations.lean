import AccreditationBackend.Requests.Badges
import AccreditationBackend.Requests.Journal
import AccreditationBackend.Requests.Validations

/-! Cancellations that fail half way.

The status is written in a transaction of its own, and the slot is given back
after it. Giving back looks for a quota row, which a forced validation never
needed.
-/

set_option autoImplicit false

namespace AccreditationBackend

open Foundation

/-- The cancellation finds a request that its caller may cancel, at a status that allows it. -/
structure Cancellable (db : Database) (input : CancelRequestUseCase.CancelRequestInput)
    (request : AccreditationRequest) : Prop where
  found : db.requestById input.requestId = some request
  may : CancelRequestUseCase.mayCancel input request = true
  allowed : .cancelled ∈ requestTransitions request.status

/-- A cancellation that throws leaves the request, its decisions and the quotas
as they were; one that returns has cancelled the request and announced it. -/
structure CancelsWhole (services : Services) (db : Database)
    (input : CancelRequestUseCase.CancelRequestInput) : Prop where
  thrown : (outcome services db (.cancel input)).isOk = false →
    (perform services db (.cancel input)).requestById input.requestId = db.requestById input.requestId ∧
      (perform services db (.cancel input)).journalOf input.requestId = db.journalOf input.requestId ∧
      (perform services db (.cancel input)).quotas = db.quotas
  returned : (outcome services db (.cancel input)).isOk = true →
    (perform services db (.cancel input)).statusOf input.requestId = some .cancelled ∧
      ∃ previous, db.statusOf input.requestId = some previous ∧
        (perform services db (.cancel input)).events =
          db.events ++ [.requestCancelled input.requestId previous]

/-! ## One cancellation -/

theorem releaseSlot_missing {db : Database} {matchId categoryId : Uuid}
    (missing : db.quotaRow matchId categoryId = none) :
    (releaseSlot matchId categoryId).run handle db = (.error (.domain quotaNotConfigured), db) := by
  simp only [releaseSlot, getQuotaRow_bind, Proc.run, missing]
  rfl

/-- The store after a slot of the row is given back, which an empty counter prevents. -/
def givenBack (quota : MatchCategoryQuota) (db : Database) : Database :=
  if quota.consumed ≤ 0 then db else handle.after (.release quota.id) db

theorem releaseSlot_found {db : Database} {matchId categoryId : Uuid} {quota : MatchCategoryQuota}
    (row : db.quotaRow matchId categoryId = some quota) :
    (releaseSlot matchId categoryId).run handle db = (.ok (), givenBack quota db) := by
  have stored : db.quotas.find (·.id == quota.id) = some quota :=
    quotaById_stored (Table.find_some_mem row).1
  simp only [releaseSlot, getQuotaRow_bind, Proc.run, row, orThrow_some_bind, givenBack]
  split
  · rfl
  · have released : handle (.release quota.id) db = .ok ((), handle.after (.release quota.id) db) :=
      handle_replies rfl (by rw [Tables.apply, stored]; rfl)
    rw [issue_run, released]
    rfl

section Cancel

variable {services : Services} {db : Database} {input : CancelRequestUseCase.CancelRequestInput}
  {request : AccreditationRequest}

/-- The store after the status transaction of a cancellation. -/
def cancelledFor (input : CancelRequestUseCase.CancelRequestInput) (request : AccreditationRequest)
    (db : Database) : Database :=
  handle.after (.writeStatus (CancelRequestUseCase.cancelWrite input request)) db

theorem cancel_turned_down (services : Services) (refused : ∀ request, ¬ Cancellable db input request) :
    (outcome services db (.cancel input)).isOk = false ∧ perform services db (.cancel input) = db := by
  simp only [outcome, perform, Operation.execute, reply_run, CancelRequestUseCase.execute]
  cases loaded : (db.requestById input.requestId).filter (CancelRequestUseCase.mayCancel input) with
  | none =>
      rw [loadRequest_refused loaded]
      exact ⟨rfl, rfl⟩
  | some request =>
      obtain ⟨found, may⟩ := Option.filter_eq_some_iff.mp loaded
      rw [loadRequest_passed loaded, guard_refused fun allowed => refused request ⟨found, may, allowed⟩]
      exact ⟨rfl, rfl⟩

theorem Cancellable.own (cancellable : Cancellable db input request) :
    db.requestById (CancelRequestUseCase.cancelWrite input request).requestId = some request := by
  have named := beq_iff_eq.mp (Table.find_some_mem cancellable.found).2
  rw [CancelRequestUseCase.cancelWrite, named]
  exact cancellable.found

theorem cancel_opened (cancellable : Cancellable db input request) :
    (CancelRequestUseCase.execute input).run handle db =
      (do
        if request.status.holdsSlot then releaseSlot request.matchId request.categoryRequestedId
        publish (.requestCancelled request.id request.status)
        return (CancelRequestUseCase.cancelWrite input request).apply request :
          Op AccreditationRequest).run
          handle (cancelledFor input request db) := by
  have loaded := Option.filter_eq_some_iff.mpr ⟨cancellable.found, cancellable.may⟩
  unfold CancelRequestUseCase.execute cancelledFor
  rw [loadRequest_passed loaded, guard_passed cancellable.allowed,
    issue_bind_run (handle_written cancellable.own rfl)]

theorem cancelledFor_quotaRow (matchId categoryId : Uuid) :
    (cancelledFor input request db).quotaRow matchId categoryId = db.quotaRow matchId categoryId := by
  rw [Tables.quotaRow, cancelledFor, quotas_kept rfl]
  rfl

/-- The store after a cancellation has given back what its request held. -/
def settledFor (input : CancelRequestUseCase.CancelRequestInput) (request : AccreditationRequest)
    (db : Database) : Database :=
  if request.status.holdsSlot then
    match db.quotaRow request.matchId request.categoryRequestedId with
    | some quota => givenBack quota (cancelledFor input request db)
    | none => cancelledFor input request db
  else cancelledFor input request db

theorem settledFor_found {quota : MatchCategoryQuota} (holds : request.status.holdsSlot = true)
    (row : db.quotaRow request.matchId request.categoryRequestedId = some quota) :
    settledFor input request db = givenBack quota (cancelledFor input request db) := by
  rw [settledFor, if_pos holds, row]

/-- The request holds a slot that no quota row counts. -/
def Uncounted (db : Database) (request : AccreditationRequest) : Prop :=
  request.status.holdsSlot = true ∧ db.quotaRow request.matchId request.categoryRequestedId = none

theorem cancel_returned (cancellable : Cancellable db input request) (counted : ¬ Uncounted db request) :
    (CancelRequestUseCase.execute input).run handle db =
      (.ok ((CancelRequestUseCase.cancelWrite input request).apply request),
        handle.after (.publish (.requestCancelled request.id request.status))
          (settledFor input request db)) := by
  rw [cancel_opened cancellable, settledFor]
  by_cases holds : request.status.holdsSlot = true
  · rw [if_pos holds, if_pos holds]
    cases row : db.quotaRow request.matchId request.categoryRequestedId with
    | none => exact absurd ⟨holds, row⟩ counted
    | some quota =>
        have left_ :
            (cancelledFor input request db).quotaRow request.matchId
            request.categoryRequestedId = some quota :=
          (cancelledFor_quotaRow _ _).trans row
        rw [Proc.run_bind, releaseSlot_found left_]
        dsimp only
        rw [publish_bind, Proc.run, publish_after]
        rfl
  · rw [if_neg holds, if_neg holds, publish_bind, Proc.run, publish_after]
    rfl

theorem cancel_stuck (cancellable : Cancellable db input request) (uncounted : Uncounted db request) :
    (CancelRequestUseCase.execute input).run handle db =
      (.error (.domain quotaNotConfigured), cancelledFor input request db) := by
  have missing :
      (cancelledFor input request db).quotaRow request.matchId request.categoryRequestedId = none :=
    (cancelledFor_quotaRow _ _).trans uncounted.2
  rw [cancel_opened cancellable, if_pos uncounted.1, Proc.run_bind, releaseSlot_missing missing]

theorem cancelledFor_status (cancellable : Cancellable db input request) :
    (cancelledFor input request db).statusOf input.requestId = some .cancelled := by
  have named := beq_iff_eq.mp (Table.find_some_mem cancellable.found).2
  rw [← named]
  exact statusOf_written (handle_written cancellable.own rfl)

theorem givenBack_frame {R : Database → Database → Prop} {quota : MatchCategoryQuota} (refl : ∀ s, R s s)
    (keeps : ∀ id s, R s (handle.after (.release id) s)) (s : Database) : R s (givenBack quota s) := by
  unfold givenBack
  split
  · exact refl s
  · exact keeps _ s

theorem settledFor_frame {R : Database → Database → Prop} (refl : ∀ s, R s s)
    (keeps : ∀ id s, R s (handle.after (.release id) s)) :
    R (cancelledFor input request db) (settledFor input request db) := by
  unfold settledFor
  split
  · split
    · exact givenBack_frame refl keeps _
    · exact refl _
  · exact refl _

end Cancel

/-- A cancellation fails half way exactly when its request holds a slot that no quota row counts. -/
theorem cancelsWhole_iff (services : Services) (db : Database)
    (input : CancelRequestUseCase.CancelRequestInput) :
    CancelsWhole services db input ↔
      ∀ request, Cancellable db input request → ¬ Uncounted db request := by
  constructor
  · intro whole request cancellable uncounted
    have thrown := whole.thrown
    simp only [outcome, perform, Operation.execute, reply_run, cancel_stuck cancellable uncounted] at thrown
    have stored := congrArg (Option.map (·.status)) (thrown rfl).1
    rw [← Tables.statusOf, cancelledFor_status cancellable, cancellable.found, Option.map_some,
      Option.some.injEq] at stored
    -- A cancelled request holds no slot.
    have holds := uncounted.1
    rw [← stored] at holds
    cases holds
  · intro counted
    by_cases refused : ∀ request, ¬ Cancellable db input request
    · obtain ⟨failed, same⟩ := cancel_turned_down services refused
      refine ⟨fun _ => ?_, fun returned => ?_⟩
      · rw [same]
        exact ⟨rfl, rfl, rfl⟩
      · cases failed.symm.trans returned
    · obtain ⟨request, cancellable⟩ := not_forall_not.mp refused
      have ran := cancel_returned cancellable (counted request cancellable)
      have named := beq_iff_eq.mp (Table.find_some_mem cancellable.found).2
      have after : perform services db (.cancel input) = handle.after
          (.publish (.requestCancelled request.id request.status)) (settledFor input request db) := by
        simp only [perform, Operation.execute, reply_run, ran]
      refine ⟨fun failed => ?_, fun _ => ?_⟩
      · simp only [outcome, Operation.execute, reply_run, ran] at failed
        cases failed
      rw [after]
      refine ⟨?_, request.status, ?_, ?_⟩
      · have settled :
            (settledFor input request db).requests = (cancelledFor input request db).requests :=
          settledFor_frame (R := fun s t : Database => t.requests = s.requests) (fun _ => rfl)
            fun id s => requests_kept (show Quiet (.release id) from rfl) s
        rw [statusOf_congr (requests_kept (publish_statement_quiet _) _), statusOf_congr settled]
        exact cancelledFor_status cancellable
      · rw [Tables.statusOf, cancellable.found, Option.map_some]
      · have settled : (settledFor input request db).events = db.events := by
          refine (settledFor_frame (R := fun s t : Database => t.events = s.events) (fun _ => rfl)
            fun id s => events_kept rfl s).trans ?_
          exact events_kept rfl db
        rw [apply_events (handle_ok (publish_after _ _)), settled, ← named]
        rfl

/-! ## Runs -/

/-- Every request that can be cancelled out of a slot has a quota row to give it back to. -/
def Releasable (db : Database) : Prop :=
  ∀ id request, db.requestById id = some request →
    request.status = .validated ∨ request.status = .badgeGenerated →
      db.quotaRow request.matchId request.categoryRequestedId ≠ none

theorem releasable_iff (services : Services) {db : Database} :
    (∀ input, CancelsWhole services db input) ↔ Releasable db := by
  simp only [cancelsWhole_iff]
  constructor
  · intro counted id request found status missing
    -- The staff can cancel any request.
    refine counted { requestId := id, actorId := "" } request ⟨found, rfl, ?_⟩ ⟨?_, missing⟩
    · rcases status with same | same <;> rw [same] <;> decide
    · rcases status with same | same <;> rw [same] <;> rfl
  · rintro releasable input request ⟨found, _, allowed⟩ ⟨holds, missing⟩
    refine releasable _ request found ?_ missing
    cases status : request.status <;> rw [status] at allowed holds <;>
      simp [requestTransitions, RequestStatus.holdsSlot, statusesWithReservedQuota] at allowed holds ⊢

/-- A request that may be validated, for a match and category without a quota row. -/
def Unquoted (db : Database) (requestId : Uuid) : Prop :=
  ∃ request, db.requestById requestId = some request ∧ .validated ∈ requestTransitions request.status ∧
    db.quotaRow request.matchId request.categoryRequestedId = none

/-- The operation validates such a request: by force, or by the generic transition. -/
def ValidatesUnquoted (db : Database) : Operation → Prop
  | .decide _ input =>
      input.status = .validated ∧ input.overrideQuota = true ∧ input.actorIsAdmin = true ∧
        Unquoted db input.requestId
  | .transition input => input.toStatus = .validated ∧ Unquoted db input.requestId
  | _ => False

/-- VALIDATED is written to requests with a quota row only. -/
def Quoted (e : Event store Database) : Prop :=
  ∀ w, e.stmt = .writeStatus w → w.target = .validated → ∀ request,
    e.before.requestById w.requestId = some request →
      e.before.quotaRow request.matchId request.categoryRequestedId ≠ none

theorem quotaRow_present (stmt : Statement) {db : Database} {matchId categoryId : Uuid}
    (present : db.quotaRow matchId categoryId ≠ none) :
    (handle.after stmt db).quotaRow matchId categoryId ≠ none := by
  have step := quota_step (selects_quotaOf matchId categoryId) (onKey_quotaOf matchId categoryId) stmt db
  unfold Tables.quotaRow at present ⊢
  generalize db.quotas.find (quotaOf matchId categoryId) = a at step present
  generalize (handle.after stmt db).quotas.find (quotaOf matchId categoryId) = b at step ⊢
  cases step with
  | unchanged => exact present
  | _ => exact Option.some_ne_none _

theorem releasable_step {stmt : Statement} {db : Database} (current : Current (handle.event stmt db))
    (lawful : Lawful stmt) (quoted : Quoted (handle.event stmt db)) (releasable : Releasable db) :
    Releasable (handle.after stmt db) := by
  intro id request found status
  refine quotaRow_present stmt ?_
  have step := lawful_step current lawful id
  rw [found] at step
  generalize before : db.requestById id = a at step
  cases step with
  | created named draft =>
      rw [draft] at status
      simp at status
  | @edited categoryId logistics r named draft =>
      have same : (redraft categoryId logistics r).status = r.status := rfl
      rw [same, draft] at status
      simp at status
  | @written w r named seen lawful =>
      rcases status with validated | generated
      · exact quoted w rfl validated r (by rw [Handler.event_before, named]; exact before)
      -- A badge is only marked on a request that was validated before.
      · have allowed : .badgeGenerated ∈ requestTransitions w.seen :=
          generated ▸ lawful
        exact releasable id r before (.inl (seen.trans (generated_entered allowed)))
  | unchanged => exact releasable id request before status

section Operations

variable (services : Services)

def Unvalidating (stmt : Statement) : Prop := ∀ w, stmt = .writeStatus w → w.target ≠ .validated

theorem quoted_of_unvalidating {e : Event store Database} (other : Unvalidating e.stmt) : Quoted e :=
  fun w shape validated => absurd validated (other w shape)

theorem unvalidating_leads {A : Type} {p : Op A} (others : p.Issues Unvalidating) (db : Database) :
    p.Leads handle Quoted (fun _ _ => True) db :=
  Proc.leads_mono handle p db
    (Proc.leads_of_issues handle (R := fun _ _ => True) (fun _ => trivial) (fun _ _ _ _ _ => trivial)
      (fun _ _ _ => trivial) p others db)
    (fun _ => quoted_of_unvalidating) fun _ _ _ => trivial

theorem unvalidating_published (stmt : Statement) (publishes : Publishes stmt) : Unvalidating stmt := by
  obtain ⟨event, rfl⟩ := publishes
  exact fun _ => Statement.noConfusion

theorem admitted_row {ambient : Ambient} {input : DecideRequestUseCase.DecideRequestInput} {db : Database}
    {request : AccreditationRequest} (honest : ¬ ValidatesUnquoted db (.decide ambient input))
    (validated : input.status = .validated) (found : db.requestById input.requestId = some request)
    (allowed : .validated ∈ requestTransitions request.status) (admits : Admits db input request) :
    (reservedFor db input request).quotaRow request.matchId request.categoryRequestedId ≠ none := by
  have present : db.quotaRow request.matchId request.categoryRequestedId ≠ none := by
    intro missing
    by_cases forced : input.overrideQuota = true
    · simp only [Admits, forced, if_true] at admits
      exact honest ⟨validated, forced, admits, request, found, allowed, missing⟩
    · simp only [Admits, forced, Bool.false_eq_true, if_false, missing] at admits
      obtain ⟨_, impossible, _⟩ := admits
      cases impossible
  exact reservedFor_frame (R := fun s t : Database =>
      s.quotaRow request.matchId request.categoryRequestedId ≠ none →
        t.quotaRow request.matchId request.categoryRequestedId ≠ none)
    (fun _ present => present) (fun _ _ _ => quotaRow_present _) present

theorem generation_unvalidating (ambient : Ambient) (input : DecideRequestUseCase.DecideRequestInput)
    (request : AccreditationRequest) :
    (do
      let _ ← generateAccreditation services ambient (ambient.clock 1) request.id input.zoneIds
        { assignedBoothNumber := input.assignedBoothNumber, assignedFlashSlot := input.assignedFlashSlot }
      issue (.writeStatus (DecideRequestUseCase.badgeWrite input request)) :
        Op AccreditationRequest).Issues Unvalidating := by
  refine Proc.issues_bind _ _ _ (generateAccreditation_issues (fun stmt grants => ?_) unvalidating_published)
    fun _ => issue_issues ?_
  · obtain ⟨_, rfl, _⟩ := grants
    exact fun _ => Statement.noConfusion
  · rintro w ⟨⟩
    simp [DecideRequestUseCase.badgeWrite]

theorem decide_quoted {ambient : Ambient} {input : DecideRequestUseCase.DecideRequestInput}
    {db : Database} (honest : ¬ ValidatesUnquoted db (.decide ambient input)) :
    (DecideRequestUseCase.execute services ambient input).Leads handle Quoted (fun _ _ => True) db := by
  unfold DecideRequestUseCase.execute
  refine loadRequest_leads (fun request found named => guard_leads (fun allowed => ?_) fun _ => trivial)
    fun _ => trivial
  cases verdict : input.status with
  | rejected =>
      simp only [reduceCtorEq, if_false]
      refine unvalidating_leads (Proc.issues_bind _ _ _ (issue_issues ?_) fun _ => ?_) db
      · rintro w ⟨⟩
        simp [DecideRequestUseCase.decisionWrite, verdict, DecideRequestUseCase.Decision.status]
      · exact Proc.issues_bind _ _ _ (publish_issues unvalidating_published _) fun _ => trivial
  | validated =>
      simp only [if_true]
      rw [Proc.leads_bind]
      rw [verdict] at allowed
      have reserves : (DecideRequestUseCase.reserveQuotaOrThrow request input).Issues Unvalidating :=
        reserveQuotaOrThrow_issues fun _ _ _ _ => Statement.noConfusion
      refine (Proc.leads_iff handle _ _ _ db).mpr
        ⟨fun e member => quoted_of_unvalidating (Proc.events_issued handle _ reserves db e member), ?_⟩
      by_cases admits : Admits db input request
      · have kept := admitted_row honest verdict found allowed admits
        rw [reserveQuota_granted admits]
        dsimp only [continued]
        rw [issue_bind]
        refine Proc.leads_exec handle _ _ _ _ _ ?_ (fun reply t written => ?_) fun _ _ => trivial
        · rintro w ⟨⟩ _ r own
          rw [Handler.event_before, Tables.requestById, reservedFor_requests, ← Tables.requestById] at own
          obtain rfl : request = r := by
            rw [DecideRequestUseCase.decisionWrite, named, found] at own
            exact Option.some.inj own
          exact kept
        · exact unvalidating_leads (Proc.issues_bind _ _ _ (publish_issues unvalidating_published _) fun _ =>
            generation_unvalidating services ambient input request) t
      · obtain ⟨why, refused⟩ := reserveQuota_refused admits
        rw [refused]
        trivial

theorem transition_quoted {input : TransitionRequestStatusUseCase.TransitionRequestStatusInput}
    {db : Database} (honest : ¬ ValidatesUnquoted db (.transition input)) :
    ∀ e ∈ events services db (.transition input), Quoted e := by
  intro e member w shape validated request found missing
  obtain ⟨before, w', shape', named, target, allowed, seen⟩ := transition_written services db member
  cases shape'.symm.trans shape
  rw [before, named] at found
  rw [before] at missing
  rw [Tables.statusOf, found, Option.map_some, Option.some.injEq] at seen
  exact honest ⟨target.symm.trans validated, request, found, by
    rw [seen, ← validated, target]; exact allowed, missing⟩

theorem events_quoted {op : Operation} {db : Database} (honest : ¬ ValidatesUnquoted db op) :
    ∀ e ∈ events services db op, Quoted e := by
  have other (unvalidating : ∀ stmt, op.Footprint services stmt → Unvalidating stmt) :
      ∀ e ∈ events services db op, Quoted e :=
    fun e member => quoted_of_unvalidating (unvalidating _ (events_footprint services db op e member))
  cases op with
  | decide ambient input =>
      exact ((Proc.leads_iff handle _ _ _ db).mp (reply_leads (decide_quoted services honest))).1
  | transition input => exact transition_quoted services honest
  | _ =>
      refine other fun stmt footprint w shape validated => ?_
      simp only [Operation.Footprint, WritesTo, Publishes, GrantsBadge, LogsScan, shape] at footprint
      grind

theorem perform_releasable {op : Operation} {db : Database} (releasable : Releasable db)
    (honest : ¬ ValidatesUnquoted db op) : Releasable (perform services db op) := by
  refine perform_keeps services (fun stmt s member => ?_) releasable
  have lawful : Lawful stmt := footprint_lawful (events_footprint services db op _ member)
  exact releasable_step (events_current services db op _ member) lawful
    (events_quoted services honest _ member)

theorem validating_calm {op : Operation} {db : Database} (validates : ValidatesUnquoted db op)
    {stmt : Statement} (footprint : op.Footprint services stmt) : stmt.calm = true := by
  cases op <;> simp only [ValidatesUnquoted] at validates <;>
    simp only [Operation.Footprint, WritesTo, GrantsBadge, Publishes] at footprint <;>
      grind [Statement.calm]

theorem validating_leaves {op : Operation} {db : Database} (validates : ValidatesUnquoted db op) :
    ∃ id, Unquoted db id ∧ ∃ status, (perform services db op).statusOf id = some status ∧
      (status = .validated ∨ status = .badgeGenerated) := by
  cases op with
  | decide ambient input =>
      obtain ⟨validated, forced, admin, unquoted⟩ := validates
      obtain ⟨request, found, allowed, missing⟩ := unquoted
      have admits : Admits db input request := by simp only [Admits, forced, if_true, admin]
      exact ⟨input.requestId, ⟨request, found, allowed, missing⟩,
        decide_leaves services ambient found allowed validated admits⟩
  | transition input =>
      obtain ⟨validated, request, found, allowed, missing⟩ := validates
      have stored : db.statusOf input.requestId = some request.status := by
        rw [Tables.statusOf, found, Option.map_some]
      refine ⟨input.requestId, ⟨request, found, allowed, missing⟩, .validated, ?_, .inl rfl⟩
      rw [transition_alone services stored (validated ▸ allowed)]
      exact validated ▸ statusOf_written
        (handle_written (w := transitionWrite input request.status) found rfl)
  | _ => exact validates.elim

theorem perform_unreleasable {op : Operation} {db : Database} (validates : ValidatesUnquoted db op) :
    ¬ Releasable (perform services db op) := by
  intro releasable
  obtain ⟨id, ⟨request, found, _, missing⟩, status, stored, holds⟩ := validating_leaves services validates
  have standing :
      Standing db.pairOf none request.matchId request.categoryRequestedId (perform services db op) :=
    perform_keeps services (fun stmt s member standing => standing_step
      (validating_calm services validates (events_footprint services db op _ member)) standing)
      ⟨fun _ => rfl, by rw [missing]; rfl⟩
  obtain ⟨r, there, rfl⟩ := statusOf_some stored
  have pair := standing.pairs id
  rw [Tables.pairOf, Tables.pairOf, there, found, Option.map_some, Option.map_some, Option.some.injEq] at pair
  have same : r.matchId = request.matchId ∧ r.categoryRequestedId = request.categoryRequestedId := by
    simpa only [AccreditationRequest.pair, Prod.mk.injEq] using pair
  refine releasable id r there holds ?_
  rw [same.1, same.2]
  exact Option.map_eq_none_iff.mp standing.quota

end Operations

/-- In every state of a run each cancellation either changes nothing or cancels
the request, exactly when no step of the run validates, by force or by the
generic transition, a request whose match and category have no quota row. -/
theorem cancellations_whole (services : Services) (start : Database) (ops : List Operation)
    (empty : start.requests.rows = []) :
    (∀ front back, ops = front ++ back → ∀ input,
        CancelsWhole services (runFrom (perform services) start front) input) ↔
      Along (perform services) (fun db op => ¬ ValidatesUnquoted db op) start ops := by
  have blank : Releasable start := by
    intro id request found
    have stored := (Table.find_some_mem found).1
    rw [empty] at stored
    cases stored
  rw [← runFrom_exact (I := Releasable)
    (fun db op releasable honest => perform_releasable services releasable honest)
    (fun db op _ kept validates => perform_unreleasable services validates kept) blank]
  simp only [releasable_iff]

/-- The sample without any quota. -/
def unquotedDatabase : Database :=
  { sampleDatabase 0 with
    quotas := .empty
    referential := by constructor <;> simp [sampleDatabase, Table.column, Table.empty] }

/-- An administrator forces the validation of a dossier of a category without quota. -/
def forcedUnquoted : List Operation :=
  dossierComplete ++ [.decide { freshId := "badge" } {
    requestId := "dossier"
    actorId := "chief"
    actorIsAdmin := true
    status := .validated
    overrideQuota := true }]

/-- The dossier is CANCELLED, and the call reports that no quota is configured. -/
theorem cancelled_half_way :
    ¬ ∀ front back, forcedUnquoted = front ++ back → ∀ input,
      CancelsWhole sampleServices (runFrom (perform sampleServices) unquotedDatabase front) input := by
  intro whole
  have last :=
    whole forcedUnquoted [] (List.append_nil _).symm { requestId := "dossier", actorId := "agent" }
  exact absurd (last.thrown (by decide)).1 (by decide)

theorem cancellations_whole_validated :
    CancelsWhole sampleServices (runFrom (perform sampleServices) (sampleDatabase 1) dossierValidated)
      { requestId := "dossier", actorId := "agent" } :=
  (cancellations_whole sampleServices (sampleDatabase 1) dossierValidated rfl).mpr
    (by simp [dossierValidated, Along, ValidatesUnquoted]) dossierValidated [] (List.append_nil _).symm
    { requestId := "dossier", actorId := "agent" }

end AccreditationBackend
