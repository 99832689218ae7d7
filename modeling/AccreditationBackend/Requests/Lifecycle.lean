import AccreditationBackend.Foundation.Passage
import AccreditationBackend.Requests.Freshness

/-! Lifecycles of requests.

Every status write is allowed from the status its use case saw. Alone, an
operation sees the stored status; among other calls, it may not.
-/

set_option autoImplicit false

namespace AccreditationBackend

open Foundation

/-- What the status machine promises of a statement, whatever is stored. -/
def Lawful (stmt : Statement) : Prop :=
  match stmt with
  | .createRequest row => row.status = .draft
  | .writeStatus w => w.target ∈ requestTransitions w.seen
  | _ => True

theorem footprint_lawful {services : Services} {op : Operation} {stmt : Statement}
    (footprint : op.Footprint services stmt) : Lawful stmt := by
  have write {id : Uuid} {target : RequestStatus} (writes : WritesTo id target stmt) : Lawful stmt := by
    obtain ⟨w, rfl, _, rfl, allowed⟩ := writes
    exact allowed
  have published (publishes : Publishes stmt) : Lawful stmt := by
    obtain ⟨event, rfl⟩ := publishes
    trivial
  have quiet (other : op.touchesRequests = false) : Lawful stmt := by
    have unwritten := footprint_quiet services other footprint
    unfold Quiet at unwritten
    cases stmt <;> trivial
  cases op with
  | saveDraft ambient input =>
      rcases footprint with ⟨id, rfl⟩ | ⟨reference, rfl⟩
      · trivial
      · rfl
  | submit ambient input => exact footprint.elim write published
  | requestComplement ambient input => exact footprint.elim write published
  | resolveComplement ambient input =>
      rcases footprint with rfl | writes
      · trivial
      · exact write writes
  | transition input => exact write footprint
  | decide ambient input =>
      rcases footprint with writes | publishes | ⟨_, ⟨_, id, limit, rfl⟩ | ⟨row, rfl, _⟩ | writes⟩
      · exact write writes
      · exact published publishes
      · trivial
      · trivial
      · exact write writes
  | cancel input =>
      rcases footprint with writes | publishes | ⟨id, rfl⟩
      · exact write writes
      · exact published publishes
      · trivial
  | _ => exact quiet rfl

/-- One step of a request in the eyes of the status machine. -/
def StatusStep : Option RequestStatus → Option RequestStatus → Prop
  | none, none => True
  | none, some target => target = .draft
  | some source, some target => target = source ∨ target ∈ requestTransitions source
  | some _, none => False

theorem statusStep_refl (status : Option RequestStatus) : StatusStep status status := by
  cases status with
  | none => trivial
  | some source => exact .inl rfl

theorem status_step {stmt : Statement} {db : Database}
    (current : ∀ w, stmt = .writeStatus w → db.statusOf w.requestId = some w.seen) (lawful : Lawful stmt)
    (id : Uuid) : StatusStep (db.statusOf id) ((handle.after stmt db).statusOf id) := by
  have step := request_step stmt db id
  unfold Tables.statusOf
  generalize before : db.requestById id = a at step
  generalize (handle.after stmt db).requestById id = b at step
  cases step with
  | created named => exact lawful
  | edited named => exact .inl rfl
  | @written w r named =>
      have seen := current w rfl
      rw [named, Tables.statusOf, before, Option.map_some, Option.some.injEq] at seen
      right
      simp only [StatusWrite.apply, seen]
      exact lawful
  | unchanged => exact statusStep_refl _

theorem status_after {stmt : Statement} {db : Database}
    (current : ∀ w, stmt = .writeStatus w → db.statusOf w.requestId = some w.seen)
    (lawful : Lawful stmt) {id : Uuid} {status : RequestStatus}
    (stored : db.statusOf id = some status) :
    ∃ target, (handle.after stmt db).statusOf id = some target ∧
      (target = status ∨ target ∈ requestTransitions status) := by
  have step := status_step current lawful id
  rw [stored] at step
  cases after : (handle.after stmt db).statusOf id with
  | none =>
      rw [after] at step
      exact step.elim
  | some target =>
      rw [after] at step
      exact ⟨target, rfl, step⟩

theorem Current.seen {stmt : Statement} {db : Database} (current : Current (handle.event stmt db))
    (w : StatusWrite) (same : stmt = .writeStatus w) : db.statusOf w.requestId = some w.seen := by
  subst same
  exact current

/-- What a lawful statement does to a request whose stored status it saw. -/
inductive LawfulStep (id : Uuid) :
    Statement → Option AccreditationRequest → Option AccreditationRequest → Prop
  | created {row : AccreditationRequest} (named : row.id = id) (draft : row.status = .draft) :
      LawfulStep id (.createRequest row) none (some row)
  | edited {categoryId : Uuid} {logistics : Logistics} {r : AccreditationRequest} (named : r.id = id)
      (draft : r.status = .draft) :
      LawfulStep id (.editDraft id categoryId logistics) (some r)
        (some (redraft categoryId logistics r))
  | written {w : StatusWrite} {r : AccreditationRequest} (named : w.requestId = id)
      (seen : r.status = w.seen) (allowed : w.target ∈ requestTransitions w.seen) :
      LawfulStep id (.writeStatus w) (some r) (some (w.apply r))
  | unchanged {stmt : Statement} {r : Option AccreditationRequest} : LawfulStep id stmt r r

theorem lawful_step {stmt : Statement} {db : Database} (current : Current (handle.event stmt db))
    (lawful : Lawful stmt) (id : Uuid) :
    LawfulStep id stmt (db.requestById id) ((handle.after stmt db).requestById id) := by
  have step := request_step stmt db id
  have status {r : AccreditationRequest} (found : db.requestById id = some r) :
      db.statusOf id = some r.status := by rw [Tables.statusOf, found]; rfl
  generalize db.requestById id = a at step status
  generalize (handle.after stmt db).requestById id = b at step
  cases step with
  | created named => exact .created named lawful
  | edited named => exact .edited named (Option.some.inj ((status rfl).symm.trans current))
  | @written w r named =>
      have seen := current.seen w rfl
      rw [named, status rfl, Option.some.injEq] at seen
      exact .written named seen lawful
  | unchanged => exact .unchanged

/-- A request of which no status is written keeps the one it had, or is a new draft. -/
theorem status_unwritten {stmt : Statement} {db : Database} (current : Current (handle.event stmt db))
    (lawful : Lawful stmt) {id : Uuid} (apart : ∀ w, stmt = .writeStatus w → w.requestId ≠ id)
    {r : AccreditationRequest} (stored : (handle.after stmt db).requestById id = some r) :
    (db.requestById id = none ∧ r.status = .draft) ∨
      ∃ before, db.requestById id = some before ∧ before.status = r.status := by
  have step := lawful_step current lawful id
  rw [stored] at step
  generalize db.requestById id = a at step
  cases step with
  | created named draft => exact .inl ⟨rfl, draft⟩
  | edited named draft => exact .inr ⟨_, rfl, rfl⟩
  | written named seen allowed => exact absurd named (apart _ rfl)
  | unchanged => exact .inr ⟨r, rfl, rfl⟩

/-! ## Drafts -/

def DraftsDistinct (db : Database) : Prop :=
  ∀ a ∈ db.requests.rows, ∀ b ∈ db.requests.rows, a.status = .draft → b.status = .draft →
    a.requesterId = b.requesterId → a.matchId = b.matchId → a = b

theorem draft_origin {stmt : Statement} {db : Database} (lawful : Lawful stmt) {a : AccreditationRequest}
    (stored : a ∈ (handle.after stmt db).requests.rows) (draft : a.status = .draft) :
    stmt = .createRequest a ∨
      ∃ r ∈ db.requests.rows, r.id = a.id ∧ r.status = .draft ∧ r.requesterId = a.requesterId ∧
        r.matchId = a.matchId := by
  have found : (handle.after stmt db).requestById a.id = some a := requestById_stored stored
  have step := request_step stmt db a.id
  rw [found] at step
  generalize before : db.requestById a.id = b at step
  have member (r : AccreditationRequest) (same : db.requestById a.id = some r) :
      r ∈ db.requests.rows ∧ r.id = a.id := by
    rcases Table.find_some_mem same with ⟨inside, named⟩
    exact ⟨inside, beq_iff_eq.mp named⟩
  cases step with
  | created named => exact .inl rfl
  | @edited categoryId logistics r named => exact .inr ⟨r, (member r before).1, named, draft, rfl, rfl⟩
  | @written w r named =>
      have entered : RequestStatus.draft ∈ requestTransitions w.seen := by
        have target : w.target = .draft := draft
        rw [← target]
        exact lawful
      exact absurd entered (draft_not_target w.seen)
  | unchanged => exact .inr ⟨a, (member a before).1, rfl, draft, rfl, rfl⟩

theorem drafts_step {stmt : Statement} {db : Database} (current : Current (handle.event stmt db))
    (lawful : Lawful stmt) (distinct : DraftsDistinct db) : DraftsDistinct (handle.after stmt db) := by
  intro a aStored b bStored aDraft bDraft requester sameMatch
  -- A new draft has no rival: the lookup before its creation found none for its pair.
  have rival {new r : AccreditationRequest} (created : stmt = .createRequest new)
    (stored : r ∈ db.requests.rows)
    (draft : r.status = .draft) (sameRequester : r.requesterId = new.requesterId)
    (matchOf : r.matchId = new.matchId) : False := by
    subst created
    have missing := current r stored
    simp [SaveDraftRequestUseCase.isExistingDraft, draft, sameRequester, matchOf] at missing
  rcases draft_origin lawful aStored aDraft with
    created | ⟨r, rStored, rNamed, rDraft, rRequester, rMatch⟩ <;>
    rcases draft_origin lawful bStored bDraft with
      created' | ⟨r', rStored', rNamed', rDraft', rRequester', rMatch'⟩
  · exact Statement.createRequest.inj (created.symm.trans created')
  · exact (rival created rStored' rDraft' (rRequester'.trans requester.symm) (rMatch'.trans sameMatch.symm)).elim
  · exact (rival created' rStored rDraft (rRequester.trans requester) (rMatch.trans sameMatch)).elim
  · have one := distinct r rStored r' rStored' rDraft rDraft'
      (rRequester.trans (requester.trans rRequester'.symm)) (rMatch.trans (sameMatch.trans rMatch'.symm))
    exact Table.eq_of_clash aStored bStored (.inl (rNamed.symm.trans (one ▸ rNamed')))

/-! ## Sequential runs -/

section Sequential

variable (services : Services)

theorem trail_lawful (start : Database) (ops : List Operation) :
    ∀ e ∈ trail services start ops, e = handle.event e.stmt e.before ∧ Current e ∧ Lawful e.stmt := by
  refine trail_forall services (fun op _ db e member => ⟨?_, ?_, ?_⟩) start
  · exact Proc.events_genuine handle (op.execute services) db e member
  · exact events_current services db op e member
  · exact footprint_lawful (events_footprint services db op e member)

/-- The statuses of one request, from before the run to after its last statement. -/
def statusHistory (id : Uuid) (start : Database) (ops : List Operation) : List (Option RequestStatus) :=
  (start :: (trail services start ops).map (·.after)).map (·.statusOf id)

theorem statusHistory_chain (id : Uuid) (start : Database) (ops : List Operation) :
    (statusHistory services id start ops).IsChain StatusStep := by
  refine (List.isChain_map _).mpr ((trail_linked services start ops).chain fun e member => ?_)
  obtain ⟨genuine, current, lawful⟩ := trail_lawful services start ops e member
  have after : e.after = handle.after e.stmt e.before := congrArg Event.after genuine
  rw [after]
  refine status_step (fun w same => ?_) lawful id
  simp only [Current, same] at current
  exact current

theorem drafts_along (start : Database) (ops : List Operation) (distinct : DraftsDistinct start) :
    ∀ db ∈ start :: (trail services start ops).map (·.after), DraftsDistinct db := by
  have chain :=
    (trail_linked services start ops).chain (R := fun s t => DraftsDistinct s → DraftsDistinct t)
      fun e member held => by
        obtain ⟨genuine, current, lawful⟩ := trail_lawful services start ops e member
        have after : e.after = handle.after e.stmt e.before := congrArg Event.after genuine
        rw [after]
        exact drafts_step (genuine ▸ current) lawful held
  generalize (trail services start ops).map (·.after) = later at chain
  induction later generalizing start with
  | nil => simpa using distinct
  | cons next rest ih =>
      obtain ⟨step, others⟩ := List.isChain_cons_cons.mp chain
      have tail := ih next (step distinct) others
      intro db member
      rcases List.mem_cons.mp member with rfl | inside
      · exact distinct
      · exact tail db inside

end Sequential

/-! ## What a lawful history shows -/

/-- A history of statuses, split wherever the request stands at `status`. -/
structure LawfulLife (history : List (Option RequestStatus)) : Prop where
  starts : ∀ front status back, history = front ++ some status :: back → (∀ x ∈ front, x = none) →
    status = .draft
  changes : ∀ front source target back, history = front ++ some source :: some target :: back →
    target ≠ source → target ∈ requestTransitions source
  final : ∀ front status back, history = front ++ some status :: back →
    status ∈ [.rejected, .cancelled, .accessUsed] → ∀ x ∈ back, x = some status
  reviewed : ∀ front status back, history = front ++ some status :: back →
    status ∈ [.validated, .badgeGenerated, .accessUsed] →
    [some RequestStatus.submitted, some .underReview, some .complete].Sublist front

def At (statuses : List RequestStatus) (x : Option RequestStatus) : Prop :=
  ∃ status ∈ statuses, x = some status

def pastComplete : List RequestStatus := [.pendingValidation, .validated, .badgeGenerated, .accessUsed]
def pastReview : List RequestStatus := .complete :: pastComplete
def pastSubmission : List RequestStatus := .underReview :: .infoRequested :: pastReview

/-- A set of statuses that the table enters from one status alone. -/
theorem enters_of_table {statuses : List RequestStatus} {gate : RequestStatus}
    (created : .draft ∉ statuses)
    (entered : ∀ source target, target ∈ requestTransitions source → target ∈ statuses →
      source ∉ statuses →
      source = gate) (a b : Option RequestStatus) (step : StatusStep a b) (reached : At statuses b)
    (outside : ¬ At statuses a) : a = some gate := by
  obtain ⟨target, member, rfl⟩ := reached
  cases a with
  | none =>
      have draft : target = .draft := step
      exact absurd (draft ▸ member) created
  | some source =>
      have apart : source ∉ statuses := fun inside => outside ⟨source, inside, rfl⟩
      rcases step with same | allowed
      · exact absurd (same ▸ member) apart
      · rw [entered source target allowed member apart]

theorem complete_gate : ∀ source target : RequestStatus, target ∈ requestTransitions source →
    target ∈ pastComplete →
    source ∉ pastComplete → source = .complete := by
  intro source target
  cases source <;> cases target <;> decide

theorem review_gate : ∀ source target : RequestStatus, target ∈ requestTransitions source →
    target ∈ pastReview →
    source ∉ pastReview → source = .underReview := by
  intro source target
  cases source <;> cases target <;> decide

theorem submission_gate : ∀ source target : RequestStatus, target ∈ requestTransitions source →
    target ∈ pastSubmission → source ∉ pastSubmission → source = .submitted := by
  intro source target
  cases source <;> cases target <;> decide

/-- A request that stands past a gate has stood at the gate before. -/
theorem gate_before {history : List (Option RequestStatus)} (chain : history.IsChain StatusStep)
    (absent : ∀ x ∈ history.head?, x = none) {statuses : List RequestStatus} {gate status : RequestStatus}
    (created : .draft ∉ statuses)
    (entered : ∀ source target, target ∈ requestTransitions source → target ∈ statuses →
      source ∉ statuses →
      source = gate)
    {front back : List (Option RequestStatus)} (split : history = front ++ some status :: back)
    (reached : status ∈ statuses) : ∃ before between, front = before ++ some gate :: between := by
  subst split
  refine gate_splits (enters_of_table created entered) chain (fun a first => ?_) ⟨status, reached, rfl⟩
  rintro ⟨_, _, rfl⟩
  exact absurd (absent _ first) (by simp)

theorem lawfulLife_of_chain {history : List (Option RequestStatus)} (chain : history.IsChain StatusStep)
    (absent : ∀ x ∈ history.head?, x = none) : LawfulLife history where
  starts := by
    rintro front status back rfl nothing
    rcases List.eq_nil_or_concat front with rfl | ⟨before, last, rfl⟩
    · exact absurd (absent (some status) rfl) (by simp)
    · have step := (List.isChain_append_cons_cons.mp (by simpa using chain :
        (before ++ last :: some status :: back).IsChain StatusStep)).2.1
      rw [nothing last (by simp)] at step
      exact step
  changes := by
    rintro front source target back rfl changed
    exact ((List.isChain_append_cons_cons.mp chain).2.1).resolve_left changed
  final := by
    rintro front status back rfl terminal
    have kept : ∀ b, StatusStep (some status) b → b = some status := by
      intro b step
      cases b with
      | none => exact step.elim
      | some target =>
          rcases step with rfl | allowed
          · rfl
          · cases status <;> simp [requestTransitions] at terminal allowed
    exact trap_kept kept (List.isChain_append.mp chain).2.1
  reviewed := by
    intro front status back split validated
    have past : status ∈ pastComplete := by
      cases status <;> simp [pastComplete] at validated ⊢
    -- Back through the three gates: COMPLETE, then UNDER_REVIEW, then SUBMITTED.
    obtain ⟨first, lastly, rfl⟩ := gate_before chain absent (by decide) complete_gate split past
    obtain ⟨second, then_, rfl⟩ := gate_before chain absent (by decide) review_gate
      (split.trans (List.append_assoc _ _ _)) (by decide : RequestStatus.complete ∈ pastReview)
    have again :
        history = second ++
          some .underReview :: (then_ ++ some .complete :: (lastly ++ some status :: back)) := by
      rw [split]
      simp only [List.append_assoc, List.cons_append]
    obtain ⟨third, next, rfl⟩ := gate_before chain absent (by decide) submission_gate again
      (by decide : RequestStatus.underReview ∈ pastSubmission)
    have submitted : [some RequestStatus.submitted].Sublist (third ++ some .submitted :: next) := by simp
    have review : [some RequestStatus.underReview].Sublist (some .underReview :: then_) := by simp
    have complete : [some RequestStatus.complete].Sublist (some .complete :: lastly) := by simp
    exact (submitted.append review).append complete

/-- Over every sequential run each request lives by the status machine, and no
requester ever has two drafts for one match. -/
theorem lawful_lifecycles (services : Services) (start : Database) (ops : List Operation)
    (empty : start.requests.rows = []) :
    (∀ id, LawfulLife (statusHistory services id start ops)) ∧
      ∀ db ∈ start :: (trail services start ops).map (·.after), DraftsDistinct db := by
  refine ⟨fun id => lawfulLife_of_chain (statusHistory_chain services id start ops) ?_,
    drafts_along services start ops ?_⟩
  · intro x first
    simp only [statusHistory, List.map_cons, List.head?_cons, Option.mem_def, Option.some.injEq] at first
    rw [← first, Tables.statusOf, Tables.requestById, Table.find, empty]
    rfl
  · intro a stored
    rw [empty] at stored
    cases stored

/-- A dossier of the sample database, from its draft to its cancellation under review. -/
theorem lawful_lifecycles_sample :
    LawfulLife (statusHistory sampleServices "dossier" (sampleDatabase 1)
      [.saveDraft { freshId := "dossier" } ⟨"reporter", "final", "press", {}⟩,
        .submit {} ⟨"dossier", "reporter", "user"⟩,
        .transition ⟨"dossier", .underReview, "agent", none⟩,
        .cancel ⟨"dossier", "user", some "reporter"⟩]) :=
  (lawful_lifecycles sampleServices (sampleDatabase 1) _ rfl).1 "dossier"

end AccreditationBackend
