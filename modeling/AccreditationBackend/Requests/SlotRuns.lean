import AccreditationBackend.Requests.Lifecycle
import AccreditationBackend.Requests.SlotCalls

/-! Slots over sequential runs of the dedicated use cases.

Only a decision and a cancellation move the counters, and both settle what they
move. The other use cases never take a request into a status that holds a slot,
nor out of one.
-/

set_option autoImplicit false

namespace AccreditationBackend

open Foundation

/-! ## One statement -/

section Statements

variable {matchId categoryId : Uuid} {stmt : Statement} {db : Database}

/-- Without a reservation or a release, only a status write moves the slack. -/
theorem slack_event (current : Current (handle.event stmt db)) (lawful : Lawful stmt)
    (still : Still stmt) :
    (handle.after stmt db).slack matchId categoryId = db.slack matchId categoryId ∨
      ∃ w pair, stmt = .writeStatus w ∧ (handle.after stmt db).slack matchId categoryId =
        db.slack matchId categoryId + weight matchId categoryId pair w.seen - weight matchId
          categoryId pair w.target := by
  have counter :
      (handle.after stmt db).consumedOf matchId categoryId = db.consumedOf matchId categoryId :=
    consumedOf_still still db
  cases stmt
  case createRequest row =>
    left
    rw [Tables.slack, Tables.slack, counter, holding_created lawful db]
  case editDraft id categoryId' logistics =>
    have draft : db.statusOf id = some .draft := current
    left
    rw [Tables.slack, Tables.slack, counter, holding_edited draft]
  case writeStatus w =>
    have seen : db.statusOf w.requestId = some w.seen := current
    obtain ⟨r, found, status⟩ := Option.map_eq_some_iff.mp seen
    cases written : handle (.writeStatus w) db with
    | ok result =>
        right
        refine ⟨w, r.pair, rfl, ?_⟩
        rw [handle.after_ok written, slack_moved found written, status]
    | error why =>
        left
        rw [handle.after_error written]
  all_goals
    refine .inl (slack_neutral ?_ still db)
    rfl

/-- No status write of the statement takes or gives up a slot. -/
def Unmoving (stmt : Statement) : Prop :=
  Still stmt ∧ ∀ w, stmt = .writeStatus w → w.target.holdsSlot = w.seen.holdsSlot

theorem slack_unmoving (current : Current (handle.event stmt db)) (lawful : Lawful stmt)
    (unmoving : Unmoving stmt) :
    (handle.after stmt db).slack matchId categoryId = db.slack matchId categoryId := by
  rcases slack_event current lawful unmoving.1 with same | ⟨w, pair, shape, moved⟩
  · exact same
  · simp only [moved, weight, unmoving.2 w shape]
    omega

end Statements

/-! ## One operation -/

theorem seesSlot_of_current {e : Event store Database} (current : Current e) : seesSlot e = true := by
  unfold Current at current
  unfold seesSlot
  cases shape : e.stmt <;> simp_all

section Operations

variable (services : Services) (matchId categoryId : Uuid)

/-- The counter of the pair is within the total. -/
def Within (t : Tables) (matchId categoryId : Uuid) : Prop :=
  ∀ q, t.quotaRow matchId categoryId = some q → q.consumed ≤ q.quotaTotal

/-- A call that started from `start` and runs alone owes `debt` on the slack it found. -/
structure Alone (start : Database) (db : Database) (debt : Int) : Prop where
  standing : Standing start.pairOf ((start.quotaRow matchId categoryId).map fun q => (q.id, q.quotaTotal))
    matchId categoryId db
  positive : 0 ≤ debt
  slack : db.slack matchId categoryId = start.slack matchId categoryId + debt
  within : Within start.toTables matchId categoryId → Within db.toTables matchId categoryId

variable {matchId categoryId}

theorem Alone.step {start db : Database} {debt debt' : Int} {stmt : Statement}
    (alone : Alone matchId categoryId start db debt)
    (commits : (slotDiscipline start.pairOf ((start.quotaRow matchId categoryId).map fun q => (q.id, q.quotaTotal))
      matchId categoryId).Commits debt (handle.event stmt db) debt') :
    Alone matchId categoryId start (handle.after stmt db) debt' := by
  obtain ⟨calm, positive, moved, limit⟩ := commits
  rw [Handler.event_stmt] at calm
  rw [Handler.event_after, Handler.event_before] at moved limit
  have standing := standing_step calm alone.standing
  refine ⟨standing, positive, by have slack := alone.slack; omega, fun room q row => ?_⟩
  have kept := standing.quota
  rw [row, ← alone.standing.quota] at kept
  obtain ⟨q₀, row₀, same⟩ := Option.map_eq_some_iff.mp kept.symm
  simp only [Prod.mk.injEq] at same
  have total :
      (start.quotaRow matchId categoryId).map (fun q => (q.id, q.quotaTotal)) =
      some (q₀.id, q₀.quotaTotal) := by
    rw [← alone.standing.quota, row₀, Option.map_some]
  have bound :=
    limit q₀.id q₀.quotaTotal total (by simpa [Tables.consumedOf, row₀] using alone.within room q₀ row₀)
  simpa [Tables.consumedOf, row, same.2] using bound

theorem perform_settles {op : Operation} (moves : op.movesSlots = true) {db : Database}
    (covered : 0 ≤ db.slack matchId categoryId) :
    (perform services db op).slack matchId categoryId = db.slack matchId categoryId ∧
      (Within db.toTables matchId categoryId →
        Within (perform services db op).toTables matchId categoryId) := by
  obtain ⟨debt, alone, settled⟩ := Proc.run_outline handle
    (slotDiscipline db.pairOf ((db.quotaRow matchId categoryId).map fun q => (q.id, q.quotaTotal)) matchId categoryId)
    (J := Alone matchId categoryId db)
    (fun t debt alone => ⟨alone.standing, alone.positive, by have slack := alone.slack; omega⟩)
    (fun stmt t debt debt' alone commits => alone.step commits)
    (op.execute services) db 0 ⟨⟨fun _ => rfl, rfl⟩, le_refl 0, by omega, fun room => room⟩
    (execute_outline services moves)
    (fun e member => seesSlot_of_current (events_current services db op e member))
  subst settled
  exact ⟨alone.slack.trans (Int.add_zero _), alone.within⟩

/-- The dedicated use cases, and the generic transitions that neither take nor give up a slot. -/
def Operation.accounted : Operation → Bool
  | .saveDraft .. => true
  | .submit .. => true
  | .requestComplement .. => true
  | .resolveComplement .. => true
  | .transition input => !input.toStatus.holdsSlot && input.toStatus != .cancelled
  | .decide _ input => !input.overrideQuota
  | .cancel _ => true
  | .setQuota .. => true
  | _ => false

theorem unmoving_write {id : Uuid} {target : RequestStatus} {stmt : Statement}
    (writes : WritesTo id target stmt) (free : target.holdsSlot = false)
    (kept : target ≠ .cancelled) :
    Unmoving stmt := by
  obtain ⟨w, rfl, _, rfl, allowed⟩ := writes
  refine ⟨rfl, fun w' same => ?_⟩
  cases same
  -- A slot that is given up goes with a cancellation, which is excluded.
  by_contra moved
  have held : w.seen.holdsSlot = true := by simpa [free] using moved
  exact kept (holdsSlot_left allowed held free)

theorem footprint_unmoving {op : Operation} (accounted : op.accounted = true)
    (idle : op.movesSlots = false) {stmt : Statement} (footprint : op.Footprint services stmt) :
    Unmoving stmt := by
  have published (publishes : Publishes stmt) : Unmoving stmt := by
    obtain ⟨event, rfl⟩ := publishes
    exact ⟨rfl, fun _ => Statement.noConfusion⟩
  cases op <;>
    simp only [Operation.accounted, Operation.movesSlots, Bool.not_eq_true', Bool.not_eq_false',
    Bool.false_eq_true, Bool.true_eq_false] at accounted idle
  case saveDraft ambient input =>
    rcases footprint with ⟨id, rfl⟩ | ⟨reference, rfl⟩ <;> exact ⟨rfl, fun _ => Statement.noConfusion⟩
  case submit ambient input => exact footprint.elim (unmoving_write · rfl (by decide)) published
  case requestComplement ambient input =>
    exact footprint.elim (unmoving_write · rfl (by decide)) published
  case resolveComplement ambient input =>
    rcases footprint with rfl | writes
    · exact ⟨rfl, fun _ => Statement.noConfusion⟩
    · exact unmoving_write writes rfl (by decide)
  case transition input =>
    simp only [Bool.and_eq_true, Bool.not_eq_true', bne_iff_ne] at accounted
    exact unmoving_write footprint accounted.1 accounted.2
  case decide ambient input => simp [accounted] at idle
  case setQuota ambient matchId dto =>
    cases footprint
    exact ⟨rfl, fun _ => Statement.noConfusion⟩

/-- No accounted operation changes what a counter says beyond the requests that hold a slot. -/
theorem perform_accounted {op : Operation} (accounted : op.accounted = true) {db : Database}
    (settled : ∀ matchId categoryId, db.slack matchId categoryId = 0) (matchId categoryId : Uuid) :
    (perform services db op).slack matchId categoryId = 0 := by
  have same : (perform services db op).slack matchId categoryId = db.slack matchId categoryId := by
    cases moves : op.movesSlots with
    | true => exact (perform_settles services moves (by rw [settled])).1
    | false =>
        refine perform_relates services
          (R := fun s t => t.slack matchId categoryId = s.slack matchId categoryId)
          (fun _ => rfl) (fun _ _ _ first second => second.trans first) fun stmt s member => ?_
        have footprint : op.Footprint services stmt := events_footprint services db op _ member
        exact slack_unmoving (events_current services db op _ member) (footprint_lawful footprint)
          (footprint_unmoving services accounted moves footprint)
  rw [same, settled]

end Operations

/-! ## The badge of a generated request -/

def Tables.hasBadge (t : Tables) (requestId : Uuid) : Bool :=
  (t.accreditations.find (·.requestId == requestId)).isSome

theorem onKey_badgeRequest (requestId : Uuid) :
    Table.OnKey (ρ := Accreditation) (·.requestId == requestId) := by
  intro a b same
  have requests : a.requestId = b.requestId := congrArg (·.2.1) same
  simp only [requests]

theorem hasBadge_kept (stmt : Statement) (db : Database) (requestId : Uuid)
    (present : db.hasBadge requestId = true) :
    (handle.after stmt db).hasBadge requestId = true := by
  have step := badge_step (selects_accreditationRequest requestId) (onKey_badgeRequest requestId) stmt db
  unfold Tables.hasBadge at present ⊢
  generalize db.accreditations.find (·.requestId == requestId) = a at step present
  generalize (handle.after stmt db).accreditations.find (·.requestId == requestId) = b at step
  cases step with
  | created => rfl
  | assigned named => rfl
  | revoked named => rfl
  | unchanged => exact present

theorem hasBadge_created {row : Accreditation} {zoneIds : List Uuid} {db db' : Database}
    {reply : Accreditation}
    (created : handle (.createAccreditation row zoneIds) db = .ok (reply, db')) :
    db'.hasBadge row.requestId = true := by
  have applied := handle_ok created
  simp only [Tables.apply, bind_ok, orFail_ok, require_ok, pure_ok, Prod.mk.injEq] at applied
  obtain ⟨_, _, accreditations, inserted, _, _, _, _, _, same⟩ := applied
  rw [← same]
  simp only [Tables.hasBadge, Table.find_insert inserted]
  simp

/-- The badge stands before its request is marked as generated. -/
def Backed (e : Event store Database) : Prop :=
  ∀ w, e.stmt = .writeStatus w → w.target = .badgeGenerated → e.before.hasBadge w.requestId = true

theorem backed_of_quiet {e : Event store Database} (quiet : Quiet e.stmt) : Backed e := by
  intro w same
  rw [same] at quiet
  cases quiet

section Backed

variable {A B : Type} {Q : Except Failure B → Database → Prop}

theorem backed_bind {p : Op A} {f : A → Op B} {db : Database} (quiet : p.Issues Quiet)
    (rest : ∀ value t, (∀ id, db.hasBadge id = true → t.hasBadge id = true) → (f value).Leads handle Backed Q t)
    (failed : ∀ why t, Q (.error why) t) :
    (p >>= f).Leads handle Backed Q db :=
  Proc.leads_frame handle (R := fun s t : Database => ∀ id, s.hasBadge id = true → t.hasBadge id = true)
    (fun _ _ present => present) (fun _ _ _ first second id present => second id (first id present))
    (fun stmt s _ id => hasBadge_kept stmt s id)
    (fun _ => backed_of_quiet) quiet rest fun why t _ => failed why t

theorem written_bind {w : StatusWrite} {f : AccreditationRequest → Op B} {db : Database}
    (backed : w.target = .badgeGenerated → db.hasBadge w.requestId = true)
    (rest : ∀ r t, (f r).Leads handle Backed Q t) (failed : ∀ why, Q (.error why) db) :
    (issue (.writeStatus w) >>= f).Leads handle Backed Q db := by
  rw [issue_bind]
  refine Proc.leads_exec handle _ _ _ _ _ ?_ (fun r t _ => rest r t) fun why _ => failed why
  intro w' same
  cases same
  exact backed

end Backed

variable (services : Services) (ambient : Ambient)

theorem generateAccreditation_backed (issuedAt : Time) (requestId : Uuid) (zoneIds : List Uuid)
    (options : GenerateAccreditationOptions) (db : Database) :
    (generateAccreditation services ambient issuedAt requestId zoneIds options).Leads handle Backed
      (fun r t => ∀ a, r = .ok a → t.hasBadge requestId = true) db := by
  have failed : ∀ (why : Failure) (t : Database) (a : Accreditation),
      (Except.error why : Except Failure Accreditation) = .ok a →
      t.hasBadge requestId = true := fun _ _ _ => nofun
  unfold generateAccreditation
  refine backed_bind (attempt_issues _ _) (fun _ _ _ => ?_) failed
  refine backed_bind (query_issues _) (fun found _ _ => ?_) failed
  refine backed_bind (orThrow_issues _ _) (fun detail _ _ => ?_) failed
  refine backed_bind (attempt_issues _ _) (fun _ _ _ => ?_) failed
  refine backed_bind (generateUnique_issues _ _ _ _ _ _) (fun number _ _ => ?_) failed
  refine backed_bind (attempt_issues _ _) (fun _ _ _ => ?_) failed
  refine backed_bind (attempt_issues _ _) (fun _ _ _ => ?_) failed
  rw [issue_bind]
  refine Proc.leads_exec handle _ _ _ _ _ (fun _ => nofun)
    (fun accreditation t created => ?_) fun why _ => failed why _
  -- From here on the badge is stored, whatever fails afterwards.
  have present := hasBadge_created created
  refine backed_bind (attempt_issues _ _) (fun _ _ kept₁ => ?_) failed
  refine backed_bind (attempt_issues _ _) (fun _ _ kept₂ => ?_) failed
  refine backed_bind (attempt_issues _ _) (fun _ _ kept₃ => ?_) failed
  refine backed_bind (attempt_issues _ _) (fun _ _ kept₄ => ?_) failed
  refine backed_bind (publish_quiet _) (fun _ _ kept₅ _ _ => ?_) failed
  exact kept₅ _ (kept₄ _ (kept₃ _ (kept₂ _ (kept₁ _ present))))

theorem decide_backed (input : DecideRequestUseCase.DecideRequestInput) (db : Database) :
    (DecideRequestUseCase.execute services ambient input).Leads handle Backed (fun _ _ => True) db := by
  unfold DecideRequestUseCase.execute
  refine loadRequest_leads (fun request _ _ => guard_leads (fun _ => ?_) fun _ => trivial)
    fun _ => trivial
  cases verdict : input.status with
  | rejected =>
      simp only [reduceCtorEq, if_false]
      refine written_bind (fun target => ?_) (fun _ _ => ?_) fun _ => trivial
      · simp [DecideRequestUseCase.decisionWrite, DecideRequestUseCase.Decision.status, verdict] at target
      · exact backed_bind (publish_quiet _) (fun _ _ _ => trivial) fun _ _ => trivial
  | validated =>
      simp only [if_true]
      refine backed_bind (reserveQuotaOrThrow_issues fun _ _ _ => rfl)
        (fun _ _ _ => ?_) fun _ _ => trivial
      refine written_bind (fun target => ?_) (fun _ _ => ?_) fun _ => trivial
      · simp [DecideRequestUseCase.decisionWrite, DecideRequestUseCase.Decision.status, verdict] at target
      · refine backed_bind (publish_quiet _) (fun _ _ _ => ?_) fun _ _ => trivial
        rw [Proc.leads_bind]
        refine Proc.leads_mono handle _ _ (generateAccreditation_backed services ambient _ _ _ _ _)
          (fun _ backed => backed) fun r t present => ?_
        cases r with
        | error why => trivial
        | ok a =>
            rw [continued, ← Proc.bind_done (issue _)]
            exact written_bind (fun _ => present a rfl) (fun _ _ => trivial) fun _ => trivial

theorem backed_write {id : Uuid} {target : RequestStatus} {e : Event store Database}
    (writes : WritesTo id target e.stmt) (other : target ≠ .badgeGenerated) :
    Backed e := by
  obtain ⟨w, shape, _, rfl, _⟩ := writes
  intro w' same target
  cases shape.symm.trans same
  exact absurd target other

/-- Outside a decision, only a generic transition marks a request as generated. -/
theorem footprint_backed {op : Operation} (other : ∀ ambient input, op ≠ .decide ambient input)
    (honest : ∀ input, op = .transition input → input.toStatus ≠ .badgeGenerated)
    {e : Event store Database} (footprint : op.Footprint services e.stmt) :
    Backed e := by
  have published (publishes : Publishes e.stmt) : Backed e := by
    obtain ⟨event, shape⟩ := publishes
    exact backed_of_quiet (by rw [shape]; rfl)
  cases touches : op.touchesRequests with
  | false => exact backed_of_quiet (footprint_quiet services touches footprint)
  | true =>
      cases op <;> simp only [Operation.touchesRequests, Bool.false_eq_true] at touches
      case saveDraft ambient input =>
        intro w same
        rcases footprint with ⟨id, shape⟩ | ⟨reference, shape⟩ <;> cases shape.symm.trans same
      case submit ambient input => exact footprint.elim (backed_write · (by decide)) published
      case requestComplement ambient input => exact footprint.elim (backed_write · (by decide)) published
      case resolveComplement ambient input =>
        rcases footprint with shape | writes
        · exact backed_of_quiet (by rw [shape]; rfl)
        · exact backed_write writes (by decide)
      case transition input => exact backed_write footprint (honest input rfl)
      case decide ambient input => exact absurd rfl (other ambient input)
      case cancel input =>
        rcases footprint with writes | publishes | ⟨id, shape⟩
        · exact backed_write writes (by decide)
        · exact published publishes
        · exact backed_of_quiet (by rw [shape]; rfl)

theorem events_backed {op : Operation}
    (honest : ∀ input, op = .transition input → input.toStatus ≠ .badgeGenerated) (db : Database) :
    ∀ e ∈ events services db op, Backed e := by
  cases op with
  | decide ambient input =>
      exact ((Proc.leads_iff handle Backed (fun _ _ => True) _ db).mp
        (reply_leads (decide_backed services ambient input db))).1
  | _ =>
      intro e member
      exact footprint_backed services (fun _ _ => Operation.noConfusion) honest
        (events_footprint services db _ e member)

theorem accounted_honest {op : Operation} (accounted : op.accounted = true)
    (input : TransitionRequestStatusUseCase.TransitionRequestStatusInput)
    (same : op = .transition input) :
    input.toStatus ≠ .badgeGenerated := by
  subst same
  rintro generated
  simp [Operation.accounted, generated, RequestStatus.holdsSlot, statusesWithReservedQuota] at accounted

def Badged (db : Database) : Prop := ∀ id, db.statusOf id = some .badgeGenerated → db.hasBadge id = true

theorem badged_step {stmt : Statement} {db : Database} (lawful : Lawful stmt)
    (backed : Backed (handle.event stmt db)) (badged : Badged db) :
    Badged (handle.after stmt db) := by
  intro id generated
  have step := request_step stmt db id
  unfold Tables.statusOf at generated
  refine hasBadge_kept stmt db id ?_
  generalize before : db.requestById id = a at step
  generalize (handle.after stmt db).requestById id = b at step generated
  cases step with
  | @created row named =>
      have draft : row.status = .draft := lawful
      simp [draft] at generated
  | edited named =>
      exact badged id (by simpa [Tables.statusOf, before, redraft, Logistics.apply] using generated)
  | @written w r named =>
      rw [← named]
      exact backed w rfl (by simpa [StatusWrite.apply] using generated)
  | unchanged => exact badged id (by rw [Tables.statusOf, before]; exact generated)

theorem perform_badged {op : Operation} (accounted : op.accounted = true) {db : Database}
    (badged : Badged db) :
    Badged (perform services db op) := by
  refine perform_keeps services (fun stmt s member => ?_) badged
  have lawful : Lawful stmt := footprint_lawful (events_footprint services db op _ member)
  exact badged_step lawful (events_backed services (accounted_honest accounted) db _ member)

/-! ## Runs -/

theorem slack_unused {db : Database} (empty : db.requests.rows = [])
    (unused : ∀ q ∈ db.quotas.rows, q.consumed = 0) (matchId categoryId : Uuid) :
    db.slack matchId categoryId = 0 := by
  have counter : db.consumedOf matchId categoryId = 0 := by
    unfold Tables.consumedOf
    cases row : db.quotaRow matchId categoryId with
    | none => rfl
    | some q => exact unused q (Table.find_some_mem row).1
  simp [Tables.slack, counter, Tables.holding, Table.count, empty]

theorem badged_empty {db : Database} (empty : db.requests.rows = []) : Badged db := by
  intro id generated
  simp [Tables.statusOf, Tables.requestById, Table.find, empty] at generated

/-- Over every run of the dedicated use cases each counter is the number of
requests that hold a slot, and a generated request has its one badge. -/
theorem slots_accounted (start : Database) (ops : List Operation) (empty : start.requests.rows = [])
    (unused : ∀ q ∈ start.quotas.rows, q.consumed = 0) (accounted : ∀ op ∈ ops, op.accounted = true) :
    (∀ matchId categoryId,
      (runFrom (perform services) start ops).consumedOf matchId categoryId =
          (runFrom (perform services) start ops).holding matchId categoryId ∧
        0 ≤ (runFrom (perform services) start ops).consumedOf matchId categoryId) ∧
      ∀ r ∈ (runFrom (perform services) start ops).requests.rows, r.status = .badgeGenerated →
        (runFrom (perform services) start ops).accreditations.count (·.requestId == r.id) = 1 := by
  have kept := runFrom_invariant (P := fun (_ : Database) (op : Operation) => op.accounted = true)
    (I := fun db => (∀ matchId categoryId, db.slack matchId categoryId = 0) ∧ Badged db)
    (fun db op ⟨settled, badged⟩ accounted =>
      ⟨perform_accounted services accounted settled, perform_badged services accounted badged⟩)
    ⟨slack_unused empty unused, badged_empty empty⟩ (along_of_forall accounted start)
  generalize runFrom (perform services) start ops = db at kept
  obtain ⟨settled, badged⟩ := kept
  constructor
  · intro matchId categoryId
    have slack := settled matchId categoryId
    rw [Tables.slack] at slack
    omega
  · intro r stored generated
    have found : db.requestById r.id = some r := requestById_stored stored
    have present := badged r.id (by rw [Tables.statusOf, found, Option.map_some, generated])
    rw [Table.count_selects (selects_accreditationRequest r.id)]
    exact if_pos present

/-- A dossier of the sample, from its draft to its badge. -/
def dossierValidated : List Operation :=
  [.saveDraft { freshId := "dossier" } ⟨"reporter", "final", "press", {}⟩,
    .submit {} ⟨"dossier", "reporter", "user"⟩,
    .transition ⟨"dossier", .underReview, "agent", none⟩,
    .transition ⟨"dossier", .complete, "agent", none⟩,
    .decide { freshId := "badge" } { requestId := "dossier", actorId := "agent", status := .validated }]

theorem slots_accounted_validated :
    (runFrom (perform sampleServices) (sampleDatabase 1) dossierValidated).consumedOf "final" "press" =
        (runFrom (perform sampleServices) (sampleDatabase 1) dossierValidated).holding "final" "press" ∧
      0 ≤ (runFrom (perform sampleServices) (sampleDatabase 1) dossierValidated).consumedOf
        "final" "press" :=
  (slots_accounted sampleServices (sampleDatabase 1) dossierValidated rfl (by decide) (by decide)).1
  "final" "press"

end AccreditationBackend
