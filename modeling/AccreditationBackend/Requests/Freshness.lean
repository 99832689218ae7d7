import AccreditationBackend.System.Footprint

/-! An operation that runs alone writes a request as it still is.

Between its read of a request and its write, nothing but the operation itself
moves; what it does in between leaves the requests alone.
-/

set_option autoImplicit false

namespace AccreditationBackend

open Foundation

/-- The write meets what its use case acted on: the status it saw, a draft still
in draft, or no draft at all. -/
def Current (e : Event store Database) : Prop :=
  match e.stmt with
  | .createRequest row =>
      ∀ r ∈ e.before.requests.rows,
        SaveDraftRequestUseCase.isExistingDraft row.requesterId row.matchId r = false
  | .editDraft id _ _ => e.before.statusOf id = some .draft
  | .writeStatus w => e.before.statusOf w.requestId = some w.seen
  | _ => True

def Quiet (stmt : Statement) : Prop := stmt.writesRequests = false

theorem requests_kept {stmt : Statement} (quiet : Quiet stmt) (db : Database) :
    (handle.after stmt db).requests = db.requests := by
  rcases after_cases stmt db with same | ⟨reply, applied⟩
  · rw [same]
  · exact apply_requests applied quiet

theorem publish_statement_quiet (event : DomainEvent) : Quiet (.publish event) := rfl

theorem current_of_quiet {e : Event store Database} (quiet : Quiet e.stmt) : Current e := by
  unfold Quiet at quiet
  unfold Current
  cases shape : e.stmt <;> simp_all [Statement.writesRequests]

theorem statusOf_congr {t t' : Tables} (same : t'.requests = t.requests) (id : Uuid) :
    t'.statusOf id = t.statusOf id := by
  simp only [Tables.statusOf, Tables.requestById, same]

theorem statusOf_written {w : StatusWrite} {db db' : Database} {reply : AccreditationRequest}
    (written : handle (.writeStatus w) db = .ok (reply, db')) :
    db'.statusOf w.requestId = some w.target := by
  have applied := handle_ok written
  simp only [Tables.apply, bind_ok, orFail_ok, pure_ok, Prod.mk.injEq] at applied
  obtain ⟨r, found, _, _, _, same⟩ := applied
  have named := (Table.find_some_mem found).2
  rw [← same]
  simp only [Tables.statusOf, Tables.requestById]
  rw [Table.find_update _ _ _ w.apply_key _ fun _ => rfl, found]
  simp [beq_iff_eq.mp named, StatusWrite.apply]

theorem requestById_written {w : StatusWrite} {db db' : Database} {reply : AccreditationRequest}
    (written : handle (.writeStatus w) db = .ok (reply, db')) (id : Uuid) :
    db'.requestById id =
      (db.requestById id).map fun r => if r.id == w.requestId then w.apply r else r := by
  have applied := handle_ok written
  simp only [Tables.apply, bind_ok, orFail_ok, pure_ok, Prod.mk.injEq] at applied
  obtain ⟨_, _, _, _, _, same⟩ := applied
  rw [← same]
  exact Table.find_update _ _ _ w.apply_key _ fun _ => rfl

/-! ## Rules -/

section Rules

variable {A B : Type}

/-- Every statement of the lone run from `db` is current. -/
abbrev Foundation.Proc.Fresh (p : Op A) (db : Database) : Prop :=
  p.Leads handle Current (fun _ _ => True) db

theorem quiet_leads {p : Op A} (quiet : p.Issues Quiet) (db : Database) :
    p.Leads handle Current (fun _ db' => db'.requests = db.requests) db := by
  have kept :=
    Proc.leads_of_issues handle (R := fun s t : Database => t.requests = s.requests) (fun _ => rfl)
      (fun _ _ _ first second => second.trans first) (fun _ s quiet => requests_kept quiet s) p quiet db
  exact Proc.leads_mono handle p db kept (fun _ => current_of_quiet) (fun _ _ same => same)

theorem quiet_fresh {p : Op A} (quiet : p.Issues Quiet) (db : Database) : p.Fresh db :=
  Proc.leads_mono handle p db (quiet_leads quiet db) (fun _ current => current) (fun _ _ _ => trivial)

theorem quiet_bind {p : Op A} {f : A → Op B} {db : Database} (quiet : p.Issues Quiet)
    (rest : ∀ value db', db'.requests = db.requests → (f value).Fresh db') : (p >>= f).Fresh db :=
  Proc.leads_frame handle (R := fun s t : Database => t.requests = s.requests) (fun _ => rfl)
    (fun _ _ _ first second => second.trans first) (fun _ s quiet => requests_kept quiet s)
    (fun _ => current_of_quiet) quiet rest fun _ _ _ => trivial

theorem loadRequest_leads {P : Event store Database → Prop}
    {Q : Except Failure A → Database → Prop} {id : Uuid}
    {owned : AccreditationRequest → Bool} {f : AccreditationRequest → Op A} {db : Database}
    (rest : ∀ r, db.requestById id = some r → r.id = id → (f r).Leads handle P Q db)
    (failed : ∀ why, Q (.error why) db) : (loadRequest id owned >>= f).Leads handle P Q db := by
  rw [loadRequest_bind, Proc.leads_read]
  cases loaded : (db.requestById id).filter owned with
  | none => exact failed _
  | some r =>
      have found := (Option.filter_eq_some_iff.mp loaded).1
      exact rest r found (by simpa using (Table.find_some_mem found).2)

theorem guard_leads {P : Event store Database → Prop} {Q : Except Failure A → Database → Prop}
    {source target : RequestStatus} {f : Unit → Op A} {db : Database}
    (rest : target ∈ requestTransitions source → (f ()).Leads handle P Q db)
    (failed : ∀ why, Q (.error why) db) :
    (lift (assertTransitionAllowed source target) >>= f).Leads handle P Q db := by
  rcases assertTransitionAllowed_cases source target with ⟨allowed, same⟩ | ⟨_, same⟩
  · rw [same]
    exact rest allowed
  · rw [same]
    exact failed _

theorem loadRequest_fresh {id : Uuid} {owned : AccreditationRequest → Bool}
    {f : AccreditationRequest → Op A} {db : Database}
    (rest : ∀ r, db.requestById id = some r → r.id = id → (f r).Fresh db) :
    (loadRequest id owned >>= f).Fresh db := loadRequest_leads rest fun _ => trivial

theorem guard_fresh {source target : RequestStatus} {f : Unit → Op A} {db : Database}
    (rest : target ∈ requestTransitions source → (f ()).Fresh db) :
    (lift (assertTransitionAllowed source target) >>= f).Fresh db := guard_leads rest fun _ => trivial

theorem issue_fresh {stmt : Statement} {f : stmt.Reply → Op A} {db : Database}
    (current : Current (handle.event stmt db))
    (rest : ∀ reply db', handle stmt db = .ok (reply, db') → (f reply).Fresh db') :
    (issue stmt >>= f).Fresh db := by
  rw [issue_bind]
  exact Proc.leads_exec handle _ _ _ _ _ current rest fun _ _ => trivial

theorem last_fresh (stmt : Statement) {db : Database} (current : Current (handle.event stmt db)) :
    (issue stmt).Fresh db :=
  Proc.leads_exec handle _ _ _ _ _ current (fun _ _ _ => trivial) fun _ _ => trivial

theorem reply_leads {P : Event store Database → Prop} {p : Op A} {f : A → Reply} {db : Database}
    (leads : p.Leads handle P (fun _ _ => True) db) :
    (do let value ← p; return f value : Op Reply).Leads handle P (fun _ _ => True) db := by
  rw [Proc.leads_bind]
  refine Proc.leads_mono handle p db leads (fun _ holds => holds) fun r _ _ => ?_
  cases r <;> trivial

theorem reply_fresh {p : Op A} {f : A → Reply} {db : Database} (fresh : p.Fresh db) :
    (do let value ← p; return f value : Op Reply).Fresh db := reply_leads fresh

end Rules

/-! ## The operations -/

section Operations

variable (services : Services) (ambient : Ambient) (db : Database)

theorem statusOf_found {db db' : Database} {id : Uuid} {r : AccreditationRequest}
    (found : db.requestById id = some r) (same : db'.requests = db.requests) :
    db'.statusOf id = some r.status := by
  rw [statusOf_congr same, Tables.statusOf, found, Option.map_some]

theorem publish_quiet (event : DomainEvent) : (publish event).Issues Quiet :=
  issue_issues (publish_statement_quiet event)

theorem announce_quiet {A : Type} (event : DomainEvent) (value : A) :
    (do publish event; return value : Op A).Issues Quiet := Proc.issues_bind _ _ _
      (publish_quiet event) fun _ => trivial

theorem saveDraft_fresh (input : SaveDraftRequestUseCase.SaveDraftInput) :
    (SaveDraftRequestUseCase.execute ambient input).Fresh db := by
  unfold SaveDraftRequestUseCase.execute
  refine quiet_bind (getMatch_issues _) fun _ db₁ _ => ?_
  refine quiet_bind (getCategory_issues _) fun _ db₂ _ => ?_
  rw [Proc.query_bind, Proc.Fresh, Proc.leads_read]
  cases existing : db₂.requests.pick ambient.choice
      (SaveDraftRequestUseCase.isExistingDraft input.requesterId input.matchId) with
  | some draft =>
      rcases Table.pick_some_mem existing with ⟨member, isDraft⟩
      simp only [SaveDraftRequestUseCase.isExistingDraft, Bool.and_eq_true, beq_iff_eq] at isDraft
      have found : db₂.requestById draft.id = some draft := requestById_stored member
      dsimp only
      refine last_fresh (.editDraft _ _ _) ?_
      unfold Current
      simp only [Handler.event_stmt, Handler.event_before, statusOf_found found rfl, isDraft.2]
  | none =>
      -- The draft is only created when the lookup before it found none.
      have none_ := Table.pick_eq_none.mp existing
      refine quiet_bind (generateUnique_issues _ _ _ _ _ _) fun reference db₃ same => last_fresh
        (.createRequest _) ?_
      unfold Current
      simp only [Handler.event_stmt, Handler.event_before, same]
      exact none_

theorem submit_fresh (input : SubmitRequestUseCase.SubmitRequestInput) :
    (SubmitRequestUseCase.execute ambient input).Fresh db := by
  unfold SubmitRequestUseCase.execute
  refine loadRequest_fresh fun request found named => guard_fresh fun _ => ?_
  refine quiet_bind (getMatch_issues _) fun m db₁ same₁ => ?_
  refine quiet_bind (lift_issues _) fun _ db₂ same₂ => ?_
  refine quiet_bind (query_issues _) fun duplicate db₃ same₃ => ?_
  refine issue_fresh ?_ fun _ _ _ => quiet_fresh (announce_quiet _ _) _
  exact named ▸ statusOf_found found (same₃.trans (same₂.trans same₁))

theorem requestComplement_fresh (input : RequestComplementUseCase.RequestComplementInput) :
    (RequestComplementUseCase.execute ambient input).Fresh db := by
  unfold RequestComplementUseCase.execute
  refine loadRequest_fresh fun request found named => guard_fresh fun _ => ?_
  refine issue_fresh ?_ fun _ _ _ => quiet_fresh (announce_quiet _ _) _
  exact statusOf_found found rfl

theorem resolveComplement_fresh (input : ResolveComplementUseCase.ResolveComplementInput) :
    (ResolveComplementUseCase.execute ambient input).Fresh db := by
  unfold ResolveComplementUseCase.execute
  refine loadRequest_fresh fun request found named => ?_
  refine quiet_bind (query_issues _) fun foundComplement db₁ same₁ => ?_
  refine quiet_bind (orThrow_issues _ _) fun _ db₂ same₂ => ?_
  refine quiet_bind (issue_issues rfl) fun resolved db₃ same₃ => ?_
  refine quiet_bind (query_issues _) fun remainingOpen db₄ same₄ => ?_
  split
  · refine issue_fresh ?_ fun _ _ _ => trivial
    exact statusOf_found found (same₄.trans (same₃.trans (same₂.trans same₁)))
  · trivial

theorem transition_fresh (input : TransitionRequestStatusUseCase.TransitionRequestStatusInput) :
    (TransitionRequestStatusUseCase.execute input).Fresh db := by
  unfold TransitionRequestStatusUseCase.execute
  refine loadRequest_fresh fun request found named => guard_fresh fun _ => last_fresh (.writeStatus _) ?_
  exact statusOf_found found rfl

theorem cancel_fresh (input : CancelRequestUseCase.CancelRequestInput) :
    (CancelRequestUseCase.execute input).Fresh db := by
  unfold CancelRequestUseCase.execute
  refine loadRequest_fresh fun request found named => guard_fresh fun _ =>
    issue_fresh ?_ fun _ _ _ => quiet_fresh ?_ _
  · rw [← named] at found
    exact statusOf_found found rfl
  · split
    · exact Proc.issues_bind _ _ _ (releaseSlot_issues fun _ => rfl) fun _ => announce_quiet _ _
    · exact announce_quiet _ _

theorem generateAccreditation_quiet (issuedAt : Time) (requestId : Uuid) (zoneIds : List Uuid)
    (options : GenerateAccreditationOptions) :
    (generateAccreditation services ambient issuedAt requestId zoneIds options).Issues Quiet := by
  refine generateAccreditation_issues ?_ ?_
  · rintro _ ⟨row, rfl, _⟩
    rfl
  · rintro _ ⟨event, rfl⟩
    rfl

/-- Both writes of a decision are current: the badge is generated in between,
and leaves the request VALIDATED as the first write left it. -/
theorem decide_fresh (input : DecideRequestUseCase.DecideRequestInput) :
    (DecideRequestUseCase.execute services ambient input).Fresh db := by
  unfold DecideRequestUseCase.execute
  refine loadRequest_fresh fun request found named => guard_fresh fun _ => ?_
  have current (db₁ : Database) (same : db₁.requests = db.requests) :
      Current (handle.event (.writeStatus (DecideRequestUseCase.decisionWrite ambient input request)) db₁) := by
    rw [← named] at found
    exact statusOf_found found same
  cases verdict : input.status with
  | rejected =>
      simp only [reduceCtorEq, if_false]
      exact issue_fresh (current db rfl) fun _ _ _ => quiet_fresh (announce_quiet _ _) _
  | validated =>
      simp only [if_true]
      refine quiet_bind (reserveQuotaOrThrow_issues fun _ _ _ => rfl) fun _ db₁ same₁ => ?_
      refine issue_fresh (current db₁ same₁) fun updated db₂ written => ?_
      -- The first write leaves VALIDATED, and the generation touches no request.
      have validated := statusOf_written written
      refine quiet_bind (publish_quiet _) fun _ db₃ same₃ => ?_
      refine quiet_bind (generateAccreditation_quiet services ambient _ _ _ _) fun _ db₄ same₄ =>
        last_fresh (.writeStatus _) ?_
      unfold Current
      simp only [Handler.event_stmt, Handler.event_before, DecideRequestUseCase.badgeWrite]
      rw [statusOf_congr (same₄.trans same₃)]
      simpa [DecideRequestUseCase.decisionWrite, DecideRequestUseCase.Decision.status, verdict] using validated

def Operation.touchesRequests : Operation → Bool
  | .saveDraft .. => true
  | .submit .. => true
  | .requestComplement .. => true
  | .resolveComplement .. => true
  | .transition _ => true
  | .decide .. => true
  | .cancel _ => true
  | _ => false

theorem footprint_quiet {op : Operation} (other : op.touchesRequests = false) {stmt : Statement}
    (footprint : op.Footprint services stmt) : Quiet stmt := by
  cases op <;> simp only [Operation.touchesRequests, Bool.true_eq_false] at other <;>
    simp only [Operation.Footprint, GrantsBadge, Publishes, LogsScan] at footprint <;>
    unfold Quiet <;> grind [Statement.writesRequests]

theorem execute_fresh (op : Operation) : (op.execute services).Fresh db := by
  cases op with
  | saveDraft ambient input => exact reply_fresh (saveDraft_fresh ambient db input)
  | submit ambient input => exact reply_fresh (submit_fresh ambient db input)
  | requestComplement ambient input => exact reply_fresh (requestComplement_fresh ambient db input)
  | resolveComplement ambient input => exact reply_fresh (resolveComplement_fresh ambient db input)
  | transition input => exact reply_fresh (transition_fresh db input)
  | decide ambient input => exact reply_fresh (decide_fresh services ambient db input)
  | cancel input => exact reply_fresh (cancel_fresh db input)
  | _ =>
      exact quiet_fresh
        (Proc.issues_mono _ (execute_footprint services _) fun _ => footprint_quiet services rfl) db

theorem events_current (op : Operation) : ∀ e ∈ events services db op, Current e :=
  ((Proc.leads_iff handle _ _ _ db).mp (execute_fresh services db op)).1

theorem transition_written {input : TransitionRequestStatusUseCase.TransitionRequestStatusInput}
    {e : Event store Database} (member : e ∈ events services db (.transition input)) :
    e.before = db ∧ ∃ w, e.stmt = .writeStatus w ∧ w.requestId = input.requestId ∧
      w.target = input.toStatus ∧ input.toStatus ∈ requestTransitions w.seen ∧
      db.statusOf input.requestId = some w.seen := by
  have before : e.before = db := Proc.single_before handle (transition_single services input) db e member
  have current := events_current services db _ e member
  obtain ⟨w, shape, named, target, allowed⟩ := events_footprint services db _ e member
  refine ⟨before, w, shape, named, target, allowed, ?_⟩
  rw [← before, ← named]
  simpa [Current, shape] using current

end Operations

end AccreditationBackend
