import AccreditationBackend.Foundation.Stability
import AccreditationBackend.Requests.Lifecycle
import AccreditationBackend.Requests.StaleWrites

/-! Finished requests: calls that start after the end of a request leave it as it is.

A call that has read the request before its end may still write over it. One that
starts afterwards reads a status without transitions, whatever runs beside it.
-/

set_option autoImplicit false

namespace AccreditationBackend

open Foundation

/-- The request and its decisions, as they stand. -/
structure Frozen (r : AccreditationRequest) (journal : List RequestDecision) (db : Database) : Prop where
  row : db.requestById r.id = some r
  decisions : db.decisions.filter (·.requestId == r.id) = journal

/-- The statement writes to other requests only. A new row never replaces one. -/
def Statement.Spares (id : Uuid) : Statement → Prop
  | .editDraft other _ _ => other ≠ id
  | .writeStatus w => w.requestId ≠ id
  | _ => True

def Operation.sets : Operation → Option Uuid
  | .submit _ input => some input.requestId
  | .requestComplement _ input => some input.requestId
  | .transition input => some input.requestId
  | .decide _ input => some input.requestId
  | .cancel input => some input.requestId
  | _ => none

section Frozen

variable {r : AccreditationRequest} {journal : List RequestDecision}

theorem frozen_kept {stmt : Statement} {db : Database} (spares : stmt.Spares r.id)
    (frozen : Frozen r journal db) : Frozen r journal (handle.after stmt db) where
  row := by
    have step := request_step stmt db r.id
    rw [frozen.row] at step
    generalize (handle.after stmt db).requestById r.id = after at step
    cases step with
    | edited named => exact absurd rfl spares
    | written named => exact absurd named spares
    | unchanged => rfl
  decisions := by
    obtain grown | same := decisions_step stmt db
    · rw [grown, List.filter_append, frozen.decisions]
      have none_ : stmt.decided.filter (·.requestId == r.id) = [] := by
        refine List.filter_eq_nil_iff.mpr fun d member of => ?_
        cases stmt with
        | writeStatus w =>
            obtain ⟨entry, -, rfl⟩ := List.mem_map.mp member
            exact spares (beq_iff_eq.mp of)
        | _ => cases member
      rw [none_, List.append_nil]
    · rw [same]
      exact frozen.decisions

/-! ## Rules -/

section Rules

variable {A : Type} {Q : Except Failure A → Prop}

/-- The call keeps the request frozen, whatever runs beside it. -/
abbrev Foundation.Proc.Freezes (p : Op A) (r : AccreditationRequest) (journal : List RequestDecision)
    (Q : Except Failure A → Prop) : Prop := p.Respects handle (Frozen r journal) Q

theorem sparing_freezes {p : Op A} (issues : p.Issues (Statement.Spares r.id)) :
    p.Freezes r journal fun _ => True :=
  Proc.respects_issues (fun _ _ spares frozen => frozen_kept spares frozen) issues

theorem loadRequest_freezes {id : Uuid} {owned : AccreditationRequest → Bool} {f : AccreditationRequest → Op A}
    (rest : ∀ found, found.id = id → (id = r.id → found = r) → (f found).Freezes r journal Q)
    (failed : ∀ why, Q (.error why)) : (loadRequest id owned >>= f).Freezes r journal Q := by
  rw [loadRequest_bind]
  intro db frozen
  dsimp only
  cases loaded : (db.requestById id).filter owned with
  | none => exact failed _
  | some found =>
      have stored := (Option.filter_eq_some_iff.mp loaded).1
      refine rest found (by simpa using (Table.find_some_mem stored).2) fun same => ?_
      rw [same, frozen.row] at stored
      exact (Option.some.inj stored).symm

theorem guard_freezes {source target : RequestStatus} {f : Unit → Op A}
    (rest : target ∈ requestTransitions source → (f ()).Freezes r journal Q)
    (failed : ∀ why, Q (.error why)) :
    (lift (assertTransitionAllowed source target) >>= f).Freezes r journal Q := by
  obtain ⟨allowed, same⟩ | ⟨_, same⟩ := assertTransitionAllowed_cases source target
  · rw [same]
    exact rest allowed
  · rw [same]
    exact failed _

end Rules

/-! ## The operations -/

section Operations

variable (terminal : r.status.Terminal)

include terminal

theorem guarded_freezes {A : Type} {id : Uuid} {owned : AccreditationRequest → Bool} {target : RequestStatus}
    {f : AccreditationRequest → Unit → Op A} (named : id = r.id) :
    (loadRequest id owned >>= fun found =>
      lift (assertTransitionAllowed found.status target) >>= f found).Freezes r journal
        fun result => ∃ why, result = .error why := by
  refine loadRequest_freezes (fun found _ same => ?_) fun why => ⟨why, rfl⟩
  refine guard_freezes (fun allowed => ?_) fun why => ⟨why, rfl⟩
  rw [same named, terminal] at allowed
  cases allowed

omit terminal in
theorem reply_freezes {A : Type} {p : Op A} {f : A → Reply}
    (refused : p.Freezes r journal fun result => ∃ why, result = .error why) :
    (do let value ← p; return f value : Op Reply).Freezes r journal fun result => ∃ why, result = .error why := by
  refine Proc.outline_seq refused fun result _ failed => ?_
  obtain ⟨why, rfl⟩ := failed
  exact ⟨why, rfl⟩

theorem resolveComplement_freezes (ambient : Ambient) (input : ResolveComplementUseCase.ResolveComplementInput) :
    (ResolveComplementUseCase.execute ambient input).Freezes r journal fun _ => True := by
  have keeps (stmt : Statement) (db : Database) (spares : stmt.Spares r.id) (frozen : Frozen r journal db) :
      Frozen r journal (handle.after stmt db) := frozen_kept spares frozen
  unfold ResolveComplementUseCase.execute
  refine loadRequest_freezes (fun found named same => ?_) fun _ => trivial
  refine Proc.respects_frame keeps (query_issues _) (fun complement => ?_) fun _ => trivial
  refine Proc.respects_frame keeps (orThrow_issues _ _) (fun _ => ?_) fun _ => trivial
  refine Proc.respects_frame keeps (issue_issues trivial) (fun resolved => ?_) fun _ => trivial
  refine Proc.respects_frame keeps (query_issues _) (fun remainingOpen => ?_) fun _ => trivial
  split
  next open_ =>
    refine sparing_freezes (Proc.issues_bind _ _ _ (issue_issues fun mine => ?_) fun _ => trivial)
    have infoRequested : r.status = .infoRequested := same mine ▸ open_.2
    rw [RequestStatus.Terminal, infoRequested] at terminal
    cases terminal
  next => trivial

theorem saveDraft_freezes (ambient : Ambient) (input : SaveDraftRequestUseCase.SaveDraftInput) :
    (SaveDraftRequestUseCase.execute ambient input).Freezes r journal fun _ => True := by
  have keeps (stmt : Statement) (db : Database) (spares : stmt.Spares r.id) (frozen : Frozen r journal db) :
      Frozen r journal (handle.after stmt db) := frozen_kept spares frozen
  unfold SaveDraftRequestUseCase.execute
  refine Proc.respects_frame keeps (getMatch_issues _) (fun _ => ?_) fun _ => trivial
  refine Proc.respects_frame keeps (getCategory_issues _) (fun _ => ?_) fun _ => trivial
  rw [Proc.query_bind]
  intro db frozen
  dsimp only
  cases picked : db.requests.pick ambient.choice
      (SaveDraftRequestUseCase.isExistingDraft input.requesterId input.matchId) with
  | none =>
      refine sparing_freezes (Proc.issues_bind _ _ _ (generateUnique_issues _ _ _ _ _ _) fun _ => ?_)
      exact issue_issues trivial
  | some draft =>
      refine sparing_freezes (issue_issues fun mine => ?_)
      obtain ⟨stored, isDraft⟩ := Table.pick_some_mem picked
      have found : db.requestById r.id = some draft :=
        (Table.find_some_iff (selects_requestId r.id)).mpr ⟨stored, beq_iff_eq.mpr mine⟩
      obtain rfl : r = draft := Option.some.inj (frozen.row.symm.trans found)
      simp only [SaveDraftRequestUseCase.isExistingDraft, Bool.and_eq_true, beq_iff_eq] at isDraft
      rw [RequestStatus.Terminal, isDraft.2] at terminal
      cases terminal

omit terminal in
theorem footprint_spares {services : Services} {op : Operation} {stmt : Statement} (other : op.sets ≠ some r.id)
    (footprint : op.Footprint services stmt) (draft : ∀ ambient input, op ≠ .saveDraft ambient input)
    (resolve : ∀ ambient input, op ≠ .resolveComplement ambient input) : stmt.Spares r.id := by
  have write {id : Uuid} {target : RequestStatus} (apart : some id ≠ some r.id)
      (writes : WritesTo id target stmt) : stmt.Spares r.id := by
    obtain ⟨w, rfl, rfl, -, -⟩ := writes
    exact fun mine => apart (congrArg some mine)
  have published (publishes : Publishes stmt) : stmt.Spares r.id := by
    obtain ⟨event, rfl⟩ := publishes
    trivial
  have quiet (unwritten : op.touchesRequests = false) : stmt.Spares r.id := by
    have writesNone := footprint_quiet services unwritten footprint
    unfold Quiet at writesNone
    cases stmt <;> trivial
  cases op with
  | saveDraft ambient input => exact absurd rfl (draft ambient input)
  | resolveComplement ambient input => exact absurd rfl (resolve ambient input)
  | submit ambient input => exact footprint.elim (write other) published
  | requestComplement ambient input => exact footprint.elim (write other) published
  | transition input => exact write other footprint
  | decide ambient input =>
      rcases footprint with writes | publishes | ⟨_, ⟨_, id, limit, rfl⟩ | ⟨row, rfl, _⟩ | writes⟩
      · exact write other writes
      · exact published publishes
      · trivial
      · trivial
      · exact write other writes
  | cancel input =>
      rcases footprint with writes | publishes | ⟨id, rfl⟩
      · exact write other writes
      · exact published publishes
      · trivial
  | _ => exact quiet rfl

theorem setting_freezes (services : Services) {op : Operation} (mine : op.sets = some r.id) :
    (op.execute services).Freezes r journal fun result => ∃ why, result = .error why := by
  cases op with
  | submit ambient input => exact reply_freezes (guarded_freezes terminal (Option.some.inj mine))
  | requestComplement ambient input => exact reply_freezes (guarded_freezes terminal (Option.some.inj mine))
  | transition input => exact reply_freezes (guarded_freezes terminal (Option.some.inj mine))
  | decide ambient input => exact reply_freezes (guarded_freezes terminal (Option.some.inj mine))
  | cancel input => exact reply_freezes (guarded_freezes terminal (Option.some.inj mine))
  | _ => cases mine

theorem execute_freezes (services : Services) (op : Operation) :
    (op.execute services).Freezes r journal fun result => op.sets = some r.id → ∃ why, result = .error why := by
  by_cases mine : op.sets = some r.id
  · exact Proc.outline_mono _ _ _ _ (setting_freezes terminal services mine) fun _ _ refused _ => refused
  · have free {p : Op Reply} (freezes : p.Freezes r journal fun _ => True) :
        p.Freezes r journal fun result => op.sets = some r.id → ∃ why, result = .error why :=
      Proc.outline_mono _ _ _ _ freezes fun _ _ _ named => absurd named mine
    have replied {A : Type} {p : Op A} {f : A → Reply} (freezes : p.Freezes r journal fun _ => True) :
        (do let value ← p; return f value : Op Reply).Freezes r journal fun _ => True :=
      Proc.outline_seq freezes fun result _ _ => by cases result <;> trivial
    cases op with
    | saveDraft ambient input => exact free (replied (saveDraft_freezes terminal ambient input))
    | resolveComplement ambient input => exact free (replied (resolveComplement_freezes terminal ambient input))
    | _ =>
        refine free (sparing_freezes (Proc.issues_mono _ (execute_footprint services _) fun stmt footprint => ?_))
        exact footprint_spares mine footprint (by simp) (by simp)

end Operations

end Frozen

/-- Whatever calls start after the end of a request, and however they interleave: the
request and its decisions stay as they are, and every call that sets its status fails. -/
theorem finished_frozen {ι : Type} [DecidableEq ι] (services : Services) (start : Database)
    (calls : ι → Operation) (schedule : List ι) {r : AccreditationRequest} (stored : r ∈ start.requests.rows)
    (terminal : r.status.Terminal) :
    ((operationPool services start calls).play handle schedule).2.store.requestById r.id = some r ∧
    ((operationPool services start calls).play handle schedule).2.store.decisions.filter (·.requestId == r.id) =
      start.decisions.filter (·.requestId == r.id) ∧
    ∀ i result, (((operationPool services start calls).play handle schedule).2.procs i).ended = some result →
      (calls i).sets = some r.id → ∃ why, result = .error why := by
  have begun : Frozen r (start.decisions.filter (·.requestId == r.id)) start :=
    ⟨(Table.find_some_iff (selects_requestId r.id)).mpr ⟨stored, beq_self_eq_true _⟩, rfl⟩
  obtain ⟨frozen, each⟩ := Pool.play_respects handle schedule (operationPool services start calls) begun
    fun i => execute_freezes terminal services (calls i)
  exact ⟨frozen.row, frozen.decisions, each⟩

/-- The dossier under review, refused before anything else starts. -/
def refused : Database :=
  perform sampleServices underReview
    (.decide {} { requestId := "dossier", actorId := "agent", status := .rejected, reason := some "non" })

theorem finished_frozen_refused :
    ∃ r ∈ refused.requests.rows, r.id = "dossier" ∧ r.status = .rejected ∧
      ((operationPool sampleServices refused refuseAndWithdraw).play handle
        [0, 1, 0, 1, 0, 1]).2.store.requestById "dossier" = some r :=
  ⟨refused.requests.rows.head (by decide), List.head_mem _, by decide, by decide,
    (finished_frozen sampleServices refused refuseAndWithdraw [0, 1, 0, 1, 0, 1]
      (List.head_mem (by decide)) (by decide)).1⟩

end AccreditationBackend
