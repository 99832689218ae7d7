import AccreditationBackend.Requests.Slots

/-! Use cases that run alone: what their opening refuses, and what they leave behind.

A refused call executes no statement, so it leaves the database as it found it.
-/

set_option autoImplicit false

namespace AccreditationBackend

open Foundation

/-! ## Openings -/

section Openings

variable {A : Type} {db : Database} {id : Uuid} {owned : AccreditationRequest → Bool}
  {source target : RequestStatus}

theorem loadRequest_refused {f : AccreditationRequest → Op A}
    (missing : (db.requestById id).filter owned = none) :
    (loadRequest id owned >>= f).run handle db = (.error (.domain requestNotFound), db) := by
  rw [loadRequest_bind, Proc.run, missing]
  rfl

theorem loadRequest_passed {f : AccreditationRequest → Op A} {r : AccreditationRequest}
    (found : (db.requestById id).filter owned = some r) :
    (loadRequest id owned >>= f).run handle db = (f r).run handle db := by
  rw [loadRequest_bind, Proc.run, found]
  rfl

theorem guard_refused {f : Unit → Op A} (forbidden : target ∉ requestTransitions source) :
    (lift (assertTransitionAllowed source target) >>= f).run handle db =
      (.error (.domain (invalidTransition source target)), db) := by
  rw [assertTransitionAllowed, if_neg forbidden]
  rfl

theorem guard_passed {f : Unit → Op A} (allowed : target ∈ requestTransitions source) :
    (lift (assertTransitionAllowed source target) >>= f).run handle db = (f ()).run handle db := by
  rw [assertTransitionAllowed, if_pos allowed]
  rfl

theorem reply_run {p : Op A} {f : A → Reply} :
    (do let value ← p; return f value : Op Reply).run handle db =
      ((p.run handle db).1.map f, (p.run handle db).2) := by
  rw [Proc.run_bind]
  generalize p.run handle db = result
  obtain ⟨r, t⟩ := result
  cases r <;> rfl

theorem decide_returned {services : Services} {ambient : Ambient}
    {input : DecideRequestUseCase.DecideRequestInput}
    (returned : (outcome services db (.decide ambient input)).isOk = true) :
    ∃ reply, (DecideRequestUseCase.execute services ambient input).run handle db =
      (.ok reply, perform services db (.decide ambient input)) := by
  simp only [outcome, perform, Operation.execute, reply_run] at returned ⊢
  generalize (DecideRequestUseCase.execute services ambient input).run handle db = result at returned ⊢
  obtain ⟨r, t⟩ := result
  cases r with
  | ok reply => exact ⟨reply, rfl⟩
  | error why => cases returned

theorem issue_run (stmt : Statement) (db : Database) :
    (issue stmt).run handle db = ((handle stmt db).map Prod.fst, handle.after stmt db) := by
  simp only [issue, Proc.command, Proc.run]
  cases replied : handle stmt db with
  | ok result => rw [handle.after_ok replied]; rfl
  | error why => rw [handle.after_error replied]; rfl

theorem issue_bind_run {stmt : Statement} {f : stmt.Reply → Op A} {reply : stmt.Reply}
    {t : Database} (replied : handle stmt db = .ok (reply, t)) :
    (issue stmt >>= f).run handle db = (f reply).run handle t := by
  rw [issue_bind, Proc.run, replied]

theorem statusOf_some {status : RequestStatus} (stored : db.statusOf id = some status) :
    ∃ r, db.requestById id = some r ∧ r.status = status := Option.map_eq_some_iff.mp stored

end Openings

section Operations

variable (services : Services)

/-! ## Transitions -/

/-- The one write of a generic transition that is allowed. -/
def transitionWrite (input : TransitionRequestStatusUseCase.TransitionRequestStatusInput)
    (seen : RequestStatus) : StatusWrite where
  requestId := input.requestId
  seen := seen
  target := input.toStatus
  journal := some { actorId := input.actorId, reason := input.reason }

theorem transition_alone {input : TransitionRequestStatusUseCase.TransitionRequestStatusInput}
    {db : Database} {status : RequestStatus} (stored : db.statusOf input.requestId = some status)
    (allowed : input.toStatus ∈ requestTransitions status) :
    perform services db (.transition input) =
      handle.after (.writeStatus (transitionWrite input status)) db := by
  obtain ⟨r, found, rfl⟩ := statusOf_some stored
  simp only [perform, Operation.execute, reply_run, TransitionRequestStatusUseCase.execute]
  rw [loadRequest_passed (by rw [found]; rfl), guard_passed allowed, issue_run]
  rfl

/-! ## Submissions -/

abbrev submitWrite (ambient : Ambient) (input : SubmitRequestUseCase.SubmitRequestInput)
    (request : AccreditationRequest) (duplicate : Option AccreditationRequest) : StatusWrite where
  requestId := request.id
  seen := request.status
  target := .submitted
  data := { submittedAt := some (ambient.clock 1), duplicateOfId := duplicate.map (·.id) }
  journal := some { actorId := input.actorUserId }

theorem publish_after (event : DomainEvent) (db : Database) :
    handle (.publish event) db = .ok ((), handle.after (.publish event) db) := handle_replies rfl rfl

theorem submit_cases (ambient : Ambient) (input : SubmitRequestUseCase.SubmitRequestInput)
    (db : Database) :
    ((outcome services db (.submit ambient input)).isOk = false ∧
      perform services db (.submit ambient input) = db) ∨
      ∃ request duplicate, db.requestById input.requestId = some request ∧
        request.requesterId = input.requesterId ∧
        .submitted ∈ requestTransitions request.status ∧
        db.requests.pick ambient.choice (SubmitRequestUseCase.isDuplicate request) = duplicate ∧
        (outcome services db (.submit ambient input)).isOk = true ∧
        perform services db (.submit ambient input) =
          handle.after (.publish (.requestSubmitted request.id request.requesterId))
            (handle.after (.writeStatus (submitWrite ambient input request duplicate)) db) := by
  simp only [outcome, perform, Operation.execute, reply_run, SubmitRequestUseCase.execute]
  cases loaded : (db.requestById input.requestId).filter (·.requesterId == input.requesterId) with
  | none =>
      rw [loadRequest_refused loaded]
      exact .inl ⟨rfl, rfl⟩
  | some request =>
      rw [loadRequest_passed loaded]
      by_cases allowed : RequestStatus.submitted ∈ requestTransitions request.status
      · rw [guard_passed allowed]
        simp only [getMatch, Proc.query_bind, Proc.read_bind, Proc.run]
        cases found : db.matchRows.find (·.id == request.matchId) with
        | none => exact .inl ⟨rfl, rfl⟩
        | some m =>
            simp only [orThrow_some_bind]
            cases accepting : assertAcceptingRequests (ambient.clock 0) m with
            | error why => exact .inl ⟨rfl, rfl⟩
            | ok _ =>
                right
                obtain ⟨stored, owner⟩ := Option.filter_eq_some_iff.mp loaded
                have named := beq_iff_eq.mp (Table.find_some_mem stored).2
                refine ⟨request, _, stored, beq_iff_eq.mp owner, allowed, rfl, ?_⟩
                simp only [lift_ok_bind, Proc.run]
                rw [issue_bind_run
                  (handle_written (w := submitWrite ambient input request _) (named.symm ▸ stored) rfl)]
                simp only [publish_bind, Proc.run, publish_after]
                exact ⟨rfl, rfl⟩
      · rw [guard_refused allowed]
        exact .inl ⟨rfl, rfl⟩

/-! ## Complements -/

/-- The open complements of a request, as they are counted after each resolution. -/
def Tables.openComplements (t : Tables) (requestId : Uuid) : Nat :=
  t.complements.count fun c => c.requestId == requestId && c.resolvedAt == none

theorem selects_complementId (id : Uuid) : Table.Selects (ρ := RequestComplement) (·.id == id) := by
  intro a b left right
  exact (beq_iff_eq.mp left).trans (beq_iff_eq.mp right).symm

theorem handle_resolve {id : Uuid} (now : Time) {db : Database} {c : RequestComplement}
    (found : db.complements.find (·.id == id) = some c) :
    handle (.resolveComplement id now) db =
      .ok (resolve now c, handle.after (.resolveComplement id now) db) :=
  handle_replies rfl (by rw [Tables.apply, found]; rfl)

theorem complements_resolved {id : Uuid} {now : Time} {db : Database} {c : RequestComplement}
    (found : db.complements.find (·.id == id) = some c) :
    (handle.after (.resolveComplement id now) db).complements =
      db.complements.update (·.id == id) (resolve now) (resolve_key now) := by
  have after : (handle.after (.resolveComplement id now) db).toTables = _ :=
    after_applied rfl (by rw [Tables.apply, found]; rfl)
  rw [after]

theorem openComplements_resolved {id requestId : Uuid} {now : Time} {db : Database}
    {c : RequestComplement} (found : db.complements.find (·.id == id) = some c) :
    (handle.after (.resolveComplement id now) db).openComplements requestId =
      db.complements.count fun c => c.requestId == requestId && c.resolvedAt == none && c.id != id := by
  simp only [Tables.openComplements, complements_resolved found, Table.count, Table.update,
    List.countP_map]
  refine List.countP_congr fun c _ => ?_
  by_cases same : c.id = id <;> simp [same, resolve]

/-- The write that returns a request to the review, when its last complement is resolved. -/
def returnWrite (requestId : Uuid) (seen : RequestStatus) : StatusWrite where
  requestId := requestId
  seen := seen
  target := .underReview

section Resolve

variable (ambient : Ambient) {input : ResolveComplementUseCase.ResolveComplementInput} {db : Database}

theorem resolveComplement_refused
    (refused : (db.requestById input.requestId).filter (·.requesterId == input.requesterId) = none ∨
      (db.complements.find (·.id == input.complementId)).filter (·.requestId == input.requestId) = none) :
    ∃ why, why.kind = .notFound ∧ outcome services db (.resolveComplement ambient input) =
      .error (.domain why) ∧
      perform services db (.resolveComplement ambient input) = db := by
  simp only [outcome, perform, Operation.execute, reply_run, ResolveComplementUseCase.execute]
  cases loaded : (db.requestById input.requestId).filter (·.requesterId == input.requesterId) with
  | none =>
      rw [loadRequest_refused loaded]
      exact ⟨_, rfl, rfl, rfl⟩
  | some r =>
      have missing := refused.resolve_left (by simp [loaded])
      rw [loadRequest_passed loaded]
      simp only [Proc.query_bind, Proc.run, missing]
      exact ⟨_, rfl, rfl, rfl⟩

theorem resolveComplement_passed {r : AccreditationRequest} {c : RequestComplement}
    (loaded : (db.requestById input.requestId).filter (·.requesterId == input.requesterId) = some r)
    (found : (db.complements.find (·.id == input.complementId)).filter
      (·.requestId == input.requestId) = some c) :
    perform services db (.resolveComplement ambient input) =
      let resolved := handle.after (.resolveComplement input.complementId (ambient.clock 0)) db
      if resolved.openComplements input.requestId = 0 ∧ r.status = .infoRequested then
        handle.after (.writeStatus (returnWrite input.requestId r.status)) resolved
      else resolved := by
  have stored := (Option.filter_eq_some_iff.mp found).1
  simp only [perform, Operation.execute, reply_run, ResolveComplementUseCase.execute]
  rw [loadRequest_passed loaded]
  simp only [Proc.query_bind, Proc.run, found]
  rw [orThrow_some_bind, Proc.run_bind, issue_run, handle_resolve _ stored]
  simp only [Except.map, Proc.run, Tables.openComplements]
  split
  next closes =>
    refine Eq.trans ?_ (if_pos closes).symm
    rw [Proc.run_bind, issue_run]
    cases handle _ _ <;> rfl
  next closes => exact (if_neg closes).symm

theorem resolveComplement_closes {r : AccreditationRequest} {c : RequestComplement}
    (found : db.requestById input.requestId = some r) (owner : r.requesterId = input.requesterId)
    (stored : db.complements.find (·.id == input.complementId) = some c)
    (ofRequest : c.requestId = input.requestId)
    (closed : (handle.after (.resolveComplement input.complementId (ambient.clock 0)) db).openComplements
      input.requestId = 0)
    (asked : r.status = .infoRequested) :
    perform services db (.resolveComplement ambient input) =
      handle.after (.writeStatus (returnWrite input.requestId r.status))
        (handle.after (.resolveComplement input.complementId (ambient.clock 0)) db) :=
  (resolveComplement_passed services ambient
    (Option.filter_eq_some_iff.mpr ⟨found, by simp [owner]⟩)
    (Option.filter_eq_some_iff.mpr ⟨stored, by simp [ofRequest]⟩)).trans (if_pos ⟨closed, asked⟩)

theorem resolveComplement_cases :
    perform services db (.resolveComplement ambient input) = db ∨
      ∃ r c, (db.requestById input.requestId = some r ∧ r.requesterId = input.requesterId) ∧
        (db.complements.find (·.id == input.complementId) = some c ∧ c.requestId = input.requestId) ∧
        perform services db (.resolveComplement ambient input) =
          let resolved := handle.after (.resolveComplement input.complementId (ambient.clock 0)) db
          if resolved.openComplements input.requestId = 0 ∧ r.status = .infoRequested then
            handle.after (.writeStatus (returnWrite input.requestId r.status)) resolved
          else resolved := by
  cases loaded : (db.requestById input.requestId).filter (·.requesterId == input.requesterId) with
  | none =>
      obtain ⟨_, _, _, same⟩ := resolveComplement_refused services ambient (.inl loaded)
      exact .inl same
  | some r =>
      cases found : (db.complements.find (·.id == input.complementId)).filter
        (·.requestId == input.requestId) with
      | none =>
          obtain ⟨_, _, _, same⟩ := resolveComplement_refused services ambient (.inr found)
          exact .inl same
      | some c =>
          obtain ⟨stored, owner⟩ := Option.filter_eq_some_iff.mp loaded
          obtain ⟨inside, named⟩ := Option.filter_eq_some_iff.mp found
          exact .inr ⟨r, c, ⟨stored, beq_iff_eq.mp owner⟩, ⟨inside, beq_iff_eq.mp named⟩,
            resolveComplement_passed services ambient loaded found⟩

end Resolve

end Operations

end AccreditationBackend
