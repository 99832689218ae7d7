import AccreditationBackend.Requests.Journal

/-! The open complements of a request against its status.

Nothing stored ties the two together: each use case keeps them in step by what
it writes beside the status.
-/

set_option autoImplicit false

namespace AccreditationBackend

open Foundation

/-- One complement is open while a request is under question, and none otherwise. -/
def InStep (db : Database) : Prop :=
  ∀ id r, db.requestById id = some r → r.status ≠ .cancelled →
    db.openComplements id = if r.status = .infoRequested then 1 else 0

/-- The use cases of the requests, and transitions that keep clear of INFO_REQUESTED. -/
def Steady (db : Database) : Operation → Prop
  | .saveDraft .. | .submit .. | .requestComplement .. | .resolveComplement .. | .decide
      .. | .cancel .. => True
  | .transition input =>
      input.toStatus ≠ .infoRequested ∧ db.statusOf input.requestId ≠ some .infoRequested
  | _ => False

/-- A status written with its complement asks for it; one written without leaves
INFO_REQUESTED by a cancellation at most. -/
def Paired (stmt : Statement) : Prop :=
  match stmt with
  | .writeStatus w =>
      match w.complement with
      | some c => w.target = .infoRequested ∧ c.requestId = w.requestId ∧ c.resolvedAt = none
      | none => w.target ≠ .infoRequested ∧ (w.seen = .infoRequested → w.target = .cancelled)
  | .resolveComplement .. => False
  | _ => True

/-! ## One statement -/

section Statements

variable {stmt : Statement} {db : Database}

theorem openComplements_congr {t t' : Tables} (same : t'.complements = t.complements) (id : Uuid) :
    t'.openComplements id = t.openComplements id := by
  simp only [Tables.openComplements, same]

theorem openComplements_missing {id : Uuid} (missing : db.requestById id = none) :
    db.openComplements id = 0 := by
  refine List.countP_eq_zero.mpr fun c member holds => ?_
  simp only [Bool.and_eq_true, beq_iff_eq] at holds
  obtain ⟨r, stored, same⟩ :=
    List.mem_map.mp (db.referential.complement_request (List.mem_map_of_mem member))
  have absent := Table.find_eq_none.mp missing r stored
  rw [same, holds.1] at absent
  simp at absent

theorem openComplements_added {w : StatusWrite} {c : RequestComplement} {db' : Database}
    {reply : AccreditationRequest} (written : handle (.writeStatus w) db = .ok (reply, db'))
    (carried : w.complement = some c) (unresolved : c.resolvedAt = none) (id : Uuid) :
    db'.openComplements id = db.openComplements id + if c.requestId = id then 1 else 0 := by
  have applied := handle_ok written
  simp only [Tables.apply, bind_ok, orFail_ok, pure_ok, carried, Tables.addComplement, require_ok,
    Prod.mk.injEq] at applied
  obtain ⟨_, _, complements, ⟨_, _, inserted⟩, _, same⟩ := applied
  rw [← same]
  simp only [Tables.openComplements, Table.count_insert inserted]
  simp [unresolved]

theorem openComplements_apart (paired : Paired stmt) {id : Uuid}
    (apart : ∀ w, stmt = .writeStatus w → w.requestId ≠ id) :
    (handle.after stmt db).openComplements id = db.openComplements id := by
  cases stmt with
  | writeStatus w =>
      cases carried : w.complement with
      | none =>
          exact openComplements_congr
            (complements_kept (by simp [Statement.writesComplements, carried]) db) id
      | some c =>
          simp only [Paired, carried] at paired
          cases written : handle (.writeStatus w) db with
          | error why => rw [handle.after_error written]
          | ok result =>
              rw [handle.after_ok written, openComplements_added written carried paired.2.2,
                if_neg (paired.2.1.trans_ne (apart w rfl)), Nat.add_zero]
  | resolveComplement => exact paired.elim
  | _ => exact openComplements_congr (complements_kept rfl db) id

theorem inStep_written {w : StatusWrite} {db' : Database} {reply : AccreditationRequest}
    (written : handle (.writeStatus w) db = .ok (reply, db'))
    (seen : db.statusOf w.requestId = some w.seen) (lawful : w.target ∈ requestTransitions w.seen)
    (paired : Paired (.writeStatus w)) (inStep : InStep db) (alive : w.target ≠ .cancelled) :
    db'.openComplements w.requestId = if w.target = .infoRequested then 1 else 0 := by
  obtain ⟨before, found, status⟩ := statusOf_some seen
  have held := inStep w.requestId before found
  rw [status] at held
  cases carried : w.complement with
  | none =>
      simp only [Paired, carried] at paired
      have clear : w.seen ≠ .infoRequested := fun asked => alive (paired.2 asked)
      have open_ : w.seen ≠ .cancelled := fun ended => by
        rw [ended] at lawful
        cases lawful
      have plain : (Statement.writeStatus w).writesComplements = false := by
        simp [Statement.writesComplements, carried]
      have kept := complements_kept plain db
      rw [handle.after_ok written] at kept
      rw [openComplements_congr kept, held open_, if_neg clear, if_neg paired.1]
  | some c =>
      simp only [Paired, carried] at paired
      obtain ⟨target, named, unresolved⟩ := paired
      -- Only a request under review is asked for a complement, and it has none open.
      have review : w.seen = .underReview := by
        rw [target] at lawful
        cases shape : w.seen <;> simp [shape, requestTransitions] at lawful
        rfl
      rw [openComplements_added written carried unresolved, held (by simp [review]), if_pos named,
        if_pos target]
      simp [review]

theorem inStep_step (current : Current (handle.event stmt db)) (lawful : Lawful stmt)
    (paired : Paired stmt) (inStep : InStep db) : InStep (handle.after stmt db) := by
  intro id r stored alive
  by_cases writes : ∃ w, stmt = .writeStatus w ∧ w.requestId = id
  · obtain ⟨w, rfl, rfl⟩ := writes
    cases written : handle (.writeStatus w) db with
    | error why =>
        rw [handle.after_error written] at stored ⊢
        exact inStep _ r stored alive
    | ok result =>
        have status := statusOf_written written
        rw [handle.after_ok written] at stored ⊢
        rw [Tables.statusOf, stored, Option.map_some, Option.some.injEq] at status
        rw [status] at alive ⊢
        exact inStep_written written current lawful paired inStep alive
  · have apart : ∀ w, stmt = .writeStatus w → w.requestId ≠ id :=
      fun w same named => writes ⟨w, same, named⟩
    rw [openComplements_apart paired apart]
    obtain ⟨new, draft⟩ | ⟨before, found, same⟩ := status_unwritten current lawful apart stored
    · rw [openComplements_missing new, draft]
      rfl
    · rw [← same] at alive ⊢
      exact inStep id before found alive

end Statements

/-! ## One operation -/

section Operations

variable {services : Services} {db : Database} {op : Operation}

theorem paired_write {id : Uuid} {target : RequestStatus} {stmt : Statement}
    (writes : WritesTo id target stmt) (carries : op.Writes stmt) (asks : op.asksComplement = false)
    (asked : target ≠ .infoRequested)
    (review : target = .underReview → ∀ w, stmt = .writeStatus w → w.seen ≠ .infoRequested) :
    Paired stmt := by
  obtain ⟨w, rfl, _, rfl, allowed⟩ := writes
  have plain := (carries w rfl).complement asks
  simp only [Paired, plain]
  refine ⟨asked, fun seen => ?_⟩
  rw [seen] at allowed
  simp only [requestTransitions, List.mem_cons, List.not_mem_nil, or_false] at allowed
  exact allowed.resolve_left fun target => review target w rfl seen

theorem requestComplement_paired (ambient : Ambient)
    (input : RequestComplementUseCase.RequestComplementInput) :
    (RequestComplementUseCase.execute ambient input).Issues Paired := by
  unfold RequestComplementUseCase.execute
  refine loadRequest_issues fun request _ => guard_issues fun _ => ?_
  refine Proc.issues_bind _ _ _ (issue_issues ⟨rfl, rfl, rfl⟩) fun _ => ?_
  exact Proc.issues_bind _ _ _ (issue_issues trivial) fun _ => trivial

theorem paired_of_publishes {stmt : Statement} (publishes : Publishes stmt) : Paired stmt := by
  obtain ⟨event, rfl⟩ := publishes
  trivial

/-- Every statement of a steady operation but a resolution keeps the two together. -/
theorem steady_paired (steady : Steady db op) (resolves : op.resolves = false) :
    ∀ e ∈ events services db op, Paired e.stmt := by
  intro e member
  have footprint := events_footprint services db op e member
  have carries := events_write services db op e member
  cases op with
  | saveDraft ambient input =>
      rcases footprint with ⟨id, same⟩ | ⟨reference, same⟩ <;> rw [same] <;> trivial
  | submit ambient input =>
      rcases footprint with writes | publishes
      · exact paired_write writes carries rfl (by simp) (by simp)
      · exact paired_of_publishes publishes
  | requestComplement ambient input =>
      exact Proc.events_issued handle _
        (reply_issues (requestComplement_paired ambient input)) db e member
  | transition input =>
      refine paired_write footprint carries rfl steady.1 fun _ w same seen => steady.2 ?_
      obtain ⟨_, w', same', _, _, _, met⟩ := transition_written services db member
      cases same.symm.trans same'
      rw [← seen]
      exact met
  | decide ambient input =>
      have clear : input.status.status ≠ .infoRequested ∧ input.status.status ≠ .underReview := by
        cases input.status <;> decide
      rcases footprint with writes | publishes | ⟨_, ⟨_, id, limit, same⟩ | ⟨row, same, _⟩ | writes⟩
      · exact paired_write writes carries rfl clear.1 fun target => absurd target clear.2
      · exact paired_of_publishes publishes
      · rw [same]
        trivial
      · rw [same]
        trivial
      · exact paired_write writes carries rfl (by decide) (by simp)
  | cancel input =>
      rcases footprint with writes | publishes | ⟨id, same⟩
      · exact paired_write writes carries rfl (by decide) (by simp)
      · exact paired_of_publishes publishes
      · rw [same]
        trivial
  | resolveComplement => cases resolves
  | _ => exact steady.elim

theorem perform_steady (steady : Steady db op) (resolves : op.resolves = false) (inStep : InStep db) :
    InStep (perform services db op) := by
  refine perform_keeps services (fun stmt s member held => ?_) inStep
  have lawful : Lawful stmt := footprint_lawful (events_footprint services db op _ member)
  exact inStep_step (events_current services db op _ member) lawful
    (steady_paired steady resolves _ member) held

/-! ## Resolutions -/

theorem resolution_quiet (id : Uuid) (now : Time) : Quiet (.resolveComplement id now) := rfl

theorem openComplements_dropped {id : Uuid} (now : Time) {c : RequestComplement}
    (found : db.complements.find (·.id == id) = some c) (requestId : Uuid) :
    (handle.after (.resolveComplement id now) db).openComplements requestId +
      (if c.requestId = requestId ∧ c.resolvedAt = none then 1 else 0) =
        db.openComplements requestId := by
  have counted := Table.count_update (resolve now) (resolve_key now) (selects_complementId id) found
    fun c => c.requestId == requestId && c.resolvedAt == none
  simp only [Tables.openComplements, complements_resolved found]
  simpa [resolve] using counted

variable {ambient : Ambient} {input : ResolveComplementUseCase.ResolveComplementInput}

/-- The resolution ends the last open complement of a request under question. -/
structure Closing (ambient : Ambient) (input : ResolveComplementUseCase.ResolveComplementInput)
    (db : Database) (r : AccreditationRequest) (c : RequestComplement) : Prop where
  request : db.requestById input.requestId = some r
  owner : r.requesterId = input.requesterId
  complement : db.complements.find (·.id == input.complementId) = some c
  ofRequest : c.requestId = input.requestId
  none_open : (handle.after (.resolveComplement input.complementId (ambient.clock 0)) db).openComplements
    input.requestId = 0
  asked : r.status = .infoRequested

theorem resolve_cases (services : Services) (ambient : Ambient)
    (input : ResolveComplementUseCase.ResolveComplementInput) (db : Database) :
    perform services db (.resolveComplement ambient input) = db ∨
    (∃ r c, db.requestById input.requestId = some r ∧
      db.complements.find (·.id == input.complementId) = some c ∧ c.requestId = input.requestId ∧
      ((handle.after (.resolveComplement input.complementId (ambient.clock 0)) db).openComplements
        input.requestId = 0 → r.status ≠ .infoRequested) ∧
      perform services db (.resolveComplement ambient input) =
        handle.after (.resolveComplement input.complementId (ambient.clock 0)) db) ∨
    ∃ r c, Closing ambient input db r c ∧ perform services db (.resolveComplement ambient input) =
      handle.after (.writeStatus (returnWrite input.requestId r.status))
        (handle.after (.resolveComplement input.complementId (ambient.clock 0)) db) := by
  rcases resolveComplement_cases services ambient with
    same | ⟨r, c, ⟨stored, owner⟩, ⟨inside, named⟩, performed⟩
  · exact .inl same
  · by_cases closes : (handle.after (.resolveComplement input.complementId (ambient.clock 0))
        db).openComplements input.requestId = 0 ∧ r.status = .infoRequested
    · refine .inr (.inr ⟨r, c, ⟨stored, owner, inside, named, closes.1, closes.2⟩, ?_⟩)
      exact performed.trans (if_pos closes)
    · refine .inr (.inl ⟨r, c, stored, inside, named, fun none_ asked => closes ⟨none_, asked⟩, ?_⟩)
      exact performed.trans (if_neg closes)

section Closing

variable {r : AccreditationRequest} {c : RequestComplement} (closing : Closing ambient input db r c)

include closing

theorem Closing.written :
    handle (.writeStatus (returnWrite input.requestId r.status))
        (handle.after (.resolveComplement input.complementId (ambient.clock 0)) db) =
      .ok ((returnWrite input.requestId r.status).apply r,
        handle.after (.writeStatus (returnWrite input.requestId r.status))
          (handle.after (.resolveComplement input.complementId (ambient.clock 0)) db)) := by
  refine handle_written ?_ rfl
  rw [Tables.requestById, requests_kept (resolution_quiet _ _)]
  exact closing.request

theorem Closing.requestById (id : Uuid) :
    (handle.after (.writeStatus (returnWrite input.requestId r.status))
        (handle.after (.resolveComplement input.complementId (ambient.clock 0)) db)).requestById id =
      if id = input.requestId then some ((returnWrite input.requestId r.status).apply r)
      else db.requestById id := by
  rw [requestById_written closing.written]
  simp only [Tables.requestById, requests_kept (resolution_quiet _ _)]
  by_cases same : id = input.requestId
  · subst same
    have found : db.requests.find (·.id == input.requestId) = some r := closing.request
    have named := beq_iff_eq.mp (Table.find_some_mem found).2
    simp [found, named, returnWrite]
  · rw [if_neg same]
    cases found : db.requests.find (·.id == id) with
    | none => rfl
    | some other =>
        have named := beq_iff_eq.mp (Table.find_some_mem found).2
        simp [named, returnWrite, same]

omit closing in
theorem openComplements_returned (id : Uuid) :
    (handle.after (.writeStatus (returnWrite input.requestId r.status))
        (handle.after (.resolveComplement input.complementId (ambient.clock 0)) db)).openComplements id =
      (handle.after (.resolveComplement input.complementId (ambient.clock 0)) db).openComplements id :=
  openComplements_congr (complements_kept rfl _) id

end Closing

theorem openComplements_other {now : Time} {c : RequestComplement}
    (found : db.complements.find (·.id == input.complementId) = some c)
    (ofRequest : c.requestId = input.requestId) {id : Uuid} (other : id ≠ input.requestId) :
    (handle.after (.resolveComplement input.complementId now) db).openComplements id =
      db.openComplements id := by
  have counted := openComplements_dropped now found id
  rwa [if_neg fun opens => other (opens.1.symm.trans ofRequest), Nat.add_zero] at counted

theorem resolve_inStep (inStep : InStep db) :
    InStep (perform services db (.resolveComplement ambient input)) := by
  obtain same | ⟨r, c, stored, found, ofRequest, remains, same⟩ | ⟨r, c, closing, same⟩ :=
    resolve_cases services ambient input db <;> rw [same]
  · exact inStep
  · intro id r' stored' alive
    rw [Tables.requestById, requests_kept (resolution_quiet _ _)] at stored'
    have held := inStep id r' stored' alive
    by_cases named : id = input.requestId
    · subst named
      cases stored.symm.trans stored'
      have counted := openComplements_dropped (ambient.clock 0) found input.requestId
      -- A request under question keeps its one open complement, or it would have been closed.
      by_cases asked : r.status = .infoRequested
      · have left : _ ≠ 0 := fun none_ => remains none_ asked
        rw [if_pos asked] at held ⊢
        omega
      · rw [if_neg asked] at held ⊢
        omega
    · rw [openComplements_other found ofRequest named]
      exact held
  · intro id r' stored' alive
    rw [openComplements_returned]
    rw [closing.requestById] at stored'
    by_cases named : id = input.requestId
    · subst named
      rw [if_pos rfl, Option.some.injEq] at stored'
      rw [← stored', closing.none_open]
      rfl
    · rw [if_neg named] at stored'
      rw [openComplements_other closing.complement closing.ofRequest named]
      exact inStep id r' stored' alive

theorem perform_inStep (steady : Steady db op) (inStep : InStep db) :
    InStep (perform services db op) := by
  cases resolves : op.resolves with
  | false => exact perform_steady steady resolves inStep
  | true =>
      cases op with
      | resolveComplement ambient input => exact resolve_inStep inStep
      | _ => cases resolves

/-! ## Returns to the review -/

/-- The call resolves the one complement of the request that is still open. -/
def ResolvesLast (db : Database) (id : Uuid) : Operation → Prop
  | .resolveComplement _ input =>
      input.requestId = id ∧ (∃ r, db.requestById id = some r ∧ r.requesterId = input.requesterId) ∧
        (∃ c, db.complements.find (·.id == input.complementId) = some c ∧ c.requestId = id ∧
          c.resolvedAt = none) ∧ db.openComplements id = 1
  | _ => False

/-- Under question, or cancelled while it was. -/
def Questioned (id : Uuid) (s : Database) : Prop :=
  s.statusOf id = some .infoRequested ∨ s.statusOf id = some .cancelled

theorem questioned_step {stmt : Statement} (current : Current (handle.event stmt db))
    (lawful : Lawful stmt) (paired : Paired stmt) {id : Uuid} (questioned : Questioned id db) :
    Questioned id (handle.after stmt db) := by
  have step := lawful_step current lawful id
  unfold Questioned Tables.statusOf at questioned ⊢
  generalize db.requestById id = a at step questioned
  generalize (handle.after stmt db).requestById id = b at step
  cases step with
  | created named draft => simp at questioned
  | edited named draft => exact questioned
  | unchanged => exact questioned
  | @written w r named seen allowed =>
      simp only [Option.map_some, Option.some.injEq, seen] at questioned
      have target : (w.apply r).status = w.target := rfl
      simp only [Option.map_some, target, Option.some.injEq]
      rcases questioned with asked | ended
      · cases carried : w.complement with
        | none =>
            simp only [Paired, carried] at paired
            exact .inr (paired.2 asked)
        | some c =>
            simp only [Paired, carried] at paired
            exact .inl paired.1
      · have none_ : w.target ∈ requestTransitions w.seen := lawful
        rw [ended] at none_
        cases none_

theorem questioned_kept (steady : Steady db op) (resolves : op.resolves = false) {id : Uuid}
    (asked : db.statusOf id = some .infoRequested) :
    (perform services db op).statusOf id ≠ some .underReview := by
  have stays : Questioned id (perform services db op) := by
    refine perform_keeps services (fun stmt s member held => ?_) (.inl asked)
    have lawful : Lawful stmt := footprint_lawful (events_footprint services db op _ member)
    exact questioned_step (events_current services db op _ member) lawful
      (steady_paired steady resolves _ member) held
  rcases stays with still | ended
  · simp [still]
  · simp [ended]

/-- A request that returns to the review had its last open complement resolved. -/
theorem resolvesLast_of_returned {id : Uuid} {r : AccreditationRequest} (steady : Steady db op)
    (inStep : InStep db) (found : db.requestById id = some r) (asked : r.status = .infoRequested)
    (returned : (perform services db op).statusOf id = some .underReview) : ResolvesLast db id op := by
  have held := inStep id r found (by simp [asked])
  have before : db.statusOf id = some .infoRequested := by
    rw [Tables.statusOf, found, Option.map_some, asked]
  cases resolves : op.resolves with
  | false => exact absurd returned (questioned_kept steady resolves before)
  | true =>
      cases op with
      | resolveComplement ambient input =>
          obtain same | ⟨_, _, _, _, _, _, same⟩ | ⟨r', c, closing, same⟩ :=
            resolve_cases services ambient input db <;> rw [same] at returned
          · simp [before] at returned
          · rw [statusOf_congr (requests_kept (resolution_quiet _ _) db), before] at returned
            cases returned
          · by_cases named : id = input.requestId
            · subst named
              cases found.symm.trans closing.request
              have counted := openComplements_dropped (ambient.clock 0) closing.complement input.requestId
              rw [closing.none_open, held, if_pos asked] at counted
              -- The count went from one to none, so the complement was open.
              have opens : c.requestId = input.requestId ∧ c.resolvedAt = none := by
                by_contra closed
                rw [if_neg closed] at counted
                cases counted
              exact ⟨rfl, ⟨r, found, closing.owner⟩, ⟨c, closing.complement, opens⟩, by rw [held, if_pos asked]⟩
            · rw [Tables.statusOf, closing.requestById, if_neg named, found, Option.map_some,
                asked] at returned
              cases returned
      | _ => cases resolves

theorem returned_of_resolvesLast {id : Uuid} {r : AccreditationRequest} (inStep : InStep db)
    (found : db.requestById id = some r) (alive : r.status ≠ .cancelled) (last : ResolvesLast db id op) :
    r.status = .infoRequested ∧ (perform services db op).statusOf id = some .underReview := by
  have held := inStep id r found alive
  cases op with
  | resolveComplement ambient input =>
      obtain ⟨rfl, ⟨r', found', owner⟩, ⟨c, stored, ofRequest, unresolved⟩, one⟩ := last
      cases found.symm.trans found'
      have asked : r.status = .infoRequested := by
        by_contra clear
        rw [if_neg clear, one] at held
        cases held
      have counted := openComplements_dropped (ambient.clock 0) stored input.requestId
      rw [if_pos ⟨ofRequest, unresolved⟩, one] at counted
      have none_ : (handle.after (.resolveComplement input.complementId (ambient.clock 0)) db).openComplements
          input.requestId = 0 := by omega
      have closing : Closing ambient input db r c := ⟨found, owner, stored, ofRequest, none_, asked⟩
      refine ⟨asked, ?_⟩
      rw [resolveComplement_closes services ambient found owner stored ofRequest none_ asked,
        Tables.statusOf, closing.requestById, if_pos rfl]
      rfl
  | _ => exact last.elim

theorem returned_iff {id : Uuid} {r : AccreditationRequest} (steady : Steady db op) (inStep : InStep db)
    (found : db.requestById id = some r) (alive : r.status ≠ .cancelled) :
    r.status = .infoRequested ∧ (perform services db op).statusOf id = some .underReview ↔
      ResolvesLast db id op :=
  ⟨fun both => resolvesLast_of_returned steady inStep found both.1 both.2,
    returned_of_resolvesLast inStep found alive⟩

/-- A complement that is resolved already moves no request. -/
theorem resolved_again {c : RequestComplement} (inStep : InStep db)
    (found : db.complements.find (·.id == input.complementId) = some c) (old : c.resolvedAt ≠ none) :
    (perform services db (.resolveComplement ambient input)).requests = db.requests := by
  obtain same | ⟨_, _, _, _, _, _, same⟩ | ⟨r, c', closing, same⟩ :=
    resolve_cases services ambient input db <;> rw [same]
  · exact requests_kept (resolution_quiet _ _) db
  · cases found.symm.trans closing.complement
    have counted := openComplements_dropped (ambient.clock 0) found input.requestId
    have held := inStep input.requestId r closing.request (by rw [closing.asked]; decide)
    rw [if_neg fun opens => old opens.2, closing.none_open] at counted
    rw [if_pos closing.asked] at held
    omega

end Operations

/-! ## Runs -/

/-- In every state of a steady run the open complements of the requests that are
not cancelled follow their status; a request returns to the review at the call
that resolves its last open complement, and none moves when an old one is
resolved again. -/
theorem complements_in_step (services : Services) (start : Database) (ops : List Operation)
    (empty : start.requests.rows = []) (admitted : Along (perform services) Steady start ops) :
    (∀ front back, ops = front ++ back → InStep (runFrom (perform services) start front)) ∧
    ∀ front op back, ops = front ++ op :: back →
      (∀ id r, (runFrom (perform services) start front).requestById id = some r → r.status ≠ .cancelled →
        (r.status = .infoRequested ∧
            (perform services (runFrom (perform services) start front) op).statusOf id =
              some .underReview ↔
          ResolvesLast (runFrom (perform services) start front) id op)) ∧
      ∀ ambient input c, op = .resolveComplement ambient input →
        (runFrom (perform services) start front).complements.find (·.id == input.complementId) = some c →
        c.resolvedAt ≠ none →
          (perform services (runFrom (perform services) start front) op).requests =
            (runFrom (perform services) start front).requests := by
  have blank : InStep start := by
    intro id r found
    simp [Tables.requestById, Table.find, empty] at found
  have reached (front back : List Operation) (split : ops = front ++ back) :
      InStep (runFrom (perform services) start front) :=
    runFrom_invariant (fun _ _ inStep steady => perform_inStep steady inStep) blank
      (along_append.mp (split ▸ admitted)).1
  refine ⟨reached, fun front op back split => ?_⟩
  have inStep := reached front (op :: back) split
  have steady := along_iff.mp admitted front op back split
  refine ⟨fun id r found alive => returned_iff steady inStep found alive, ?_⟩
  rintro ambient input c rfl found old
  exact resolved_again inStep found old

/-- A dossier asked for a complement, which its holder resolves twice. -/
def complementResolvedTwice : List Operation :=
  complementResolved ++ [.resolveComplement {} ⟨"dossier", "photo", "reporter"⟩]

theorem complements_in_step_twice :
    InStep (runFrom (perform sampleServices) (sampleDatabase 1) complementResolvedTwice) ∧
      (perform sampleServices (runFrom (perform sampleServices) (sampleDatabase 1) complementResolved)
          (.resolveComplement {} ⟨"dossier", "photo", "reporter"⟩)).requests =
        (runFrom (perform sampleServices) (sampleDatabase 1) complementResolved).requests := by
  obtain ⟨reached, each⟩ :=
    complements_in_step sampleServices (sampleDatabase 1) complementResolvedTwice rfl
    (by
      simp only [complementResolvedTwice, complementResolved, dossierUnderReview, List.cons_append,
        List.nil_append, Along, Steady]
      decide)
  obtain ⟨c, found, old⟩ : ∃ c : RequestComplement,
      (runFrom (perform sampleServices) (sampleDatabase 1) complementResolved).complements.find
        (·.id == "photo") = some c ∧ c.resolvedAt ≠ none :=
    ⟨⟨"photo", "dossier", "agent", "photo", none, none, some 0⟩, by decide, by decide⟩
  exact ⟨reached _ [] (List.append_nil _).symm, (each complementResolved _ [] rfl).2 _ _ c rfl found old⟩

end AccreditationBackend
