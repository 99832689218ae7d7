import AccreditationBackend.Requests.LoneRuns
import AccreditationBackend.Requests.Lifecycle
import AccreditationBackend.Requests.SlotRuns
import AccreditationBackend.Requests.StaleWrites
import AccreditationBackend.Requests.Writes

/-! The decision journal of a request against its status.

Every write of a status adds the decision row that explains it, except the one
that ends the last open complement.
-/

set_option autoImplicit false

namespace AccreditationBackend

open Foundation

def Tables.journalOf (t : Tables) (requestId : Uuid) : List RequestDecision :=
  t.decisions.filter (·.requestId == requestId)

/-- The rows lead from DRAFT to the status, each from where the last one ended. -/
structure Explains (journal : List RequestDecision) (status : RequestStatus) : Prop where
  starts : ∀ d ∈ journal.head?, d.fromStatus = .draft
  linked : journal.IsChain fun a b => b.fromStatus = a.toStatus
  ends : ∀ d ∈ journal.getLast?, d.toStatus = status
  draft : journal = [] ↔ status = .draft

theorem Explains.nil : Explains [] .draft := ⟨by simp, List.isChain_nil, by simp, by simp⟩

theorem Explains.append {journal : List RequestDecision} {status : RequestStatus}
    (explains : Explains journal status) {d : RequestDecision} (source : d.fromStatus = status)
    (target : d.toStatus ≠ .draft) :
    Explains (journal ++ [d]) d.toStatus where
  starts := by
    cases journal with
    | nil =>
        rintro _ ⟨⟩
        exact source.trans (explains.draft.mp rfl)
    | cons first rest => exact explains.starts
  linked := by
    refine List.isChain_append.mpr
      ⟨explains.linked, List.isChain_singleton d, fun last member row single => ?_⟩
    cases single
    exact source.trans (explains.ends last member).symm
  ends := by simp
  draft := by simp [target]

/-- A resolution that ends the last open complement of a request under question. -/
def closesLast (db : Database) (input : ResolveComplementUseCase.ResolveComplementInput) : Bool :=
  ((db.requestById input.requestId).any fun r => r.requesterId == input.requesterId &&
    r.status == .infoRequested) &&
    ((db.complements.find (·.id == input.complementId)).any (·.requestId == input.requestId)) &&
    (db.complements.count fun c =>
      c.requestId == input.requestId && c.resolvedAt == none && c.id != input.complementId) == 0

/-- The one call that writes a status without its decision row. -/
def unrecorded (db : Database) : Operation → Bool
  | .resolveComplement _ input => closesLast db input
  | _ => false

def Explained (db : Database) : Prop :=
  ∀ id r, db.requestById id = some r → Explains (db.journalOf id) r.status

/-! ## One statement -/

section Statements

variable {stmt : Statement} {db : Database}

theorem journalOf_missing {id : Uuid} (missing : db.requestById id = none) : db.journalOf id = [] := by
  refine List.filter_eq_nil_iff.mpr fun d member named => ?_
  obtain ⟨r, stored, same⟩ :=
    List.mem_map.mp (db.referential.decision_request (List.mem_map_of_mem member))
  have absent := Table.find_eq_none.mp missing r stored
  simp only [beq_iff_eq] at named
  rw [same, named] at absent
  simp at absent

theorem journalOf_kept {id : Uuid} (other : ∀ w, stmt = .writeStatus w → w.requestId ≠ id) :
    (handle.after stmt db).journalOf id = db.journalOf id := by
  rcases decisions_step stmt db with grown | same
  · simp only [Tables.journalOf, grown, List.filter_append]
    cases stmt <;> simp only [Statement.decided, List.filter_nil, List.append_nil]
    case writeStatus w =>
      have apart := other w rfl
      simp [StatusWrite.decisions, List.filter_map, Function.comp_def, apart]
  · rw [same]

theorem explained_step (current : Current (handle.event stmt db)) (lawful : Lawful stmt)
    (recorded : ∀ w, stmt = .writeStatus w → w.journal.isSome) (explained : Explained db) :
    Explained (handle.after stmt db) := by
  intro id r stored
  by_cases writes : ∃ w, stmt = .writeStatus w ∧ w.requestId = id
  · obtain ⟨w, rfl, rfl⟩ := writes
    cases written : handle (.writeStatus w) db with
    | error why =>
        rw [handle.after_error written] at stored ⊢
        exact explained _ r stored
    | ok result =>
        have seen : db.statusOf w.requestId = some w.seen := current
        obtain ⟨before, found, status⟩ := statusOf_some seen
        obtain ⟨j, journal⟩ := Option.isSome_iff_exists.mp (recorded w rfl)
        have grown := apply_decisions (handle_ok written)
        rw [handle.after_ok written] at stored ⊢
        rw [requestById_written written, found] at stored
        have named := beq_iff_eq.mp (Table.find_some_mem found).2
        obtain rfl : w.apply before = r := by simpa [named] using stored
        -- The row records the status that was stored, and the one that replaces it.
        have row : result.2.journalOf w.requestId =
            db.journalOf w.requestId ++ [⟨w.requestId, j.actorId, w.seen, w.target, j.reason⟩] := by
          simp [Tables.journalOf, grown, Statement.decided, StatusWrite.decisions, journal,
            List.filter_append]
        rw [row]
        refine (explained _ before found).append status.symm ?_
        rintro draft
        have target : w.target = .draft := draft
        exact draft_not_target w.seen (target ▸ (lawful : w.target ∈ requestTransitions w.seen))
  · have apart : ∀ w, stmt = .writeStatus w → w.requestId ≠ id :=
      fun w same named => writes ⟨w, same, named⟩
    rw [journalOf_kept apart]
    obtain ⟨new, draft⟩ | ⟨before, found, same⟩ := status_unwritten current lawful apart stored
    · rw [journalOf_missing new, draft]
      exact .nil
    · rw [← same]
      exact explained id before found

end Statements

/-! ## One operation -/

section Operations

variable (services : Services)

theorem resolve_unwritten (ambient : Ambient)
    {input : ResolveComplementUseCase.ResolveComplementInput} {db : Database}
    (recorded : closesLast db input = false) :
    perform services db (.resolveComplement ambient input) = db ∨
      perform services db (.resolveComplement ambient input) =
        handle.after (.resolveComplement input.complementId (ambient.clock 0)) db := by
  rcases resolveComplement_cases services ambient with same | ⟨r, c, ⟨found, owner⟩, ⟨stored, named⟩, performed⟩
  · exact .inl same
  · right
    rw [performed]
    refine if_neg ?_
    rintro ⟨closed, status⟩
    rw [openComplements_resolved stored] at closed
    have closes : closesLast db input = true := by
      simp only [closesLast, Bool.and_eq_true, Option.any_eq_true, beq_iff_eq]
      exact ⟨⟨⟨r, found, owner, status⟩, c, stored, named⟩, closed⟩
    cases recorded.symm.trans closes

theorem perform_explained {op : Operation} {db : Database} (explained : Explained db)
    (recorded : unrecorded db op = false) : Explained (perform services db op) := by
  cases resolves : op.resolves with
  | false =>
      refine perform_keeps services (fun stmt s member => ?_) explained
      have lawful : Lawful stmt := footprint_lawful (events_footprint services db op _ member)
      refine explained_step (events_current services db op _ member) lawful fun w same => ?_
      rw [(events_write services db op _ member w same).journal, resolves]
      rfl
  | true =>
      cases op <;> simp only [Operation.resolves, Bool.false_eq_true] at resolves
      case resolveComplement ambient input =>
        have resolved (now : Time) :
            Explained (handle.after (.resolveComplement input.complementId now) db) :=
          explained_step trivial trivial (fun _ => Statement.noConfusion) explained
        rcases resolve_unwritten services ambient recorded with same | same <;> rw [same]
        · exact explained
        · exact resolved _

theorem resolve_last (ambient : Ambient) {input : ResolveComplementUseCase.ResolveComplementInput}
    {db : Database} (closes : closesLast db input = true) :
    ∃ r, db.requestById input.requestId = some r ∧ r.status = .infoRequested ∧
      (perform services db (.resolveComplement ambient input)).requestById input.requestId =
        some ((returnWrite input.requestId r.status).apply r) ∧
      (perform services db (.resolveComplement ambient input)).journalOf input.requestId =
        db.journalOf input.requestId := by
  simp only [closesLast, Bool.and_eq_true, Option.any_eq_true, beq_iff_eq] at closes
  obtain ⟨⟨⟨r, found, owner, status⟩, c, stored, ofRequest⟩, closed⟩ := closes
  have performed := resolveComplement_closes services ambient found owner stored ofRequest
    ((openComplements_resolved stored).trans closed) status
  generalize shape : Statement.resolveComplement input.complementId (ambient.clock 0) =
    stmt at performed
  have quiet : Quiet stmt := by rw [← shape]; rfl
  have still : (handle.after stmt db).requestById input.requestId = some r := by
    rw [Tables.requestById, requests_kept quiet]
    exact found
  have written := handle_written (w := returnWrite input.requestId r.status) still rfl
  have named := beq_iff_eq.mp (Table.find_some_mem found).2
  refine ⟨r, found, status, ?_, ?_⟩
  · rw [performed, requestById_written written, still]
    simp [returnWrite, named]
  · have grown := apply_decisions (handle_ok written)
    have rowless : (Statement.writeStatus (returnWrite input.requestId r.status)).decided = [] := rfl
    have kept : (handle.after stmt db).journalOf input.requestId = db.journalOf input.requestId :=
      journalOf_kept fun w same => by rw [← shape] at same; cases same
    rw [performed, ← kept, Tables.journalOf, grown, rowless, List.append_nil]
    rfl

/-- Then the journal ends at INFO_REQUESTED as before, and the request stands at UNDER_REVIEW. -/
theorem perform_unexplained {op : Operation} {db : Database} (explained : Explained db)
    (skips : unrecorded db op = true) : ¬ Explained (perform services db op) := by
  cases op with
  | resolveComplement ambient input =>
      obtain ⟨r, found, status, after, same⟩ := resolve_last services ambient skips
      intro explained'
      have before := explained input.requestId r found
      have later := explained' input.requestId _ after
      rw [same] at later
      cases last : (db.journalOf input.requestId).getLast? with
      | none =>
          have draft := before.draft.mp (List.getLast?_eq_none_iff.mp last)
          cases draft.symm.trans status
      | some d =>
          have ends := (before.ends d last).symm.trans (later.ends d last)
          rw [status] at ends
          cases ends
  | _ => cases skips

end Operations

/-! ## Runs -/

/-- The journal explains the status of each request, in every state of every run
in which no resolution ends the last open complement, and in no other run. -/
theorem journal_explains (services : Services) (start : Database) (ops : List Operation)
    (empty : start.requests.rows = []) :
    (∀ front back, ops = front ++ back → ∀ id r, (runFrom (perform services) start front).requestById id = some r →
        Explains ((runFrom (perform services) start front).journalOf id) r.status) ↔
      Along (perform services) (fun db op => unrecorded db op = false) start ops := by
  have blank : Explained start := by
    intro id r found
    simp [Tables.requestById, Table.find, empty] at found
  exact runFrom_exact (I := Explained)
    (fun db op explained recorded => perform_explained services explained recorded)
    (fun db op explained kept => by_contra fun skips =>
      perform_unexplained services explained (by simpa using skips) kept) blank

/-- A dossier under review, asked for a complement that its holder then resolves. -/
def complementResolved : List Operation :=
  dossierUnderReview ++
    [.requestComplement { freshId := "photo" } ⟨"dossier", "agent", "photo", none, none⟩,
      .resolveComplement {} ⟨"dossier", "photo", "reporter"⟩]

theorem returned_unexplained :
    ¬ ∀ front back, complementResolved = front ++ back →
      ∀ id r, (runFrom (perform sampleServices) (sampleDatabase 1) front).requestById id = some r →
        Explains ((runFrom (perform sampleServices) (sampleDatabase 1) front).journalOf id) r.status := by
  intro held
  obtain ⟨r, found, status⟩ : ∃ r,
    (runFrom (perform sampleServices) (sampleDatabase 1) complementResolved).requestById
      "dossier" = some r ∧ r.status = .underReview := statusOf_some (by decide)
  have ends := (held complementResolved [] (List.append_nil _).symm "dossier" r found).ends
    ⟨"dossier", "agent", .underReview, .infoRequested, some "photo"⟩ (by decide)
  rw [status] at ends
  cases ends

/-- Without complements every status has its row. -/
theorem journal_explains_validated :
    ∃ r, (runFrom (perform sampleServices) (sampleDatabase 1) dossierValidated).requestById
      "dossier" = some r ∧
      Explains ((runFrom (perform sampleServices) (sampleDatabase 1) dossierValidated).journalOf
        "dossier") r.status := by
  obtain ⟨r, found, _⟩ : ∃ r,
    (runFrom (perform sampleServices) (sampleDatabase 1) dossierValidated).requestById
      "dossier" = some r ∧ r.status = .badgeGenerated := statusOf_some (by decide)
  refine ⟨r, found, ?_⟩
  exact (journal_explains sampleServices (sampleDatabase 1) dossierValidated rfl).mpr
    (by simp [dossierValidated, Along, unrecorded]) dossierValidated []
    (List.append_nil _).symm "dossier" r found

end AccreditationBackend
