import AccreditationBackend.Foundation.Arrival
import AccreditationBackend.Requests.LoneRuns
import AccreditationBackend.Requests.Lifecycle
import AccreditationBackend.Requests.Writes

/-! Duplicates among the requests of one requester for one match.

A duplicate is looked for once, when a request is submitted. That the marks stay
complete afterwards rests on closed requests never coming back, and that they
lead back in time on there being one draft at most.
-/

set_option autoImplicit false

namespace AccreditationBackend

open Foundation

/-- Neither a draft, nor closed by a refusal or a cancellation. -/
def RequestStatus.stands : RequestStatus → Bool
  | .draft | .rejected | .cancelled => false
  | _ => true

/-- Two requests of one requester for one match. -/
def SameDossier (a b : AccreditationRequest) : Prop :=
  a.requesterId = b.requesterId ∧ a.matchId = b.matchId

theorem SameDossier.symm {a b : AccreditationRequest} (same : SameDossier a b) : SameDossier b a :=
  ⟨same.1.symm, same.2.symm⟩

theorem SameDossier.trans {a b c : AccreditationRequest} (first : SameDossier a b)
    (second : SameDossier b c) :
    SameDossier a c := ⟨first.1.trans second.1, first.2.trans second.2⟩

/-- The link from a request to the one it is marked as a duplicate of. -/
def DuplicateOf (db : Database) (id original : Uuid) : Prop :=
  ∃ r, db.requestById id = some r ∧ r.duplicateOfId = some original

section Submissions

variable (services : Services)

/-- The request that an operation submits, if it succeeds. -/
def submission (db : Database) : Operation → List Uuid
  | .submit ambient input =>
      if (outcome services db (.submit ambient input)).isOk then [input.requestId] else []
  | _ => []

/-- The requests submitted in a run, in that order. -/
def submissions : Database → List Operation → List Uuid
  | _, [] => []
  | db, op :: rest => submission services db op ++ submissions (perform services db op) rest

end Submissions

/-- Every request that stands was submitted; of two in one dossier the later one
is marked, and a mark leads to an earlier one of the same dossier. -/
structure Marked (sent : List Uuid) (db : Database) : Prop where
  drafts : DraftsDistinct db
  once : sent.Nodup
  stored : ∀ id ∈ sent, db.requestById id ≠ none
  unsent : ∀ id r, db.requestById id = some r → r.status = .draft → id ∉ sent
  standing : ∀ id r, db.requestById id = some r → r.status.stands = true → id ∈ sent
  complete : ∀ id id' r r', db.requestById id = some r → db.requestById id' = some r' → SameDossier r r' →
    r.status.stands = true → r'.status.stands = true → Precedes sent id id' → r'.duplicateOfId.isSome
  earlier : ∀ id original, DuplicateOf db id original → Precedes sent original id
  sameDossier : ∀ id r original, db.requestById id = some r → r.duplicateOfId = some original →
    ∃ o, db.requestById original = some o ∧ SameDossier o r

/-! ## Steps that submit nothing -/

/-- A statement that neither submits a request nor marks one. -/
def Unmarking : Statement → Prop
  | .createRequest row => row.duplicateOfId = none
  | .writeStatus w => w.target ≠ .submitted ∧ w.data.duplicateOfId = none
  | _ => True

/-- What becomes of a request while nothing is submitted. -/
inductive Kept : Option AccreditationRequest → Option AccreditationRequest → Prop
  | absent : Kept none none
  | created {row : AccreditationRequest} (draft : row.status = .draft)
      (unmarked : row.duplicateOfId = none) :
      Kept none (some row)
  | moved {r r' : AccreditationRequest} (dossier : SameDossier r r')
      (mark : r'.duplicateOfId = r.duplicateOfId)
      (draft : r'.status = .draft → r.status = .draft) (stands : r'.status.stands = true →
        r.status.stands = true) :
      Kept (some r) (some r')

theorem kept_refl (r : Option AccreditationRequest) : Kept r r := by
  cases r with
  | none => exact .absent
  | some r => exact .moved ⟨rfl, rfl⟩ rfl id id

theorem Kept.found {r : AccreditationRequest} {b : Option AccreditationRequest} (kept : Kept (some r) b) :
    ∃ r', b = some r' ∧ SameDossier r r' := by
  cases kept with
  | moved dossier mark draft stands => exact ⟨_, rfl, dossier⟩

/-- Apart from a submission, the table never makes a closed request or a draft stand. -/
theorem stands_entered {source target : RequestStatus} (allowed : target ∈ requestTransitions source)
    (other : target ≠ .submitted) (stands : target.stands = true) : source.stands = true := by
  cases source <;> cases target <;> simp_all [requestTransitions, RequestStatus.stands]

theorem kept_step {stmt : Statement} {db : Database} (current : Current (handle.event stmt db))
    (lawful : Lawful stmt) (unmarking : Unmarking stmt) (id : Uuid) :
    Kept (db.requestById id) ((handle.after stmt db).requestById id) := by
  have step := lawful_step current lawful id
  generalize db.requestById id = a at step
  generalize (handle.after stmt db).requestById id = b at step
  cases step with
  | created named draft => exact .created draft unmarking
  | edited named draft => exact .moved ⟨rfl, rfl⟩ rfl (fun draft => draft) fun stands => stands
  | @written w r named seen lawful =>
      have allowed : w.target ∈ requestTransitions r.status := seen ▸ lawful
      refine .moved ⟨rfl, rfl⟩ ?_ (fun draft => ?_) fun stands =>
        stands_entered allowed unmarking.1 stands
      · simp [StatusWrite.apply, unmarking.2]
      · have target : w.target = .draft := draft
        exact absurd (target ▸ allowed) (draft_not_target r.status)
  | unchanged => exact kept_refl _

theorem Marked.kept {sent : List Uuid} {db db' : Database} (marked : Marked sent db)
    (distinct : DraftsDistinct db') (kept : ∀ id, Kept (db.requestById id) (db'.requestById id)) :
    Marked sent db' := by
  have old {id : Uuid} {r' : AccreditationRequest} (found : db'.requestById id = some r')
      (other : r'.status.stands = true ∨ r'.duplicateOfId ≠ none) :
      ∃ r, db.requestById id = some r ∧ SameDossier r r' ∧ r'.duplicateOfId = r.duplicateOfId ∧
        (r'.status.stands = true → r.status.stands = true) := by
    have step := kept id
    rw [found] at step
    cases before : db.requestById id with
    | none =>
        rw [before] at step
        cases step with
        | created draft unmarked => simp [draft, unmarked, RequestStatus.stands] at other
    | some r =>
        rw [before] at step
        cases step with
        | moved dossier mark draft stands => exact ⟨r, rfl, dossier, mark, stands⟩
  constructor
  case drafts => exact distinct
  case once => exact marked.once
  case stored =>
    intro id member missing
    obtain ⟨r, before⟩ := Option.ne_none_iff_exists'.mp (marked.stored id member)
    obtain ⟨r', after, _⟩ := (before ▸ kept id).found
    cases after.symm.trans missing
  case unsent =>
    intro id r' found draft' member
    have step := kept id
    rw [found] at step
    cases before : db.requestById id with
    | none => exact marked.stored id member before
    | some r =>
        rw [before] at step
        cases step with
        | moved dossier mark draft stands => exact marked.unsent id r before (draft draft') member
  case standing =>
    intro id r' found stands'
    obtain ⟨r, before, _, _, stands⟩ := old found (.inl stands')
    exact marked.standing id r before (stands stands')
  case complete =>
    intro id id' a' b' left right dossier leftStands rightStands precedes
    obtain ⟨a, first, aDossier, _, aStands⟩ := old left (.inl leftStands)
    obtain ⟨b, second, bDossier, bMark, bStands⟩ := old right (.inl rightStands)
    rw [bMark]
    exact marked.complete id id' a b first second (aDossier.trans (dossier.trans bDossier.symm))
      (aStands leftStands)
      (bStands rightStands) precedes
  case earlier =>
    rintro id original ⟨r', found, mark'⟩
    obtain ⟨r, before, _, mark, _⟩ := old found (.inr (by simp [mark']))
    exact marked.earlier id original ⟨r, before, mark ▸ mark'⟩
  case sameDossier =>
    intro id r' original found mark'
    obtain ⟨r, before, dossier, mark, _⟩ := old found (.inr (by simp [mark']))
    obtain ⟨o, source, shared⟩ := marked.sameDossier id r original before (mark ▸ mark')
    obtain ⟨o', after, same⟩ := (source ▸ kept original).found
    exact ⟨o', after, same.symm.trans (shared.trans dossier)⟩

/-! ## Submissions -/

section Submit

variable (ambient : Ambient) (input : SubmitRequestUseCase.SubmitRequestInput) {db db' : Database}
  {request : AccreditationRequest} {duplicate : Option AccreditationRequest} {sent : List Uuid}

theorem submitted_entered {source : RequestStatus} (allowed : .submitted ∈ requestTransitions source) :
    source = .draft := by
  cases source <;> simp [requestTransitions] at allowed ⊢

theorem isDuplicate_iff {r : AccreditationRequest} :
    SubmitRequestUseCase.isDuplicate request r = true ↔
      SameDossier r request ∧ r.id ≠ request.id ∧ (r.status.stands = true ∨ r.status = .draft) := by
  cases stored : r.status <;>
    simp [SubmitRequestUseCase.isDuplicate, SameDossier, RequestStatus.stands, stored]

/-- The request found is not a draft: its requester has one draft for the match, the one submitted. -/
theorem Marked.original_stands (marked : Marked sent db) (found : db.requestById request.id = some request)
    (draft : request.status = .draft) {original : AccreditationRequest}
    (picked : db.requests.pick ambient.choice (SubmitRequestUseCase.isDuplicate request) = some original) :
    db.requestById original.id = some original ∧ original.id ∈ sent ∧ SameDossier original request := by
  obtain ⟨stored, holds⟩ := Table.pick_some_mem picked
  obtain ⟨dossier, different, stands | other⟩ := isDuplicate_iff.mp holds
  · have here : db.requestById original.id = some original := requestById_stored stored
    exact ⟨here, marked.standing original.id original here stands, dossier⟩
  · have rival :=
      marked.drafts original stored request (Table.find_some_mem found).1 other draft dossier.1 dossier.2
    exact absurd (congrArg AccreditationRequest.id rival) different

theorem submitted_own (found : db.requestById request.id = some request)
    (written : ∀ id, db'.requestById id =
      (db.requestById id).map fun r =>
        if r.id == request.id then (submitWrite ambient input request duplicate).apply r else r) :
    db'.requestById request.id =
      some ((submitWrite ambient input request duplicate).apply request) := by
  rw [written, found]
  simp

theorem submitted_others (written : ∀ id, db'.requestById id =
      (db.requestById id).map fun r =>
        if r.id == request.id then (submitWrite ambient input request duplicate).apply r else r)
    {id : Uuid} (other : id ≠ request.id) : db'.requestById id = db.requestById id := by
  rw [written]
  cases before : db.requestById id with
  | none => rfl
  | some r =>
      have named := beq_iff_eq.mp (Table.find_some_mem before).2
      simp [named, other]

theorem Marked.marks_found (marked : Marked sent db) (found : db.requestById request.id = some request)
    (new : request.id ∉ sent) {original : Uuid}
    (marks : ((submitWrite ambient input request duplicate).apply request).duplicateOfId =
      some original) : ∃ o, duplicate = some o ∧ o.id = original := by
  cases duplicate with
  | some o => exact ⟨o, rfl, by simpa [StatusWrite.apply, submitWrite] using marks⟩
  | none =>
      have precedes := marked.earlier request.id original
        ⟨request, found, by simpa [StatusWrite.apply, submitWrite] using marks⟩
      exact absurd precedes.1 new

theorem Marked.submitted (marked : Marked sent db) (found : db.requestById request.id = some request)
    (draft : request.status = .draft)
    (picked : db.requests.pick ambient.choice (SubmitRequestUseCase.isDuplicate request) = duplicate)
    (distinct : DraftsDistinct db')
    (written : ∀ id, db'.requestById id =
      (db.requestById id).map fun r =>
        if r.id == request.id then (submitWrite ambient input request duplicate).apply r else r) :
    Marked (sent ++ [request.id]) db' := by
  have new : request.id ∉ sent := marked.unsent request.id request found draft
  have own := submitted_own ambient input found written
  have others {id : Uuid} (other : id ≠ request.id) : db'.requestById id = db.requestById id :=
    submitted_others ambient input written other
  have known {id : Uuid} (member : id ∈ sent) : db'.requestById id = db.requestById id :=
    others fun same => new (same ▸ member)
  constructor
  case drafts => exact distinct
  case once =>
    exact List.nodup_append.mpr ⟨marked.once, by simp, fun a left b right same => new (by simp_all)⟩
  case stored =>
    intro id member
    rcases List.mem_append.mp member with old | last
    · rw [known old]
      exact marked.stored id old
    · rw [List.mem_singleton.mp last, own]
      simp
  case unsent =>
    intro id r stored unsent member
    by_cases same : id = request.id
    · subst same
      rw [own] at stored
      cases stored
      cases unsent
    · rw [others same] at stored
      exact marked.unsent id r stored unsent (by simpa [same] using member)
  case standing =>
    intro id r stored stands
    by_cases same : id = request.id
    · simp [same]
    · rw [others same] at stored
      exact List.mem_append_left _ (marked.standing id r stored stands)
  case complete =>
    intro id id' r r' left right dossier stands stands' precedes
    rcases precedes_append_cases new precedes with old | ⟨rfl, member⟩
    · rw [known old.left_mem] at left
      rw [known old.1] at right
      exact marked.complete id id' r r' left right dossier stands stands' old
    · rw [known member] at left
      rw [own] at right
      cases right
      obtain ⟨stored, named⟩ := Table.find_some_mem left
      have different : r.id ≠ request.id := fun same => new (same ▸ beq_iff_eq.mp named ▸ member)
      have candidate := isDuplicate_iff.mpr ⟨dossier, different, .inl stands⟩
      cases duplicate with
      | some o => simp [StatusWrite.apply]
      | none =>
          have missed := Table.pick_eq_none.mp picked r stored
          cases candidate.symm.trans missed
  case earlier =>
    rintro id original ⟨r, stored, marks⟩
    by_cases same : id = request.id
    · subst same
      rw [own] at stored
      cases stored
      obtain ⟨o, rfl, rfl⟩ := marked.marks_found ambient input found new marks
      exact precedes_last (marked.original_stands ambient found draft picked).2.1 new
    · rw [others same] at stored
      exact (marked.earlier id original ⟨r, stored, marks⟩).append _
  case sameDossier =>
    intro id r original stored marks
    by_cases same : id = request.id
    · subst same
      rw [own] at stored
      cases stored
      obtain ⟨o, rfl, rfl⟩ := marked.marks_found ambient input found new marks
      obtain ⟨here, member, dossier⟩ := marked.original_stands ambient found draft picked
      exact ⟨o, (known member).trans here, dossier⟩
    · rw [others same] at stored
      obtain ⟨o, source, dossier⟩ := marked.sameDossier id r original stored marks
      have before := (marked.earlier id original ⟨r, stored, marks⟩).left_mem
      exact ⟨o, (known before).trans source, dossier⟩

end Submit

/-! ## Runs -/

section Runs

variable (services : Services)

/-- A generic transition of a request that is past its draft, or another operation. -/
def PastDraft (db : Database) (op : Operation) : Prop :=
  ∀ input, op = .transition input → db.statusOf input.requestId ≠ some .draft

theorem footprint_unmarking {op : Operation} {db : Database} (other : op.submits = false)
    (past : PastDraft db op) :
    ∀ e ∈ events services db op, Unmarking e.stmt := by
  intro e member
  have footprint := events_footprint services db op e member
  have carried := events_write services db op e member
  have current := events_current services db op e member
  have write {id : Uuid} {target : RequestStatus} (writes : WritesTo id target e.stmt)
    (apart : target ≠ .submitted) :
      Unmarking e.stmt := by
    obtain ⟨w, shape, _, rfl, _⟩ := writes
    rw [shape]
    exact ⟨apart, (carried w shape).duplicate other⟩
  have quiet (unwritten : Quiet e.stmt) : Unmarking e.stmt := by
    unfold Quiet at unwritten
    cases shape : e.stmt <;> simp_all [Statement.writesRequests, Unmarking]
  have published (publishes : Publishes e.stmt) : Unmarking e.stmt := by
    obtain ⟨event, shape⟩ := publishes
    exact quiet (by rw [shape]; rfl)
  cases op with
  | saveDraft ambient input =>
      rcases footprint with ⟨id, shape⟩ | ⟨reference, shape⟩
      · rw [shape]
        trivial
      · rw [shape]
        rfl
  | submit ambient input => cases other
  | requestComplement ambient input => exact footprint.elim (write · (by decide)) published
  | resolveComplement ambient input =>
      rcases footprint with shape | writes
      · exact quiet (by rw [shape]; rfl)
      · exact write writes (by decide)
  | transition input =>
      refine write footprint fun submitted => ?_
      obtain ⟨_, w, _, _, _, allowed, seen⟩ := transition_written services db member
      rw [submitted] at allowed
      rw [submitted_entered allowed] at seen
      exact past input rfl seen
  | decide ambient input =>
      have apart : input.status.status ≠ .submitted := by cases input.status <;> decide
      rcases footprint with writes | publishes | ⟨_, ⟨_, id, limit, shape⟩ | ⟨row, shape, _⟩ | writes⟩
      · exact write writes apart
      · exact published publishes
      · exact quiet (by rw [shape]; rfl)
      · exact quiet (by rw [shape]; rfl)
      · exact write writes (by decide)
  | cancel input =>
      rcases footprint with writes | publishes | ⟨id, shape⟩
      · exact write writes (by decide)
      · exact published publishes
      · exact quiet (by rw [shape]; rfl)
  | _ => exact quiet (footprint_quiet services rfl footprint)

theorem perform_drafts {op : Operation} {db : Database} (distinct : DraftsDistinct db) :
    DraftsDistinct (perform services db op) :=
  perform_keeps services (fun _ _ member => drafts_step (events_current services db op _ member)
    (footprint_lawful (events_footprint services db op _ member))) distinct

theorem perform_marked {op : Operation} {db : Database} {sent : List Uuid} (marked : Marked sent db)
    (past : PastDraft db op) : Marked (sent ++ submission services db op) (perform services db op) := by
  cases submits : op.submits with
  | false =>
      have nothing : submission services db op = [] := by
        cases op <;> first | rfl | cases submits
      rw [nothing, List.append_nil]
      refine perform_keeps services (J := Marked sent) (fun stmt s member held => ?_) marked
      have current := events_current services db op _ member
      have lawful : Lawful stmt := footprint_lawful (events_footprint services db op _ member)
      exact held.kept (drafts_step current lawful held.drafts)
        (kept_step current lawful (footprint_unmarking services submits past _ member))
  | true =>
      cases op with
      | submit ambient input =>
          have distinct : DraftsDistinct (perform services db (.submit ambient input)) :=
            perform_drafts services marked.drafts
          simp only [submission]
          obtain ⟨failed, same⟩ | ⟨request, duplicate, found, _, allowed, picked, ok, written⟩ :=
            submit_cases services ambient input db
          · rw [same, failed]
            simpa using marked
          · rw [ok, if_pos rfl]
            have named := beq_iff_eq.mp (Table.find_some_mem found).2
            rw [← named] at found ⊢
            refine marked.submitted ambient input found
              (submitted_entered allowed) picked distinct fun id => ?_
            have first := handle_written (w := submitWrite ambient input request duplicate) found rfl
            rw [← requestById_written first, written]
            simp only [Tables.requestById, requests_kept (publish_statement_quiet _)]
      | _ => cases submits

theorem run_marked {ops : List Operation} {start : Database} {sent : List Uuid}
    (marked : Marked sent start) (past : Along (perform services) PastDraft start ops) :
    Marked (sent ++ submissions services start ops) (runFrom (perform services) start ops) := by
  induction ops generalizing start sent with
  | nil => simpa [submissions] using marked
  | cons op rest ih =>
      rw [submissions, ← List.append_assoc]
      exact ih (perform_marked services marked past.1) past.2

theorem marked_empty {db : Database} (empty : db.requests.rows = []) : Marked [] db := by
  have missing (id : Uuid) : db.requestById id = none := by simp [Tables.requestById, Table.find, empty]
  constructor <;> simp [DraftsDistinct, DuplicateOf, missing, empty]

/-- Of two requests that stand in one dossier the one submitted later is marked;
each mark leads to another request of the dossier, submitted before. -/
theorem duplicates_marked (start : Database) (ops : List Operation) (empty : start.requests.rows = [])
    (past : Along (perform services) PastDraft start ops) :
    let db := runFrom (perform services) start ops
    let sent := submissions services start ops
    sent.Nodup ∧
      (∀ a ∈ db.requests.rows, ∀ b ∈ db.requests.rows, a.id ≠ b.id → SameDossier a b →
        a.status.stands = true → b.status.stands = true →
        (Precedes sent a.id b.id ∨ Precedes sent b.id a.id) ∧
          (Precedes sent a.id b.id → b.duplicateOfId.isSome = true)) ∧
      (∀ r ∈ db.requests.rows, ∀ original, r.duplicateOfId = some original →
        original ≠ r.id ∧ Precedes sent original r.id ∧
          ∃ o ∈ db.requests.rows, o.id = original ∧ SameDossier o r) ∧
      ∀ id, ¬ Relation.TransGen (DuplicateOf db) id id := by
  have marked := run_marked services (marked_empty empty) past
  rw [List.nil_append] at marked
  generalize runFrom (perform services) start ops = db at marked
  generalize submissions services start ops = sent at marked
  refine ⟨marked.once, ?_, ?_, acyclic_of_precedes marked.earlier⟩
  · intro a aStored b bStored different dossier aStands bStands
    have left := requestById_stored aStored
    have right := requestById_stored bStored
    exact ⟨precedes_total (marked.standing _ _ left aStands) (marked.standing _ _ right bStands) different,
      marked.complete _ _ _ _ left right dossier aStands bStands⟩
  · intro r stored original marks
    have found := requestById_stored stored
    have precedes := marked.earlier r.id original ⟨r, found, marks⟩
    obtain ⟨o, source, dossier⟩ := marked.sameDossier r.id r original found marks
    obtain ⟨inside, named⟩ := Table.find_some_mem source
    refine ⟨?_, precedes, o, inside, beq_iff_eq.mp named, dossier⟩
    rintro rfl
    exact precedes.irrefl

/-- A second draft of the same dossier, submitted after the first. -/
def dossierTwice : List Operation :=
  [.saveDraft { freshId := "dossier" } ⟨"reporter", "final", "press", {}⟩,
    .submit {} ⟨"dossier", "reporter", "user"⟩,
    .transition ⟨"dossier", .underReview, "agent", none⟩,
    .saveDraft { freshId := "again", draw := fun _ => 1 } ⟨"reporter", "final", "press", {}⟩,
    .submit {} ⟨"again", "reporter", "user"⟩]

theorem duplicates_marked_twice :
    (submissions sampleServices (sampleDatabase 0) dossierTwice).Nodup ∧
      ¬ Relation.TransGen (DuplicateOf (runFrom (perform sampleServices) (sampleDatabase 0) dossierTwice))
        "again" "again" := by
  have past : Along (perform sampleServices) PastDraft (sampleDatabase 0) dossierTwice := by
    simp only [dossierTwice, Along, PastDraft, reduceCtorEq, false_implies, implies_true, true_and,
      and_true, Operation.transition.injEq]
    rintro _ rfl
    decide
  have marked := duplicates_marked sampleServices (sampleDatabase 0) dossierTwice rfl past
  exact ⟨marked.1, marked.2.2.2 "again"⟩

end Runs

end AccreditationBackend
