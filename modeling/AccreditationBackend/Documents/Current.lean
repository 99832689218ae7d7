import AccreditationBackend.Documents.Versions

/-! The current version of a piece in sequential runs of uploads and reviews. -/

set_option autoImplicit false

namespace AccreditationBackend

open Foundation

/-- Only the most recently uploaded version can be current. -/
def LastCurrent (pieces : List Document) : Prop :=
  ∀ d ∈ pieces, d.status ≠ .superseded → pieces.getLast? = some d

def Superseded (t : Documents) (id : Uuid) : Prop :=
  ∃ d, t.documents.find (·.id == id) = some d ∧ d.status = .superseded

/-- Somebody known reviews a document that is superseded. -/
def DocumentOperation.Revives (t : Documents) (op : DocumentOperation) : Prop :=
  match op with
  | .upload .. => False
  | .review _ id _ reviewedById _ => Superseded t id ∧ reviewedById ∈ t.users

theorem retire_status {previous : Option Document} {d : Document} (superseded : d.status = .superseded) :
    (retire previous d).status = .superseded := by
  unfold retire
  split
  · rfl
  · exact superseded

theorem LastCurrent.add {pieces : List Document} (last : LastCurrent pieces) {row : Document} :
    LastCurrent (pieces.map (retire pieces.getLast?) ++ [row]) := by
  intro d member current
  rw [List.getLast?_append, List.getLast?_singleton, Option.some_or]
  rcases List.mem_append.mp member with earlier | here
  · obtain ⟨before, inside, rfl⟩ := List.mem_map.mp earlier
    by_cases superseded : before.status = .superseded
    · exact absurd (retire_status superseded) current
    · rw [last before inside superseded] at current
      exact absurd (by simp [retire, Document.supersede]) current
  · rw [List.mem_singleton.mp here]

section Steps

variable (services : DocumentServices) {t : Documents} {id : Uuid} {d : Document}

theorem found_of_mem (member : d ∈ t.documents.rows) : t.documents.find (·.id == d.id) = some d :=
  (Table.find_some_iff (selects_documentId d.id)).mpr ⟨member, beq_self_eq_true _⟩

theorem lastCurrent_kept (op : DocumentOperation) (order : ∀ piece, InOrder (t.pieces piece))
    (last : ∀ piece, LastCurrent (t.pieces piece)) (stays : ¬ op.Revives t) (piece : Piece) :
    LastCurrent ((performDocument services t op).pieces piece) := by
  rcases pieces_step services op piece (order piece) with
    same | ⟨row, grown, -, -⟩ | ⟨_, id, _, _, _, data, rfl, reviewer, reviewed⟩
  · rw [same]
    exact last piece
  · rw [grown]
    exact (last piece).add
  · rw [reviewed]
    intro e member current
    obtain ⟨before, inside, rfl⟩ := List.mem_map.mp member
    have live : before.status ≠ .superseded := by
      intro superseded
      split at current
      next hit =>
        -- The document under review is the superseded one.
        have stored := found_of_mem (mem_pieces.mp inside).1
        rw [beq_iff_eq.mp hit] at stored
        exact stays ⟨⟨before, stored, superseded⟩, reviewer⟩
      next => exact current superseded
    rw [List.getLast?_map]
    exact congrArg (Option.map _) (last piece before inside live)

/-- A review of a superseded version makes it current beside the last one. -/
theorem lastCurrent_broken (op : DocumentOperation) (order : ∀ piece, InOrder (t.pieces piece))
    (revives : op.Revives t) :
    ∃ piece, ¬ LastCurrent ((performDocument services t op).pieces piece) := by
  cases op with
  | upload => exact revives.elim
  | review ambient id status reviewedById rejectionReason =>
      obtain ⟨⟨d, found, superseded⟩, reviewer⟩ := revives
      obtain ⟨data, written⟩ :=
        review_documents services t ambient status reviewedById rejectionReason found reviewer
      obtain ⟨stored, named⟩ := Table.find_some_mem found
      refine ⟨d.piece, fun last => ?_⟩
      rw [Documents.pieces, written, Table.filter_update_kept _ _ _ data.apply_key _ fun _ => rfl] at last
      have member : d ∈ t.pieces d.piece := mem_pieces.mpr ⟨stored, rfl⟩
      have current : (data.apply d).status ≠ .superseded := by
        cases outcome : data.status <;> simp [ReviewData.apply, ReviewStatus.toStatus, outcome]
      have top := last (data.apply d) (List.mem_map.mpr ⟨d, member, if_pos named⟩) current
      rw [List.getLast?_map, Option.map_eq_some_iff] at top
      obtain ⟨final, isLast, rewritten⟩ := top
      have same : final.id = d.id := by
        have ids := congrArg Document.id rewritten
        split at ids <;> exact ids
      have stored' := found_of_mem (mem_pieces.mp (List.mem_of_getLast? isLast)).1
      rw [same] at stored'
      cases stored'.symm.trans (found_of_mem stored)
      exact (order d.piece).current d isLast superseded

theorem superseded_kept (op : DocumentOperation) (stays : ¬ op.Revives t) (superseded : Superseded t id) :
    Superseded (performDocument services t op) id := by
  obtain ⟨d, found, status⟩ := superseded
  cases op with
  | upload ambient subjectType subjectId documentType file uploadedById =>
      rcases upload_documents services t ambient subjectType subjectId documentType file uploadedById with
        ⟨-, same⟩ | ⟨replaced, row, done, inserted, _⟩
      · exact ⟨d, by rw [performDocument, same, found], status⟩
      · refine ⟨retire (t.previous ambient.choice (subjectType, subjectId, documentType)) d, ?_,
          retire_status status⟩
        rw [performDocument, Table.find_insert inserted, superseded_find done, found]
        rfl
  | review ambient other outcome reviewedById rejectionReason =>
      rcases review_pieces services t ambient other outcome reviewedById rejectionReason with
        same | ⟨e, data, found', reviewer, written⟩
      · exact ⟨d, by rw [same, found], status⟩
      · by_cases same : other = id
        · subst same
          exact absurd ⟨⟨d, found, status⟩, reviewer⟩ stays
        · refine ⟨d, ?_, status⟩
          have named : d.id = id := beq_iff_eq.mp (Table.find_some_mem found).2
          rw [written, Table.find_update t.documents _ _ data.apply_key _ fun _ => rfl, found,
            Option.map_some, if_neg (by simpa [named] using Ne.symm same)]

end Steps

/-- In every state of a run from an empty table only the last version of a piece
can be current, and no superseded version becomes current again, exactly when
no review by somebody known is of a superseded document. -/
theorem one_current_version (services : DocumentServices) (users : List Uuid)
    (ops : List DocumentOperation) :
    ((∀ front back, ops = front ++ back → ∀ piece,
        LastCurrent ((runFrom (performDocument services) { users } front).pieces piece)) ∧
      ∀ front middle back, ops = front ++ middle ++ back → ∀ id,
        Superseded (runFrom (performDocument services) { users } front) id →
          Superseded (runFrom (performDocument services) { users } (front ++ middle)) id) ↔
    Along (performDocument services) (fun t op => ¬ op.Revives t) { users } ops := by
  have each : (∀ front back, ops = front ++ back →
      (∀ piece, InOrder ((runFrom (performDocument services) { users } front).pieces piece)) ∧
        ∀ piece, LastCurrent ((runFrom (performDocument services) { users } front).pieces piece)) ↔
      Along (performDocument services) (fun t op => ¬ op.Revives t) { users } ops := by
    refine runFrom_exact (I := fun t : Documents => (∀ piece, InOrder (t.pieces piece)) ∧
      ∀ piece, LastCurrent (t.pieces piece))
      (s := { users }) (fun t op both stays => ?_) (fun t op both after revives => ?_)
      ⟨fun _ => .empty, fun _ d member => ?_⟩
    · exact ⟨inOrder_kept services op both.1, lastCurrent_kept services op both.1 both.2 stays⟩
    · obtain ⟨piece, broken⟩ := lastCurrent_broken services op both.1 revives
      exact broken (after.2 piece)
    · cases member
  constructor
  · rintro ⟨last, _⟩
    exact each.mp fun front back split => ⟨inOrder_run services users front, last front back split⟩
  · intro admitted
    refine ⟨fun front back split => (each.mpr admitted front back split).2,
      fun front middle back split id superseded => ?_⟩
    rw [runFrom_append]
    rw [split, along_append, along_append] at admitted
    exact runFrom_invariant (I := fun t : Documents => Superseded t id)
      (fun t op superseded stays => superseded_kept services op stays superseded) superseded admitted.1.2

/-- A photograph is uploaded twice. -/
def twoPhotographs : List DocumentOperation :=
  [.upload { freshId := "d1" } .requester "fatou" .photo ⟨[], "image/png", 1, "moi.png"⟩ "awa",
    .upload { freshId := "d2" } .requester "fatou" .photo ⟨[], "image/png", 1, "moi.png"⟩ "awa"]

/-- Then the first one is validated, and is current again beside the second. -/
theorem two_current_versions :
    let before := runFrom (performDocument ⟨{}, fun _ => ""⟩) { users := ["awa"] } twoPhotographs
    let after := performDocument ⟨{}, fun _ => ""⟩ before (.review {} "d1" .validated "awa" none)
    Superseded before "d1" ∧ ¬ Superseded after "d1" ∧
    ¬ LastCurrent (after.pieces (.requester, "fatou", .photo)) := by
  refine ⟨⟨_, rfl, rfl⟩, ?_, by unfold LastCurrent; decide⟩
  rintro ⟨d, found, superseded⟩
  cases found
  cases superseded

end AccreditationBackend
