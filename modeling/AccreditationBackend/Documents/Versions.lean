import AccreditationBackend.Documents.Service
import AccreditationBackend.Foundation.Numbering

/-! The versions of a piece in sequential runs of uploads and reviews. -/

set_option autoImplicit false

namespace AccreditationBackend

open Foundation

/-- The versions of a piece, in the order of their uploads. -/
def Documents.pieces (t : Documents) (piece : Piece) : List Document :=
  t.documents.rows.filter (·.piece == piece)

/-- The previous version that an upload finds. -/
def Documents.previous (t : Documents) (choice : Nat) (piece : Piece) : Option Document :=
  t.documents.highest choice (currentOf piece) (·.version)

theorem selects_documentId (id : Uuid) : Table.Selects (ρ := Document) (·.id == id) := by
  intro a b left right
  exact (beq_iff_eq.mp left).trans (beq_iff_eq.mp right).symm

/-! ## What an operation writes -/

section Statements

variable {t t' : Documents}

theorem addVersion_ok {previous : Option Uuid} {row reply : Document}
    (applied : t.apply (.addVersion previous row) = .ok (reply, t')) :
    reply = row ∧ ∃ superseded, t'.objects = t.objects ∧ t.superseding previous = .ok superseded ∧
      superseded.insert row = some t'.documents := by
  simp only [Documents.apply, bind_ok, require_ok, orFail_ok, pure_ok, Prod.mk.injEq] at applied
  obtain ⟨superseded, done, _, _, documents, inserted, same, rfl⟩ := applied
  exact ⟨same.symm, superseded, rfl, done, inserted⟩

theorem updateReview_ok {id : Uuid} {data : ReviewData} {d : Document}
    (found : t.documents.find (·.id == id) = some d) (reviewer : data.reviewedById ∈ t.users) :
    t.apply (.updateReview id data) = .ok (data.apply d,
      { t with documents := t.documents.update (·.id == id) data.apply data.apply_key }) := by
  simp [Documents.apply, found, reviewer, orFail, require, bind, Except.bind, pure, Except.pure]

theorem updateReview_refused (id : Uuid) {data : ReviewData} (reviewer : data.reviewedById ∉ t.users) :
    ∃ why, t.apply (.updateReview id data) = .error why := by
  cases found : t.documents.find (·.id == id) <;>
    simp [Documents.apply, found, reviewer, orFail, require, bind, Except.bind]

end Statements

section Writes

variable (services : DocumentServices) (t : Documents)

theorem upload_refused {file : UploadFileInput} {why : DomainError}
    (refused : assertValidFile services.config file = .error why) (ambient : DocumentAmbient)
    (subjectType : DocumentSubjectType) (subjectId : Uuid) (documentType : DocumentType)
    (uploadedById : Uuid) :
    performDocument services t
      (.upload ambient subjectType subjectId documentType file uploadedById) = t := by
  simp only [performDocument, DocumentOperation.execute, upload, refused, Proc.run]

/-- An upload fails and leaves the documents alone, or it supersedes the previous version, adds one
more and returns it. -/
theorem upload_documents (ambient : DocumentAmbient) (subjectType : DocumentSubjectType)
    (subjectId : Uuid) (documentType : DocumentType) (file : UploadFileInput)
    (uploadedById : Uuid) :
    let ended := ((DocumentOperation.upload ambient subjectType subjectId documentType file uploadedById).execute
      services).run handleDocument t
    let previous := t.previous ambient.choice (subjectType, subjectId, documentType)
    ended.1.isOk = false ∧ ended.2.documents = t.documents ∨
      ∃ superseded row, t.superseding (previous.map (·.id)) = .ok superseded ∧
        superseded.insert row = some ended.2.documents ∧
        row.piece = (subjectType, subjectId, documentType) ∧
        row.version = (previous.map (·.version)).getD 0 + 1 ∧
        row.status = .pending ∧ ended.1 = .ok row := by
  intro ended previous
  cases valid : assertValidFile services.config file with
  | error why =>
      left
      simp only [ended, DocumentOperation.execute, upload, valid, Proc.run, and_true]
      rfl
  | ok checked =>
      cases fails : ambient.storageFails with
      | true =>
          left
          simp only [ended, DocumentOperation.execute, upload, valid, Proc.query_bind, Proc.run, putObject, fails,
            if_true, Proc.fail_bind, and_true]
          rfl
      | false =>
          simp only [ended, previous, DocumentOperation.execute, upload, valid, Proc.query_bind, Proc.run,
            putObject, fails, Bool.false_eq_true, if_false]
          rw [writeDocument_bind, Proc.run]
          dsimp only [handleDocument, Documents.apply]
          rw [writeDocument_bind, Proc.run, handleDocument]
          split
          next created t' applied =>
            obtain ⟨rfl, superseded, -, done, inserted⟩ := addVersion_ok applied
            exact .inr ⟨superseded, _, done, inserted, rfl, rfl, rfl, rfl⟩
          next why applied => exact .inl ⟨rfl, rfl⟩

theorem review_documents (ambient : DocumentAmbient) {id : Uuid} (status : ReviewStatus)
    (reviewedById : Uuid) (rejectionReason : Option String) {d : Document}
    (found : t.documents.find (·.id == id) = some d) (reviewer : reviewedById ∈ t.users) :
    let after := performDocument services t (.review ambient id status reviewedById rejectionReason)
    ∃ data : ReviewData,
      after.documents = t.documents.update (·.id == id) data.apply data.apply_key := by
  refine ⟨⟨status, rejectionReason, reviewedById, ambient.now⟩, ?_⟩
  simp only [performDocument, DocumentOperation.execute, review, getDocument, Proc.query_bind,
    Proc.read_bind, Proc.run, found]
  rw [Proc.pure_eq, Proc.done_bind, writeDocument_bind, Proc.run, handleDocument,
    updateReview_ok found reviewer]
  rfl

theorem review_refused (ambient : DocumentAmbient) {id : Uuid} (status : ReviewStatus)
    {reviewedById : Uuid} (rejectionReason : Option String)
    (refused : ¬ ((t.documents.find (·.id == id)).isSome = true ∧ reviewedById ∈ t.users)) :
    performDocument services t (.review ambient id status reviewedById rejectionReason) = t := by
  simp only [performDocument, DocumentOperation.execute, review, getDocument, Proc.query_bind,
    Proc.read_bind, Proc.run]
  cases found : t.documents.find (·.id == id) with
  | none => rfl
  | some d =>
      rw [found] at refused
      let data : ReviewData := ⟨status, rejectionReason, reviewedById, ambient.now⟩
      obtain ⟨why, failed⟩ :=
        updateReview_refused id
          (show data.reviewedById ∉ t.users from fun reviewer => refused ⟨rfl, reviewer⟩)
      dsimp only
      rw [Proc.pure_eq, Proc.done_bind, writeDocument_bind, Proc.run, handleDocument, failed]

end Writes

/-! ## The versions of one piece -/

section Pieces

variable {t : Documents} {id : Uuid} {d : Document} {piece : Piece}

theorem mem_pieces : d ∈ t.pieces piece ↔ d ∈ t.documents.rows ∧ d.piece = piece := by
  simp [Documents.pieces]

/-- The last version of a piece is not superseded, and the versions are numbered in order. -/
structure InOrder (pieces : List Document) : Prop where
  numbered : Numbered (·.version) pieces
  current : ∀ d ∈ pieces.getLast?, d.status ≠ .superseded

/-- The previous version, once another has been uploaded. -/
def retire (previous : Option Document) (d : Document) : Document :=
  if previous.any (·.id == d.id) then d.supersede else d

theorem previous_last (order : InOrder (t.pieces piece)) (choice : Nat) :
    t.previous choice piece = (t.pieces piece).getLast? := by
  have current {d : Document} (last : (t.pieces piece).getLast? = some d) :
      d ∈ t.documents.rows ∧ currentOf piece d = true := by
    obtain ⟨stored, mine⟩ := mem_pieces.mp (List.mem_of_getLast? last)
    exact ⟨stored, by simp [currentOf, mine, order.current d last]⟩
  cases found : t.previous choice piece with
  | none =>
      cases last : (t.pieces piece).getLast? with
      | none => rfl
      | some d => cases (Table.highest_none found d (current last).1).symm.trans (current last).2
  | some p =>
      obtain ⟨stored, holds, highest⟩ := Table.highest_some found
      have mine : p ∈ t.pieces piece := by
        simp only [currentOf, Bool.and_eq_true, beq_iff_eq] at holds
        exact mem_pieces.mpr ⟨stored, holds.1⟩
      refine (order.numbered.highest mine fun b member => ?_).symm
      cases last : (t.pieces piece).getLast? with
      | none =>
          rw [List.getLast?_eq_none_iff.mp last] at mine
          cases mine
      | some d =>
          -- No number exceeds that of the last version, which was there to be found.
          calc b.version ≤ (t.pieces piece).length := order.numbered.le_length member
            _ = d.version := (order.numbered.getLast last).symm
            _ ≤ p.version := highest d (current last).1 (current last).2

theorem retire_kept {β : Type} (previous : Option Document) {c : Document → β}
    (kept : ∀ d, c d.supersede = c d) (d : Document) :
    c (retire previous d) = c d := by
  unfold retire
  split
  · exact kept d
  · rfl

theorem superseding_rows {previous : Option Document} {superseded : Table Document}
    (done : t.superseding (previous.map (·.id)) = .ok superseded) :
    superseded.rows = t.documents.rows.map (retire previous) := by
  cases previous with
  | none =>
      cases done
      exact (List.map_id _).symm
  | some p =>
      simp only [Option.map_some, Documents.superseding, bind_ok, orFail_ok, pure_ok] at done
      obtain ⟨_, _, rfl⟩ := done
      refine List.map_congr_left fun d _ => ?_
      rw [retire, Option.any_some, BEq.comm]

theorem superseded_pieces {previous : Option Document} {superseded : Table Document}
    (done : t.superseding (previous.map (·.id)) = .ok superseded) :
    superseded.rows.filter (·.piece == piece) = (t.pieces piece).map (retire previous) := by
  rw [superseding_rows done, List.filter_map]
  exact congrArg (List.map _ <| List.filter · _)
    (funext (retire_kept (c := (·.piece == piece)) previous fun _ => rfl))

theorem superseded_find {previous : Option Document} {superseded : Table Document}
    (done : t.superseding (previous.map (·.id)) = .ok superseded) :
    superseded.find (·.id == id) = (t.documents.find (·.id == id)).map (retire previous) := by
  rw [Table.find, superseding_rows done, List.find?_map]
  exact congrArg (Option.map _ <| List.find? · _)
    (funext (retire_kept (c := (·.id == id)) previous fun _ => rfl))

theorem pieces_update_other (found : t.documents.find (·.id == id) = some d)
    {f : Document → Document} {same : ∀ r, Keyed.key (f r) = Keyed.key r}
    (kept : ∀ r, (f r).piece = r.piece) (other : d.piece ≠ piece) :
    (t.documents.update (·.id == id) f same).rows.filter (·.piece == piece) = t.pieces piece := by
  refine Table.filter_update _ _ _ _ _ fun r member hit => ?_
  cases found.symm.trans ((Table.find_some_iff (selects_documentId id)).mpr ⟨member, hit⟩)
  exact ⟨beq_eq_false_iff_ne.mpr other, beq_eq_false_iff_ne.mpr (by rwa [kept])⟩

variable (services : DocumentServices)

/-- Of its own piece an upload retires the previous version, adds the next one and returns it, or
it fails and changes nothing. -/
theorem upload_pieces (piece : Piece) (order : InOrder (t.pieces piece)) (ambient : DocumentAmbient)
    (file : UploadFileInput) (uploadedById : Uuid) :
    let ended := ((DocumentOperation.upload ambient piece.1 piece.2.1 piece.2.2 file uploadedById).execute
      services).run handleDocument t
    ended.1.isOk = false ∧ ended.2.pieces piece = t.pieces piece ∨
      ∃ row : Document, ended.2.pieces piece =
        (t.pieces piece).map (retire (t.pieces piece).getLast?) ++ [row] ∧
        row.version = (t.pieces piece).length + 1 ∧ row.status = .pending ∧ ended.1 = .ok row := by
  intro ended
  rcases upload_documents services t ambient piece.1 piece.2.1 piece.2.2 file uploadedById with
    ⟨failed, same⟩ | ⟨superseded, row, done, inserted, mine, version, status, returned⟩
  · left
    refine ⟨failed, ?_⟩
    rw [Documents.pieces, same, Documents.pieces]
  · right
    rw [previous_last order] at done version
    rw [order.numbered.next] at version
    refine ⟨row, ?_, version, status, returned⟩
    rw [Documents.pieces, Table.insert_rows inserted, List.filter_append, superseded_pieces done]
    simp [mine]

theorem upload_elsewhere (ambient : DocumentAmbient) (subjectType : DocumentSubjectType)
    (subjectId : Uuid) (documentType : DocumentType) (file : UploadFileInput) (uploadedById : Uuid)
    (other : (subjectType, subjectId, documentType) ≠ piece) :
    (performDocument services t
      (.upload ambient subjectType subjectId documentType file uploadedById)).pieces piece =
      t.pieces piece := by
  rcases upload_documents services t ambient subjectType subjectId documentType file uploadedById with
    ⟨-, same⟩ | ⟨superseded, row, done, inserted, mine, _⟩
  · rw [Documents.pieces, performDocument, same, Documents.pieces]
  · rw [Documents.pieces, performDocument, Table.insert_rows inserted, List.filter_append, List.filter_singleton, mine,
      beq_eq_false_iff_ne.mpr other]
    simp only [cond_false, List.append_nil]
    cases found : t.previous ambient.choice (subjectType, subjectId, documentType) with
    | none =>
        rw [found] at done
        cases done
        rfl
    | some p =>
        rw [found] at done
        simp only [Option.map_some, Documents.superseding, bind_ok, orFail_ok, pure_ok] at done
        obtain ⟨d, stored, rfl⟩ := done
        obtain ⟨member, holds, _⟩ := Table.highest_some found
        cases stored.symm.trans
          ((Table.find_some_iff (selects_documentId p.id)).mpr ⟨member, beq_self_eq_true _⟩)
        simp only [currentOf, Bool.and_eq_true, beq_iff_eq] at holds
        exact pieces_update_other stored (fun _ => rfl) (by rwa [holds.1])

theorem review_pieces (t : Documents) (ambient : DocumentAmbient) (id : Uuid)
    (status : ReviewStatus) (reviewedById : Uuid) (rejectionReason : Option String) :
    let after := performDocument services t (.review ambient id status reviewedById rejectionReason)
    after = t ∨ ∃ (d : Document) (data : ReviewData), t.documents.find (·.id == id) = some d ∧
      reviewedById ∈ t.users ∧
      after.documents = t.documents.update (·.id == id) data.apply data.apply_key := by
  intro after
  cases found : t.documents.find (·.id == id) with
  | none =>
      exact .inl (review_refused services t ambient status rejectionReason fun both => by simp [found] at both)
  | some d =>
      by_cases reviewer : reviewedById ∈ t.users
      · obtain ⟨data, written⟩ :=
          review_documents services t ambient status reviewedById rejectionReason found reviewer
        exact .inr ⟨d, data, rfl, reviewer, written⟩
      · exact .inl
          (review_refused services t ambient status rejectionReason fun both => reviewer both.2)

end Pieces

/-! ## Runs -/

namespace InOrder

variable {pieces : List Document}

theorem empty : InOrder [] := ⟨numbered_nil, fun d last => by cases last⟩

theorem map {f : Document → Document} (order : InOrder pieces)
    (version : ∀ d, (f d).version = d.version)
    (status : ∀ d, (f d).status = .superseded → d.status = .superseded) :
    InOrder (pieces.map f) := by
  refine ⟨order.numbered.map version, fun d last => ?_⟩
  rw [List.getLast?_map, Option.mem_def, Option.map_eq_some_iff] at last
  obtain ⟨before, last, rfl⟩ := last
  exact fun superseded => order.current before last (status before superseded)

theorem add (order : InOrder pieces) (previous : Option Document) {row : Document}
    (version : row.version = pieces.length + 1) (status : row.status = .pending) :
    InOrder (pieces.map (retire previous) ++ [row]) := by
  refine ⟨numbered_append.mpr ⟨order.numbered.map (retire_kept previous fun _ => rfl), by rwa [List.length_map]⟩,
    fun d last => ?_⟩
  rw [List.getLast?_append, List.getLast?_singleton, Option.some_or] at last
  cases last
  rw [status]
  exact nofun

end InOrder

/-- The piece that the operation is about. -/
def DocumentOperation.Concerns (t : Documents) (op : DocumentOperation) (piece : Piece) : Prop :=
  match op with
  | .upload _ subjectType subjectId documentType _ _ => (subjectType, subjectId, documentType) = piece
  | .review _ id .. => ∃ d, t.documents.find (·.id == id) = some d ∧ d.piece = piece

section Runs

variable (services : DocumentServices) {t : Documents}

theorem pieces_elsewhere (op : DocumentOperation) {piece : Piece} (other : ¬ op.Concerns t piece) :
    (performDocument services t op).pieces piece = t.pieces piece := by
  cases op with
  | upload ambient subjectType subjectId documentType file uploadedById =>
      exact upload_elsewhere services ambient subjectType subjectId documentType file
        uploadedById other
  | review ambient id status reviewedById rejectionReason =>
      rcases review_pieces services t ambient id status reviewedById rejectionReason with
        same | ⟨d, data, found, _, written⟩
      · rw [same]
      · rw [Documents.pieces, written]
        exact pieces_update_other found (fun _ => rfl) fun mine => other ⟨d, found, mine⟩

/-- One operation adds a version to a piece, reviews a version of it, or leaves the piece as it is. -/
theorem pieces_step (op : DocumentOperation) (piece : Piece) (order : InOrder (t.pieces piece)) :
    let after := (performDocument services t op).pieces piece
    after = t.pieces piece ∨
      (∃ row, after = (t.pieces piece).map (retire (t.pieces piece).getLast?) ++ [row] ∧
        row.version = (t.pieces piece).length + 1 ∧ row.status = .pending) ∨
      ∃ ambient id status reviewedById rejectionReason, ∃ data : ReviewData,
        op = .review ambient id status reviewedById rejectionReason ∧ reviewedById ∈ t.users ∧
        after = (t.pieces piece).map fun d => if d.id == id then data.apply d else d := by
  intro after
  by_cases concerns : op.Concerns t piece
  · cases op with
    | upload ambient subjectType subjectId documentType file uploadedById =>
        cases concerns
        rcases upload_pieces services (subjectType, subjectId, documentType)
          order ambient file uploadedById with
          ⟨-, same⟩ | ⟨row, grown, version, status, -⟩
        · exact .inl same
        · exact .inr (.inl ⟨row, grown, version, status⟩)
    | review ambient id status reviewedById rejectionReason =>
        rcases review_pieces services t ambient id status reviewedById rejectionReason with
          same | ⟨d, data, found, reviewer, written⟩
        · exact .inl (congrArg (Documents.pieces · piece) same)
        · refine .inr (.inr ⟨_, _, _, _, _, data, rfl, reviewer, ?_⟩)
          dsimp only [after]
          rw [Documents.pieces, written, Table.filter_update_kept _ _ _ data.apply_key _ fun _ => rfl,
            Documents.pieces]
  · exact .inl (pieces_elsewhere services op concerns)

theorem inOrder_kept (op : DocumentOperation) (order : ∀ piece, InOrder (t.pieces piece))
    (piece : Piece) :
    InOrder ((performDocument services t op).pieces piece) := by
  rcases pieces_step services op piece (order piece) with
    same | ⟨row, grown, version, status⟩ | ⟨_, id, _, _, _, data, -, -, reviewed⟩
  · rw [same]
    exact order piece
  · rw [grown]
    exact (order piece).add _ version status
  · rw [reviewed]
    refine (order piece).map (fun d => ?_) fun d superseded => ?_
    · split <;> rfl
    · split at superseded
      -- A review never writes that status.
      · cases outcome : data.status <;>
          simp [ReviewData.apply, ReviewStatus.toStatus, outcome] at superseded
      · exact superseded

theorem inOrder_run (users : List Uuid) (ops : List DocumentOperation) (piece : Piece) :
    InOrder ((runFrom (performDocument services) { users } ops).pieces piece) := by
  refine runFrom_invariant (I := fun t : Documents => ∀ piece, InOrder (t.pieces piece))
    (P := fun _ _ => True)
    (s := { users }) (fun t op order _ => inOrder_kept services op order) (fun _ => .empty) ?_ piece
  exact along_iff.mpr fun _ _ _ _ => trivial

end Runs

/-- After every run from an empty table the versions of each piece are numbered
from one in the order of their uploads, and the highest is not superseded; a
refused file changes nothing, an upload that returns has added the next version, and
no operation touches another piece. -/
theorem versions_numbered (services : DocumentServices) (users : List Uuid)
    (ops : List DocumentOperation) :
    (∀ piece, ((runFrom (performDocument services) { users } ops).pieces piece).map (·.version) =
        List.range' 1 ((runFrom (performDocument services) { users } ops).pieces piece).length ∧
      ∀ d ∈ (runFrom (performDocument services) { users } ops).pieces piece,
        (∀ e ∈ (runFrom (performDocument services) { users } ops).pieces piece, e.version ≤ d.version) →
          d.status ≠ .superseded) ∧
    (∀ ambient subjectType subjectId documentType file uploadedById,
      (assertValidFile services.config file).isOk = false →
      performDocument services (runFrom (performDocument services) { users } ops)
          (.upload ambient subjectType subjectId documentType file uploadedById) =
        runFrom (performDocument services) { users } ops) ∧
    (∀ ambient (piece : Piece) file uploadedById created,
      (((DocumentOperation.upload ambient piece.1 piece.2.1 piece.2.2 file uploadedById).execute services).run
        handleDocument (runFrom (performDocument services) { users } ops)).1 = .ok created →
      created.version = ((runFrom (performDocument services) { users } ops).pieces piece).length + 1 ∧
        (performDocument services (runFrom (performDocument services) { users } ops)
          (.upload ambient piece.1 piece.2.1 piece.2.2 file uploadedById)).pieces piece =
            ((runFrom (performDocument services) { users } ops).pieces piece).map
              (retire ((runFrom (performDocument services) { users } ops).pieces piece).getLast?) ++ [created]) ∧
    ∀ op piece, ¬ DocumentOperation.Concerns
      (runFrom (performDocument services) { users } ops) op piece →
      (performDocument services (runFrom (performDocument services) { users } ops) op).pieces piece =
        (runFrom (performDocument services) { users } ops).pieces piece := by
  refine ⟨fun piece => ?_, fun ambient subjectType subjectId documentType file uploadedById refused => ?_,
    fun ambient piece file uploadedById created ran => ?_, fun op piece other => pieces_elsewhere services op other⟩
  · have order := inOrder_run services users ops piece
    exact ⟨order.numbered, fun d member highest => order.current d (order.numbered.highest member highest)⟩
  · cases outcome : assertValidFile services.config file with
    | error why =>
        exact upload_refused services _ outcome ambient subjectType subjectId documentType uploadedById
    | ok checked =>
        rw [outcome] at refused
        cases refused
  · rcases upload_pieces services piece (inOrder_run services users ops piece) ambient file uploadedById with
      ⟨failed, -⟩ | ⟨row, grown, version, -, returned⟩
    · rw [ran] at failed
      cases failed
    · rw [ran] at returned
      cases returned
      exact ⟨version, grown⟩

/-- A photograph of Fatou's. -/
def photograph (id : Uuid) : DocumentOperation :=
  .upload { freshId := id } .requester "fatou" .photo ⟨[], "image/png", 1, "fatou.png"⟩ "awa"

/-- The second photograph is returned as version 2, beside the first one. -/
theorem versions_numbered_photograph :
    ∃ first created : Document,
      created.version = 2 ∧ first.version = 1 ∧ first.status = .superseded ∧
      (performDocument ⟨{}, fun _ => ""⟩
        (runFrom (performDocument ⟨{}, fun _ => ""⟩) { users := ["awa"] } [photograph "d1"])
        (photograph "d2")).pieces (.requester, "fatou", .photo) = [first, created] := by
  obtain ⟨-, -, returned, -⟩ := versions_numbered ⟨{}, fun _ => ""⟩ ["awa"] [photograph "d1"]
  obtain ⟨version, grown⟩ := returned { freshId := "d2" } (.requester, "fatou", .photo)
    ⟨[], "image/png", 1, "fatou.png"⟩ "awa" _ rfl
  exact ⟨_, _, version, rfl, rfl, grown⟩

end AccreditationBackend
