import AccreditationBackend.Foundation.Mediation
import AccreditationBackend.Http.Policy
import AccreditationBackend.Requests.Isolation

/-! The operations stay within the policy, whatever the store becomes while they run. -/

set_option autoImplicit false

namespace AccreditationBackend

open Foundation

/-- Whatever the store becomes in between, the procedure executes what is permitted to the user. -/
def Foundation.Proc.StaysPermitted {A : Type} (user : AuthenticatedUser) (p : Op A) (seen : List Database)
    (m : Database) : Prop :=
  p.Judged handle (fun s t => Keeps s.toTables t.toTables)
    (fun _ e => Statement.PermittedTo user e.before.toTables e.stmt)
    (fun _ _ _ => True) seen m

section Rules

variable {user : AuthenticatedUser} {A B : Type} {seen : List Database} {m : Database}

theorem issues_permitted {p : Op A} {F : Statement → Prop} (issues : p.Issues F)
    (permitted : ∀ stmt s, F stmt → Keeps m.toTables s → stmt.PermittedTo user s) : p.StaysPermitted user seen m := by
  refine Proc.judged_mono (Proc.judged_relies (R := fun s t : Database => Keeps s.toTables t.toTables)
    (fun s => .refl _) (fun _ _ _ => Keeps.trans) (fun _ stmt s _ => keeps_step stmt s)
    (Proc.judged_issues issues seen m)) (fun _ _ moved => moved) ?_ fun _ _ _ _ => trivial
  exact fun _ e both => permitted e.stmt e.before.toTables both.2 both.1.1

theorem silent_permitted {p : Op A} {f : A → Op B} (silent : p.Issues fun _ => False)
    (rest : ∀ value seen' m', (f value).StaysPermitted user seen' m') : (p >>= f).StaysPermitted user seen m :=
  Proc.judged_seq (issues_permitted silent fun _ _ nothing => nothing.elim)
    (fun value seen' m' _ => rest value seen' m')
    fun _ _ _ _ => trivial

theorem exec_permitted {stmt : Statement} {f : stmt.Reply → Op A}
    (permitted : ∀ s, Keeps m.toTables s → stmt.PermittedTo user s)
    (rest : ∀ reply t, Keeps m.toTables t.toTables → (f reply).StaysPermitted user seen t) :
    (Proc.exec stmt f).StaysPermitted user seen m := by
  refine Proc.judged_exec (fun s kept => permitted s.toTables kept) (fun s reply t kept replied => ?_)
    fun _ _ _ _ => trivial
  have moved := keeps_step stmt s
  rw [handle.after_ok replied] at moved
  exact rest reply t (kept.trans moved)

theorem loaded_permitted {id : Uuid} {owned : AccreditationRequest → Bool} {f : AccreditationRequest → Op A}
    (rest : ∀ s r, (s.requestById id).filter owned = some r → (f r).StaysPermitted user (s :: seen) s) :
    (loadRequest id owned >>= f).StaysPermitted user seen m := by
  rw [loadRequest_bind]
  intro s _
  dsimp only
  cases loaded : (s.requestById id).filter owned with
  | none => trivial
  | some r => exact rest s r loaded

theorem loaded_issues {id : Uuid} {owned : AccreditationRequest → Bool} {f : AccreditationRequest → Op A}
    {F : Statement → Prop} (issues : (loadRequest id owned >>= f).Issues F) {s : Database}
    {r : AccreditationRequest} (loaded : (s.requestById id).filter owned = some r) : (f r).Issues F := by
  rw [loadRequest_bind] at issues
  have now := issues s
  dsimp only at now
  rwa [loaded] at now

theorem reply_permitted {p : Op A} {f : A → Reply} (stays : p.StaysPermitted user seen m) :
    (do let value ← p; return f value : Op Reply).StaysPermitted user seen m :=
  Proc.judged_seq stays (fun _ _ _ _ => trivial) fun _ _ _ _ => trivial

end Rules

/-! ## The staff -/

section Staff

variable {user : AuthenticatedUser} {services : Services} {op : Operation}

/-- The permission that the routes of the staff require for an operation. -/
def Operation.permission : Operation → Option Permission
  | .requestComplement .. => some .requestsComplementRequest
  | .transition _ => some .requestsValidate
  | .decide .. => some .requestsValidate
  | .cancel _ => some .requestsValidate
  | .setQuota .. => some .requestsAttribute
  | .updateMatch .. => some .competitionsManage
  | .updateAssignments .. => some .accreditationsGenerate
  | .revoke .. => some .accreditationsRevoke
  | .verifyScan .. => some .scanPerform
  | .syncOfflineScans .. => some .scanPerform
  | _ => none

theorem footprint_allowed {permission : Permission} (required : op.permission = some permission)
    (held : permission ∈ user.permissions) {stmt : Statement} (footprint : op.Footprint services stmt) (t : Tables) :
    stmt.AllowedTo user t := by
  cases op <;> simp only [Operation.permission, Option.some.injEq, reduceCtorEq] at required <;> subst required <;>
    simp only [Operation.Footprint, WritesTo, Publishes, GrantsBadge, LogsScan] at footprint <;>
    grind [Statement.AllowedTo]

theorem signed_by {stmt : Statement} (signs : op.Signs stmt) (self : ∀ id ∈ op.author, id = user.id) :
    ∀ id ∈ stmt.signers, id = user.id := fun id member => self id (signs id member)

theorem staff_permitted {permission : Permission} (required : op.permission = some permission)
    (held : permission ∈ user.permissions) (self : ∀ id ∈ op.author, id = user.id) (seen : List Database)
    (m : Database) : (op.execute services).StaysPermitted user seen m :=
  issues_permitted (Proc.issues_both (execute_footprint services op) (execute_signed services op))
    fun _ s both _ => ⟨footprint_allowed required held both.1 s, signed_by both.2 self⟩

end Staff

/-! ## Requesters -/

section Requesters

variable {user : AuthenticatedUser} (ambient : Ambient) {seen : List Database} {m : Database}

theorem saveDraft_permitted {input : SaveDraftRequestUseCase.SaveDraftInput}
    (own : user.requesterProfileId = some input.requesterId) :
    (SaveDraftRequestUseCase.execute ambient input).StaysPermitted user seen m := by
  unfold SaveDraftRequestUseCase.execute
  refine silent_permitted (getMatch_issues _) fun _ _ _ => ?_
  refine silent_permitted (getCategory_issues _) fun _ _ _ => ?_
  rw [Proc.query_bind]
  intro s _
  dsimp only
  cases existing : s.requests.pick ambient.choice
      (SaveDraftRequestUseCase.isExistingDraft input.requesterId input.matchId) with
  | some draft =>
      obtain ⟨stored, isDraft⟩ := Table.pick_some_mem existing
      simp only [SaveDraftRequestUseCase.isExistingDraft, Bool.and_eq_true, beq_iff_eq] at isDraft
      have owns : user.Owns s.toTables draft.id := ⟨draft, ⟨stored, isDraft.1.1 ▸ own⟩, rfl⟩
      exact exec_permitted (fun t kept => ⟨kept.owns owns, by simp [Statement.signers]⟩) fun _ _ _ => trivial
  | none =>
      refine silent_permitted (generateUnique_issues _ _ _ _ _ _) fun reference _ _ => ?_
      exact exec_permitted (fun _ _ => ⟨own, by simp [Statement.signers]⟩) fun _ _ _ => trivial

theorem submit_permitted {input : SubmitRequestUseCase.SubmitRequestInput}
    (own : user.requesterProfileId = some input.requesterId) (self : input.actorUserId = user.id) :
    (SubmitRequestUseCase.execute ambient input).StaysPermitted user seen m := by
  -- Filing uses no service: any will do for its footprint.
  have footprint : (SubmitRequestUseCase.execute ambient input).Issues
      (Operation.Footprint sampleServices (.submit ambient input)) := submit_footprint ambient input
  have issues := Proc.issues_both footprint
    (Proc.issues_both (submit_signed ambient input) (submit_writes ambient input))
  unfold SubmitRequestUseCase.execute at issues ⊢
  refine loaded_permitted fun s r loaded => issues_permitted (loaded_issues issues loaded) ?_
  obtain ⟨found, holder⟩ := Option.filter_eq_some_iff.mp loaded
  rintro stmt t ⟨footprint, signs, writes⟩ kept
  refine ⟨?_, signed_by signs (by simp [Operation.author, self])⟩
  rcases footprint with ⟨w, rfl, named, target, _⟩ | ⟨event, rfl⟩
  · have owns := kept.owns ⟨r, owns_loaded own found (beq_iff_eq.mp holder)⟩
    exact .inr (.inr ⟨named ▸ owns, by simp [target], (writes w rfl).complement rfl⟩)
  · trivial

theorem resolveComplement_permitted {input : ResolveComplementUseCase.ResolveComplementInput}
    (own : user.requesterProfileId = some input.requesterId) :
    (ResolveComplementUseCase.execute ambient input).StaysPermitted user seen m := by
  unfold ResolveComplementUseCase.execute
  refine loaded_permitted fun s r loaded => ?_
  obtain ⟨found, holder⟩ := Option.filter_eq_some_iff.mp loaded
  have owns := owns_loaded own found (beq_iff_eq.mp holder)
  rw [Proc.query_bind]
  intro s₁ kept₁
  dsimp only
  cases asked : (s₁.complements.find (·.id == input.complementId)).filter (·.requestId == input.requestId) with
  | none => trivial
  | some c =>
      obtain ⟨stored, ofRequest⟩ := Option.filter_eq_some_iff.mp asked
      obtain ⟨inside, named⟩ := Table.find_some_mem stored
      simp only [beq_iff_eq] at ofRequest named
      rw [orThrow_some_bind, issue_bind]
      refine exec_permitted (fun t kept => ⟨?_, by simp [Statement.signers]⟩) fun resolved t kept => ?_
      · obtain ⟨c', inside', same⟩ := List.mem_map.mp (kept.complements (List.mem_map_of_mem inside))
        simp only [Prod.mk.injEq] at same
        refine ⟨c', inside', same.1.trans named, ?_⟩
        rw [same.2, ofRequest]
        exact (kept₁.trans kept).owns ⟨r, owns⟩
      · rw [Proc.query_bind]
        intro s₂ kept₂
        dsimp only
        split
        · refine exec_permitted (fun t' kept' => ⟨?_, by simp [Statement.signers]⟩) fun _ _ _ => trivial
          exact .inr (.inr ⟨(((kept₁.trans kept).trans kept₂).trans kept').owns ⟨r, owns⟩, by simp, rfl⟩)
        · trivial

/-- Whoever holds a request for the match may give a slot of it back. -/
theorem releaseSlot_permitted {A : Type} {f : Unit → Op A} {r : AccreditationRequest} {matchId categoryId : Uuid}
    (holds : user.Holds m.toTables r) (ofMatch : r.matchId = matchId)
    (rest : ∀ seen' m', (f ()).StaysPermitted user seen' m') :
    (releaseSlot matchId categoryId >>= f).StaysPermitted user seen m := by
  simp only [releaseSlot, getQuotaRow_bind, Proc.read_bind]
  intro s kept
  dsimp only
  cases quota : s.quotaRow matchId categoryId with
  | none => trivial
  | some q =>
      obtain ⟨stored, pair⟩ := Table.find_some_mem quota
      simp only [quotaOf, Bool.and_eq_true, beq_iff_eq] at pair
      rw [orThrow_some_bind]
      split
      · exact rest _ _
      · refine exec_permitted (fun t kept' => ⟨.inr ?_, by simp [Statement.signers]⟩) fun _ _ _ => rest _ _
        obtain ⟨q', stored', same⟩ := List.mem_map.mp (kept'.quotas (List.mem_map_of_mem stored))
        simp only [Prod.mk.injEq] at same
        obtain ⟨r', holds', _, ofMatch'⟩ := (kept.trans kept').holds holds
        exact ⟨q', stored', same.1, r', holds', by rw [ofMatch', ofMatch, same.2, pair.1]⟩

theorem cancel_permitted {profile : Uuid} (own : user.requesterProfileId = some profile) (named : profile ≠ "")
    {input : CancelRequestUseCase.CancelRequestInput} (behalf : input.requesterId = some profile)
    (self : input.actorId = user.id) : (CancelRequestUseCase.execute input).StaysPermitted user seen m := by
  unfold CancelRequestUseCase.execute
  refine loaded_permitted fun s r loaded => ?_
  obtain ⟨found, may⟩ := Option.filter_eq_some_iff.mp loaded
  have owns := owns_loaded own found ((mayCancel_iff named behalf).mp may)
  obtain ⟨_, same⟩ | ⟨_, same⟩ := assertTransitionAllowed_cases r.status .cancelled <;> rw [same]
  · rw [lift_ok_bind, issue_bind]
    refine exec_permitted (fun t kept => ⟨.inr (.inr ⟨kept.owns ⟨r, owns.1, rfl⟩, ?_, rfl⟩), ?_⟩)
      fun updated t kept => ?_
    · simp [CancelRequestUseCase.cancelWrite]
    · simp [Statement.signers, CancelRequestUseCase.cancelWrite, self]
    · have announced (seen' : List Database) (m' : Database) :
          (do publish (.requestCancelled r.id r.status); return updated : Op AccreditationRequest).StaysPermitted user
            seen' m' :=
        exec_permitted (fun _ _ => ⟨trivial, by simp [Statement.signers]⟩) fun _ _ _ => trivial
      split
      · obtain ⟨r', holds', _, ofMatch⟩ := kept.holds owns.1
        exact releaseSlot_permitted holds' ofMatch announced
      · exact announced _ _
  · trivial

end Requesters

/-! ## Documents -/

/-- What the calls of a user do to the documents of a subject: a new object under
the path of the subject, a new version of one of its pieces. -/
def DocumentStatement.FiledFor (userId : Uuid) (subjectType : DocumentSubjectType) (subjectId : Uuid) (t : Documents) :
    DocumentStatement → Prop
  | .publish _ => True
  | .putObject object => ∃ name, object.key = subjectType.toLowerCase ++ "/" ++ subjectId ++ "/" ++ name
  | .addVersion previous row =>
      row.uploadedById = userId ∧ row.subjectType = subjectType ∧ row.subjectId = subjectId ∧
        ∀ id ∈ previous, (id, row.piece) ∈ t.documents.column fun d => (d.id, d.piece)
  | .updateReview .. => False

theorem upload_files (services : DocumentServices) (ambient : DocumentAmbient) (subjectType : DocumentSubjectType)
    (subjectId : Uuid) (documentType : DocumentType) (file : UploadFileInput) (userId : Uuid) (seen : List Documents)
    (m : Documents) :
    (upload services ambient subjectType subjectId documentType file userId).Judged handleDocument KeepsPieces
      (fun _ e => DocumentStatement.FiledFor userId subjectType subjectId e.before e.stmt)
        (fun _ _ _ => True) seen m := by
  unfold upload
  split
  · trivial
  · intro t _
    dsimp only
    unfold putObject
    split
    · trivial
    · refine Proc.judged_exec (fun t₁ _ => ?_) (fun t₁ _ t₂ kept₁ stored => ?_) fun _ _ _ _ => trivial
      · refine ⟨ambient.randomUUID ++ "-" ++ safeName file.originalname, ?_⟩
        simp only [buildDocumentStorageKey, String.append_assoc]
      · have kept₂ : KeepsPieces t₁ t₂ := handleDocument.after_ok stored ▸ keepsPieces_step _ t₁
        refine Proc.judged_exec (fun t₃ kept₃ => ⟨rfl, rfl, rfl, fun id member => ?_⟩) (fun t₃ created t₄ _ _ => ?_)
          fun _ _ _ _ => trivial
        · obtain ⟨d, found, rfl⟩ := Option.map_eq_some_iff.mp member
          obtain ⟨stored', hit, _⟩ := Table.highest_some found
          have piece : d.piece = (subjectType, subjectId, documentType) := by
            simp only [currentOf, Bool.and_eq_true, beq_iff_eq] at hit
            exact hit.1
          have kept : KeepsPieces t t₃ := List.Subset.trans kept₁ (List.Subset.trans kept₂ kept₃)
          have there := kept (List.mem_map_of_mem stored')
          rwa [piece] at there
        · exact Proc.judged_exec (fun _ _ => trivial) (fun _ _ _ _ _ => trivial) fun _ _ _ _ => trivial

theorem review_issues (ambient : DocumentAmbient) (id : Uuid) (status : ReviewStatus) (userId : Uuid)
    (rejectionReason : Option String) :
    (review ambient id status userId rejectionReason).Issues fun stmt : DocumentStatement =>
      (∃ event, stmt = .publish event) ∨ ∃ id data, stmt = .updateReview id data ∧ data.reviewedById = userId := by
  refine Proc.issues_bind _ _ _ ?_ fun document => ?_
  · refine fun t => ?_
    simp only [Proc.bind]
    split <;> trivial
  · exact ⟨.inr ⟨_, _, rfl, rfl⟩, fun _ => ⟨.inl ⟨_, rfl⟩, fun _ => trivial⟩⟩

end AccreditationBackend
