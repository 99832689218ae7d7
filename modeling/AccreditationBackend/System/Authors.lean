import AccreditationBackend.Requests.Freshness

/-! Who signs what an operation writes: nobody but the actor that it was called with. -/

set_option autoImplicit false

namespace AccreditationBackend

open Foundation

/-- The users that the written rows name as their authors. -/
def Statement.signers : Statement → List Uuid
  | .writeStatus w =>
      w.data.decisionById.toList ++ w.journal.toList.map (·.actorId) ++ w.complement.toList.map (·.requestedById)
  | .revoke _ _ revokedById _ => [revokedById]
  | .createScanLog row => [row.scannedById]
  | _ => []

/-- The user that an operation is told to act for. Drafts and complements are
the profile's, and quotas, matches and assignments keep no author. -/
def Operation.author : Operation → Option Uuid
  | .submit _ input => some input.actorUserId
  | .requestComplement _ input => some input.requestedById
  | .transition input => some input.actorId
  | .decide _ input => some input.actorId
  | .cancel input => some input.actorId
  | .revoke _ _ _ revokedById => some revokedById
  | .verifyScan _ _ scannedById => some scannedById
  | .syncOfflineScans _ _ scannedById => some scannedById
  | _ => none

def Operation.Signs (op : Operation) (stmt : Statement) : Prop := ∀ id ∈ stmt.signers, op.author = some id

theorem signs_unsigned {op : Operation} {stmt : Statement} (unsigned : stmt.signers = []) : op.Signs stmt := by
  intro id member
  rw [unsigned] at member
  cases member

section Rules

variable {A B : Type} {op : Operation}

theorem signs_writeStatus {w : StatusWrite} {actor : Uuid} (author : op.author = some actor)
    (signed : ∀ id ∈ w.data.decisionById.toList ++ w.journal.toList.map (·.actorId) ++
      w.complement.toList.map (·.requestedById), id = actor) : op.Signs (.writeStatus w) := by
  intro id member
  rw [signed id member]
  exact author

theorem signs_scanLog {row : ScanLog} (author : op.author = some row.scannedById) : op.Signs (.createScanLog row) := by
  intro id member
  obtain rfl := List.mem_singleton.mp member
  exact author

theorem unsigned_then {p : Op A} {f : A → Op B} (unsigned : p.Issues fun stmt : Statement => stmt.signers = [])
    (rest : ∀ value, (f value).Issues op.Signs) : (p >>= f).Issues op.Signs :=
  Proc.issues_bind _ _ _ (Proc.issues_mono p unsigned fun _ => signs_unsigned) rest

/-- The end of most use cases. -/
theorem announce_signed (event : DomainEvent) (value : A) :
    (do publish event; return value : Op A).Issues op.Signs :=
  unsigned_then (issue_issues rfl) fun _ => trivial

end Rules

variable (services : Services) (ambient : Ambient)

theorem generateAccreditation_unsigned (issuedAt : Time) (requestId : Uuid) (zoneIds : List Uuid)
    (options : GenerateAccreditationOptions) :
    (generateAccreditation services ambient issuedAt requestId zoneIds options).Issues
      fun stmt : Statement => stmt.signers = [] := by
  refine generateAccreditation_issues ?_ ?_
  · rintro _ ⟨row, rfl, _⟩
    rfl
  · rintro _ ⟨event, rfl⟩
    rfl

/-! ## Requests -/

theorem submit_signed (input : SubmitRequestUseCase.SubmitRequestInput) :
    (SubmitRequestUseCase.execute ambient input).Issues (Operation.submit ambient input).Signs := by
  unfold SubmitRequestUseCase.execute
  refine loadRequest_issues fun request _ => guard_issues fun _ => ?_
  refine unsigned_then (getMatch_issues _) fun m => ?_
  refine unsigned_then (lift_issues _) fun _ => ?_
  refine unsigned_then (query_issues _) fun duplicate => ?_
  have signs (data : RequestData) (silent : data.decisionById = none) :
      (Operation.submit ambient input).Signs (.writeStatus {
        requestId := request.id, seen := request.status, target := .submitted, data
        journal := some { actorId := input.actorUserId } }) :=
    signs_writeStatus rfl (by simp [silent])
  exact Proc.issues_bind _ _ _ (issue_issues (signs _ rfl)) fun _ => announce_signed _ _

theorem requestComplement_signed (input : RequestComplementUseCase.RequestComplementInput) :
    (RequestComplementUseCase.execute ambient input).Issues (Operation.requestComplement ambient input).Signs := by
  unfold RequestComplementUseCase.execute
  refine loadRequest_issues fun request _ => guard_issues fun _ => ?_
  refine Proc.issues_bind _ _ _ (issue_issues ?_) fun _ => announce_signed _ _
  exact signs_writeStatus rfl (by simp [RequestComplementUseCase.complement])

theorem resolveComplement_unsigned (input : ResolveComplementUseCase.ResolveComplementInput) :
    (ResolveComplementUseCase.execute ambient input).Issues fun stmt : Statement => stmt.signers = [] := by
  unfold ResolveComplementUseCase.execute
  refine loadRequest_issues fun request _ => ?_
  refine Proc.issues_bind _ _ _ (query_issues _) fun found => ?_
  refine Proc.issues_bind _ _ _ (orThrow_issues _ _) fun _ => ?_
  refine Proc.issues_bind _ _ _ (issue_issues rfl) fun resolved => ?_
  refine Proc.issues_bind _ _ _ (query_issues _) fun remainingOpen => ?_
  split
  · exact Proc.issues_bind _ _ _ (issue_issues rfl) fun _ => trivial
  · trivial

theorem transition_signed (input : TransitionRequestStatusUseCase.TransitionRequestStatusInput) :
    (TransitionRequestStatusUseCase.execute input).Issues (Operation.transition input).Signs := by
  unfold TransitionRequestStatusUseCase.execute
  refine loadRequest_issues fun request _ => guard_issues fun _ => issue_issues ?_
  exact signs_writeStatus rfl (by simp)

theorem decide_signed (input : DecideRequestUseCase.DecideRequestInput) :
    (DecideRequestUseCase.execute services ambient input).Issues (Operation.decide ambient input).Signs := by
  unfold DecideRequestUseCase.execute
  refine loadRequest_issues fun request _ => guard_issues fun _ => ?_
  have decision : (issue (.writeStatus (DecideRequestUseCase.decisionWrite ambient input request))).Issues
      (Operation.decide ambient input).Signs :=
    issue_issues (signs_writeStatus rfl (by simp [DecideRequestUseCase.decisionWrite]))
  cases verdict : input.status with
  | rejected =>
      simp only [reduceCtorEq, if_false]
      exact Proc.issues_bind _ _ _ decision fun _ => announce_signed _ _
  | validated =>
      simp only [if_true]
      refine unsigned_then (reserveQuotaOrThrow_issues fun _ _ _ => rfl) fun _ => ?_
      refine Proc.issues_bind _ _ _ decision fun _ => ?_
      refine unsigned_then (issue_issues rfl) fun _ => ?_
      refine unsigned_then (generateAccreditation_unsigned services ambient _ _ _ _) fun _ => issue_issues ?_
      exact signs_writeStatus rfl (by simp [DecideRequestUseCase.badgeWrite])

theorem cancel_signed (input : CancelRequestUseCase.CancelRequestInput) :
    (CancelRequestUseCase.execute input).Issues (Operation.cancel input).Signs := by
  unfold CancelRequestUseCase.execute
  refine loadRequest_issues fun request _ => guard_issues fun _ => ?_
  refine Proc.issues_bind _ _ _ (issue_issues ?_) fun _ => ?_
  · exact signs_writeStatus rfl (by simp [CancelRequestUseCase.cancelWrite])
  · split
    · exact unsigned_then (releaseSlot_issues fun _ => rfl) fun _ => announce_signed _ _
    · exact announce_signed _ _

/-! ## Scans -/

theorem verifyScan_signed (dto : VerifyScanDto) (scannedById : Uuid) :
    (verifyScan services ambient dto scannedById).Issues
      (Operation.verifyScan ambient dto scannedById).Signs := by
  have logged (at_ : Time) (id : Option Uuid) (verdict : ScanVerdict) :
      (Operation.verifyScan ambient dto scannedById).Signs
        (.createScanLog (onlineScan services dto scannedById at_ id verdict)) := signs_scanLog rfl
  unfold verifyScan
  refine unsigned_then (query_issues _) fun found => ?_
  cases found with
  | none => exact Proc.issues_bind _ _ _ (issue_issues (logged _ _ _)) fun _ => trivial
  | some accreditation =>
      refine unsigned_then (query_issues _) fun joined => ?_
      cases joined with
      | none => trivial
      | some detail =>
          refine unsigned_then ?_ fun verdict => Proc.issues_bind _ _ _ (issue_issues (logged _ _ _)) fun _ => trivial
          unfold judge wasAlreadyUsed
          dsimp only
          split
          · exact Proc.issues_bind _ _ _ (Proc.issues_bind _ _ _ (issue_issues rfl) fun _ => trivial) fun _ => trivial
          · trivial

theorem syncOfflineScans_signed (all : List OfflineScanRecordDto) (scannedById : Uuid) (index : Nat)
    (scans : List OfflineScanRecordDto) (result : SyncOfflineScansResult) :
    (syncOfflineScans ambient scannedById index scans result).Issues
      (Operation.syncOfflineScans ambient all scannedById).Signs := by
  induction scans generalizing index result with
  | nil => trivial
  | cons scan rest ih =>
      refine unsigned_then (query_issues _) fun existing => ?_
      split
      · exact ih _ _
      · refine unsigned_then (query_issues _) fun accreditation => ?_
        exact Proc.issues_bind _ _ _ (issue_issues (signs_scanLog rfl)) fun _ => ih _ _

/-! ## The operations -/

theorem execute_signed (op : Operation) : (op.execute services).Issues op.Signs := by
  cases op with
  | submit ambient input => exact reply_issues (submit_signed ambient input)
  | requestComplement ambient input => exact reply_issues (requestComplement_signed ambient input)
  | resolveComplement ambient input =>
      exact reply_issues (Proc.issues_mono _ (resolveComplement_unsigned ambient input) fun _ => signs_unsigned)
  | transition input => exact reply_issues (transition_signed input)
  | decide ambient input => exact reply_issues (decide_signed services ambient input)
  | cancel input => exact reply_issues (cancel_signed input)
  | verifyScan ambient dto scannedById => exact reply_issues (verifyScan_signed services ambient dto scannedById)
  | syncOfflineScans ambient scans scannedById =>
      exact reply_issues (syncOfflineScans_signed ambient scans scannedById _ _ _)
  | _ =>
      -- The footprint of the others names every statement.
      refine Proc.issues_mono _ (execute_footprint services _) fun stmt footprint => ?_
      simp only [Operation.Footprint, GrantsBadge, Publishes] at footprint
      unfold Operation.Signs
      grind [Statement.signers, Operation.author]

end AccreditationBackend
