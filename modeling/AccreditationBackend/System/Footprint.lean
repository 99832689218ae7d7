import AccreditationBackend.System.Operations

/-! The statements each operation can issue, whatever the store replies.

What an operation never does, and which guard stood before what it does, is read
off its footprint; no later proof unfolds the use cases for that.
-/

set_option autoImplicit false

namespace AccreditationBackend

open Foundation

/-- A status write that the table allows from the status the use case saw. -/
def WritesTo (requestId : Uuid) (target : RequestStatus) (stmt : Statement) : Prop :=
  ∃ w, stmt = .writeStatus w ∧ w.requestId = requestId ∧ w.target = target ∧
    target ∈ requestTransitions w.seen

def Publishes (stmt : Statement) : Prop := ∃ event, stmt = .publish event

/-- The insertion of a fresh badge for the request. -/
def GrantsBadge (services : Services) (ambient : Ambient) (requestId : Uuid) (zoneIds : List Uuid)
    (stmt : Statement) : Prop :=
  ∃ row, stmt = .createAccreditation row zoneIds ∧ row.id = ambient.freshId ∧ row.requestId = requestId ∧
    row.status = .active ∧ row.qrTokenHash = services.hash ambient.rawToken

/-- A scan row appended from the given source. -/
def LogsScan (source : ScanSource) (stmt : Statement) : Prop :=
  ∃ row, stmt = .createScanLog row ∧ row.source = source

def Operation.Footprint (services : Services) : Operation → Statement → Prop
  | .saveDraft ambient input, stmt =>
      (∃ id, stmt = .editDraft id input.categoryRequestedId input.logistics) ∨
        ∃ reference, stmt =
          .createRequest (SaveDraftRequestUseCase.newDraft input ambient.freshId reference)
  | .submit _ input, stmt => WritesTo input.requestId .submitted stmt ∨ Publishes stmt
  | .requestComplement _ input, stmt => WritesTo input.requestId .infoRequested stmt ∨ Publishes stmt
  | .resolveComplement ambient input, stmt =>
      stmt = .resolveComplement input.complementId (ambient.clock 0) ∨
        WritesTo input.requestId .underReview stmt
  | .transition input, stmt => WritesTo input.requestId input.toStatus stmt
  | .decide ambient input, stmt =>
      WritesTo input.requestId input.status.status stmt ∨ Publishes stmt ∨
        input.status = .validated ∧
          ((input.overrideQuota = false ∧ ∃ id limit, stmt = .reserve id limit) ∨
            GrantsBadge services ambient input.requestId input.zoneIds stmt ∨
            WritesTo input.requestId .badgeGenerated stmt)
  | .cancel input, stmt =>
      WritesTo input.requestId .cancelled stmt ∨ Publishes stmt ∨ ∃ id, stmt = .release id
  | .setQuota ambient matchId dto, stmt => stmt = .setQuota ambient.freshId matchId dto
  | .updateMatch id dto, stmt => stmt = .updateMatch id dto ∨ Publishes stmt
  | .generateAccreditation ambient requestId zoneIds _, stmt =>
      GrantsBadge services ambient requestId zoneIds stmt ∨ Publishes stmt
  | .updateAssignments accreditationId input, stmt => stmt = .updateAssignments accreditationId input
  | .revoke ambient accreditationId reason revokedById, stmt =>
      stmt = .revoke accreditationId (ambient.clock 0) revokedById reason ∨ Publishes stmt
  | .verifyScan _ _ _, stmt => (∃ id zoneId, stmt = .countUses id zoneId) ∨ LogsScan .online stmt
  | .syncOfflineScans _ _ _, stmt => LogsScan .offlineSynced stmt

/-! ## Rules for the common openings -/

section Rules

variable {A : Type} {P : Statement → Prop}

theorem loadRequest_issues {id : Uuid} {owned : AccreditationRequest → Bool}
    {f : AccreditationRequest → Op A} (rest : ∀ r, r.id = id → (f r).Issues P) :
    (loadRequest id owned >>= f).Issues P := by
  rw [loadRequest_bind]
  intro db
  dsimp only
  cases loaded : (db.requestById id).filter owned with
  | none => trivial
  | some r =>
      have found := (Option.filter_eq_some_iff.mp loaded).1
      exact rest r (by simpa using (Table.find_some_mem found).2)

theorem guard_issues {source target : RequestStatus} {f : Unit → Op A}
    (rest : target ∈ requestTransitions source → (f ()).Issues P) :
    (lift (assertTransitionAllowed source target) >>= f).Issues P := by
  obtain ⟨allowed, same⟩ | ⟨_, same⟩ := assertTransitionAllowed_cases source target
  · rw [same]
    exact rest allowed
  · rw [same]
    trivial

theorem publish_issues (published : ∀ stmt, Publishes stmt → P stmt) (event : DomainEvent) :
    (publish event).Issues P := issue_issues (published _ ⟨event, rfl⟩)

theorem reply_issues {p : Op A} {f : A → Reply} (issues : p.Issues P) :
    (do let value ← p; return f value : Op Reply).Issues P :=
  Proc.issues_bind _ _ _ issues fun _ => trivial

end Rules

variable {services : Services} {ambient : Ambient}

theorem generateAccreditation_issues {P : Statement → Prop} {issuedAt : Time} {requestId : Uuid}
    {zoneIds : List Uuid} {options : GenerateAccreditationOptions}
    (grants : ∀ stmt, GrantsBadge services ambient requestId zoneIds stmt → P stmt)
    (published : ∀ stmt, Publishes stmt → P stmt) :
    (generateAccreditation services ambient issuedAt requestId zoneIds options).Issues P := by
  unfold generateAccreditation
  refine Proc.issues_bind _ _ _ (attempt_issues _ _) fun _ => ?_
  refine Proc.issues_bind _ _ _ (query_issues _) fun found => ?_
  refine Proc.issues_bind _ _ _ (orThrow_issues _ _) fun detail => ?_
  refine Proc.issues_bind _ _ _ (attempt_issues _ _) fun _ => ?_
  refine Proc.issues_bind _ _ _ (generateUnique_issues _ _ _ _ _ _) fun number => ?_
  refine Proc.issues_bind _ _ _ (attempt_issues _ _) fun _ => ?_
  refine Proc.issues_bind _ _ _ (attempt_issues _ _) fun _ => ?_
  refine Proc.issues_bind _ _ _ (issue_issues (grants _ ⟨_, rfl, rfl, rfl, rfl, rfl⟩))
    fun accreditation => ?_
  refine Proc.issues_bind _ _ _ (attempt_issues _ _) fun _ => ?_
  refine Proc.issues_bind _ _ _ (attempt_issues _ _) fun _ => ?_
  refine Proc.issues_bind _ _ _ (attempt_issues _ _) fun _ => ?_
  refine Proc.issues_bind _ _ _ (attempt_issues _ _) fun _ => ?_
  exact Proc.issues_bind _ _ _ (publish_issues published _) fun _ => trivial

/-! ## The operations -/

theorem saveDraft_footprint (ambient : Ambient) (input : SaveDraftRequestUseCase.SaveDraftInput) :
    (SaveDraftRequestUseCase.execute ambient input).Issues
      (Operation.Footprint services (.saveDraft ambient input)) := by
  unfold SaveDraftRequestUseCase.execute
  refine Proc.issues_bind _ _ _ (getMatch_issues _) fun _ => ?_
  refine Proc.issues_bind _ _ _ (getCategory_issues _) fun _ => ?_
  refine Proc.issues_bind _ _ _ (query_issues _) fun existing => ?_
  cases existing with
  | some existingDraft => exact issue_issues (.inl ⟨existingDraft.id, rfl⟩)
  | none =>
      refine Proc.issues_bind _ _ _ (generateUnique_issues _ _ _ _ _ _) fun reference => ?_
      exact issue_issues (.inr ⟨reference, rfl⟩)

theorem submit_footprint (ambient : Ambient) (input : SubmitRequestUseCase.SubmitRequestInput) :
    (SubmitRequestUseCase.execute ambient input).Issues
      (Operation.Footprint services (.submit ambient input)) := by
  unfold SubmitRequestUseCase.execute
  refine loadRequest_issues fun request named => guard_issues fun allowed => ?_
  refine Proc.issues_bind _ _ _ (getMatch_issues _) fun m => ?_
  refine Proc.issues_bind _ _ _ (lift_issues _) fun _ => ?_
  refine Proc.issues_bind _ _ _ (query_issues _) fun duplicate => ?_
  refine Proc.issues_bind _ _ _ (issue_issues (.inl ⟨_, rfl, named, rfl, allowed⟩)) fun updated => ?_
  exact Proc.issues_bind _ _ _ (publish_issues (fun _ => .inr) _) fun _ => trivial

theorem requestComplement_footprint (ambient : Ambient)
    (input : RequestComplementUseCase.RequestComplementInput) :
    (RequestComplementUseCase.execute ambient input).Issues
      (Operation.Footprint services (.requestComplement ambient input)) := by
  unfold RequestComplementUseCase.execute
  refine loadRequest_issues fun request _ => guard_issues fun allowed => ?_
  refine Proc.issues_bind _ _ _ (issue_issues (.inl ⟨_, rfl, rfl, rfl, allowed⟩)) fun updated => ?_
  exact Proc.issues_bind _ _ _ (publish_issues (fun _ => .inr) _) fun _ => trivial

/-- The status is written without the guard, but only from INFO_REQUESTED. -/
theorem resolveComplement_footprint (ambient : Ambient)
    (input : ResolveComplementUseCase.ResolveComplementInput) :
    (ResolveComplementUseCase.execute ambient input).Issues
      (Operation.Footprint services (.resolveComplement ambient input)) := by
  unfold ResolveComplementUseCase.execute
  refine loadRequest_issues fun request _ => ?_
  refine Proc.issues_bind _ _ _ (query_issues _) fun found => ?_
  refine Proc.issues_bind _ _ _ (orThrow_issues _ _) fun _ => ?_
  refine Proc.issues_bind _ _ _ (issue_issues (.inl rfl)) fun resolved => ?_
  refine Proc.issues_bind _ _ _ (query_issues _) fun remainingOpen => ?_
  split
  next open_ =>
    have allowed : RequestStatus.underReview ∈ requestTransitions request.status := by
      rw [open_.2]; decide
    refine Proc.issues_bind _ _ _ (issue_issues (.inr ⟨_, rfl, rfl, rfl, allowed⟩)) fun _ => trivial
  next => trivial

theorem transition_footprint (input : TransitionRequestStatusUseCase.TransitionRequestStatusInput) :
    (TransitionRequestStatusUseCase.execute input).Issues
      (Operation.Footprint services (.transition input)) := by
  unfold TransitionRequestStatusUseCase.execute
  refine loadRequest_issues fun request _ => guard_issues fun allowed => ?_
  exact issue_issues ⟨_, rfl, rfl, rfl, allowed⟩

theorem reserveQuotaOrThrow_issues {P : Statement → Prop} {request : AccreditationRequest}
    {input : DecideRequestUseCase.DecideRequestInput}
    (reserves : input.overrideQuota = false → ∀ id limit, P (.reserve id limit)) :
    (DecideRequestUseCase.reserveQuotaOrThrow request input).Issues P := by
  unfold DecideRequestUseCase.reserveQuotaOrThrow
  split
  · split <;> trivial
  next taken =>
    refine Proc.issues_bind _ _ _ (reserveSlot_issues (reserves (by simpa using taken)))
      fun reservation => ?_
    split <;> trivial

/-- The second write of a decision is unguarded, and assumes a validated request. -/
theorem decide_footprint (ambient : Ambient) (input : DecideRequestUseCase.DecideRequestInput) :
    (DecideRequestUseCase.execute services ambient input).Issues
      (Operation.Footprint services (.decide ambient input)) := by
  unfold DecideRequestUseCase.execute
  refine loadRequest_issues fun request named => guard_issues fun allowed => ?_
  have decision : WritesTo input.requestId input.status.status
      (.writeStatus (DecideRequestUseCase.decisionWrite ambient input request)) :=
      ⟨_, rfl, named, rfl, allowed⟩
  have published (stmt : Statement) (publishes : Publishes stmt) :
      Operation.Footprint services (.decide ambient input) stmt := .inr (.inl publishes)
  cases verdict : input.status with
  | rejected =>
      simp only [reduceCtorEq, if_false]
      refine Proc.issues_bind _ _ _ (issue_issues (.inl decision)) fun updated => ?_
      exact Proc.issues_bind _ _ _ (publish_issues published _) fun _ => trivial
  | validated =>
      simp only [if_true]
      refine Proc.issues_bind _ _ _ (reserveQuotaOrThrow_issues fun unforced id limit =>
        .inr (.inr ⟨verdict, .inl ⟨unforced, id, limit, rfl⟩⟩)) fun _ => ?_
      refine Proc.issues_bind _ _ _ (issue_issues (.inl decision)) fun updated => ?_
      refine Proc.issues_bind _ _ _ (publish_issues published _) fun _ => ?_
      refine Proc.issues_bind _ _ _
        (generateAccreditation_issues (fun stmt grants => ?_) published) fun _ => ?_
      · exact .inr (.inr ⟨verdict, .inr (.inl (named ▸ grants))⟩)
      · exact issue_issues (.inr (.inr ⟨verdict, .inr (.inr ⟨_, rfl, named, rfl,
          by simp [DecideRequestUseCase.badgeWrite, requestTransitions]⟩)⟩))

theorem cancel_footprint (input : CancelRequestUseCase.CancelRequestInput) :
    (CancelRequestUseCase.execute input).Issues (Operation.Footprint services (.cancel input)) := by
  unfold CancelRequestUseCase.execute
  refine loadRequest_issues fun request named => guard_issues fun allowed => ?_
  refine Proc.issues_bind _ _ _ (issue_issues (.inl ⟨_, rfl, named, rfl, allowed⟩)) fun updated => ?_
  have announced : (do
      publish (.requestCancelled request.id request.status)
      return updated : Op AccreditationRequest).Issues (Operation.Footprint services (.cancel input)) :=
    Proc.issues_bind _ _ _ (publish_issues (fun _ publishes => .inr (.inl publishes)) _) fun _ => trivial
  split
  · exact Proc.issues_bind _ _ _ (releaseSlot_issues fun id => .inr (.inr ⟨id, rfl⟩)) fun _ => announced
  · exact announced

theorem verifyScan_footprint (ambient : Ambient) (dto : VerifyScanDto) (scannedById : Uuid) :
    (verifyScan services ambient dto scannedById).Issues
      (Operation.Footprint services (.verifyScan ambient dto scannedById)) := by
  unfold verifyScan
  refine Proc.issues_bind _ _ _ (query_issues _) fun found => ?_
  cases found with
  | none => exact Proc.issues_bind _ _ _ (issue_issues (.inr ⟨_, rfl, rfl⟩)) fun _ => trivial
  | some accreditation =>
      refine Proc.issues_bind _ _ _ (query_issues _) fun joined => ?_
      cases joined with
      | none => trivial
      | some detail =>
          have judged : (judge (ambient.clock 0) detail dto).Issues
              (Operation.Footprint services (.verifyScan ambient dto scannedById)) := by
            unfold judge wasAlreadyUsed
            dsimp only
            split
            · refine Proc.issues_bind _ _ _ ?_ fun _ => trivial
              exact Proc.issues_bind _ _ _ (issue_issues (.inl ⟨_, _, rfl⟩)) fun _ => trivial
            · trivial
          refine Proc.issues_bind _ _ _ judged fun verdict => ?_
          exact Proc.issues_bind _ _ _ (issue_issues (.inr ⟨_, rfl, rfl⟩)) fun _ => trivial

theorem syncOfflineScans_footprint {P : Statement → Prop}
    (logs : ∀ stmt, LogsScan .offlineSynced stmt → P stmt) (ambient : Ambient) (scannedById : Uuid)
    (index : Nat) (scans : List OfflineScanRecordDto) (result : SyncOfflineScansResult) :
    (syncOfflineScans ambient scannedById index scans result).Issues P := by
  induction scans generalizing index result with
  | nil => trivial
  | cons scan rest ih =>
      refine Proc.issues_bind _ _ _ (query_issues _) fun existing => ?_
      split
      · exact ih _ _
      · refine Proc.issues_bind _ _ _ (query_issues _) fun accreditation => ?_
        exact Proc.issues_bind _ _ _ (issue_issues (logs _ ⟨_, rfl, rfl⟩)) fun _ => ih _ _

theorem execute_footprint (services : Services) (op : Operation) :
    (op.execute services).Issues (op.Footprint services) := by
  cases op with
  | saveDraft ambient input => exact reply_issues (saveDraft_footprint ambient input)
  | submit ambient input => exact reply_issues (submit_footprint ambient input)
  | requestComplement ambient input => exact reply_issues (requestComplement_footprint ambient input)
  | resolveComplement ambient input => exact reply_issues (resolveComplement_footprint ambient input)
  | transition input => exact reply_issues (transition_footprint input)
  | decide ambient input => exact reply_issues (decide_footprint ambient input)
  | cancel input => exact reply_issues (cancel_footprint input)
  | setQuota ambient matchId dto => exact reply_issues (edit_issues rfl)
  | updateMatch id dto =>
      refine reply_issues (Proc.issues_bind _ _ _ (getMatch_issues _) fun existing => ?_)
      refine Proc.issues_bind _ _ _ (issue_issues (.inl rfl)) fun updated => ?_
      dsimp only
      split
      · exact Proc.issues_bind _ _ _ (publish_issues (fun _ => .inr) _) fun _ => trivial
      · trivial
  | generateAccreditation ambient requestId zoneIds options =>
      exact reply_issues (generateAccreditation_issues (fun _ => .inl) fun _ => .inr)
  | updateAssignments accreditationId input =>
      refine reply_issues (Proc.issues_bind _ _ _ (query_issues _) fun _ => ?_)
      exact Proc.issues_bind _ _ _ (orThrow_issues _ _) fun _ => issue_issues rfl
  | revoke ambient accreditationId reason revokedById =>
      refine reply_issues (Proc.issues_bind _ _ _ (query_issues _) fun _ => ?_)
      refine Proc.issues_bind _ _ _ (orThrow_issues _ _) fun accreditation => ?_
      split
      · trivial
      · refine Proc.issues_bind _ _ _ (issue_issues (.inl rfl)) fun _ => ?_
        exact Proc.issues_bind _ _ _ (publish_issues (fun _ => .inr) _) fun _ => trivial
  | verifyScan ambient dto scannedById =>
      exact reply_issues (verifyScan_footprint ambient dto scannedById)
  | syncOfflineScans ambient scans scannedById =>
      exact reply_issues (syncOfflineScans_footprint (fun _ logs => logs) ambient scannedById 0 scans {})

theorem events_footprint (services : Services) (db : Database) (op : Operation) :
    ∀ e ∈ events services db op, op.Footprint services e.stmt :=
  Proc.events_issued handle _ (execute_footprint services op) db

/-! ## Operations with one statement -/

theorem loadRequest_silent {P : Statement → Prop} (id : Uuid) (owned : AccreditationRequest → Bool) :
    (loadRequest id owned).Issues P := fun _ => orThrow_issues _ _

theorem transition_single (services : Services)
    (input : TransitionRequestStatusUseCase.TransitionRequestStatusInput) :
    ((Operation.transition input).execute services).Single := by
  refine Proc.single_bind ?_ fun _ => trivial
  unfold TransitionRequestStatusUseCase.execute
  refine Proc.silent_bind (loadRequest_silent _ _) fun request => ?_
  exact Proc.silent_bind (lift_issues _) fun _ => issue_single _

theorem setQuota_single (services : Services) (ambient : Ambient) (matchId : Uuid) (dto : SetQuotaDto) :
    ((Operation.setQuota ambient matchId dto).execute services).Single :=
  Proc.single_bind (edit_single ambient matchId dto) fun _ => trivial

end AccreditationBackend
