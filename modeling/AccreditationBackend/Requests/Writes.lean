import AccreditationBackend.Requests.Freshness

/-! What each use case writes beside the status of a request. -/

set_option autoImplicit false

namespace AccreditationBackend

open Foundation

def Operation.submits : Operation → Bool
  | .submit .. => true
  | _ => false

def Operation.asksComplement : Operation → Bool
  | .requestComplement .. => true
  | _ => false

def Operation.resolves : Operation → Bool
  | .resolveComplement .. => true
  | _ => false

/-- A resolved complement leaves no decision row; a duplicate is marked by the
submission alone, and a complement created by its request. -/
structure Operation.Carries (op : Operation) (w : StatusWrite) : Prop where
  journal : w.journal.isSome = !op.resolves
  duplicate : op.submits = false → w.data.duplicateOfId = none
  complement : op.asksComplement = false → w.complement = none

/-- A statement that writes a status as the operation does, or none at all. -/
def Operation.Writes (op : Operation) (stmt : Statement) : Prop :=
  ∀ w, stmt = .writeStatus w → op.Carries w

theorem writes_of_quiet {op : Operation} {stmt : Statement} (quiet : Quiet stmt) : op.Writes stmt := by
  rintro w rfl
  cases quiet

theorem writes_issue {op : Operation} {w : StatusWrite} (carries : op.Carries w) :
    (issue (.writeStatus w)).Issues op.Writes := by
  refine issue_issues fun w' same => ?_
  cases same
  exact carries

section Rules

variable {A B : Type} {op : Operation} {f : A → Op B}

theorem quiet_writes {p : Op A} (quiet : p.Issues Quiet) : p.Issues op.Writes :=
  Proc.issues_mono p quiet fun _ => writes_of_quiet

theorem quiet_then {p : Op A} (quiet : p.Issues Quiet) (rest : ∀ value, (f value).Issues op.Writes) :
    (p >>= f).Issues op.Writes := Proc.issues_bind _ _ _ (quiet_writes quiet) rest

end Rules

variable (services : Services) (ambient : Ambient)

theorem submit_writes (input : SubmitRequestUseCase.SubmitRequestInput) :
    (SubmitRequestUseCase.execute ambient input).Issues (Operation.submit ambient input).Writes := by
  unfold SubmitRequestUseCase.execute
  refine loadRequest_issues fun request _ => guard_issues fun _ => ?_
  refine quiet_then (getMatch_issues _) fun m => ?_
  refine quiet_then (lift_issues _) fun _ => ?_
  refine quiet_then (query_issues _) fun duplicate => ?_
  refine Proc.issues_bind _ _ _ (writes_issue ⟨rfl, nofun, fun _ => rfl⟩) fun updated => ?_
  exact quiet_writes (announce_quiet _ _)

theorem requestComplement_writes (input : RequestComplementUseCase.RequestComplementInput) :
    (RequestComplementUseCase.execute ambient input).Issues
      (Operation.requestComplement ambient input).Writes := by
  unfold RequestComplementUseCase.execute
  refine loadRequest_issues fun request _ => guard_issues fun _ => ?_
  refine Proc.issues_bind _ _ _ (writes_issue ⟨rfl, fun _ => rfl, nofun⟩) fun _ => ?_
  exact quiet_writes (announce_quiet _ _)

theorem resolveComplement_writes (input : ResolveComplementUseCase.ResolveComplementInput) :
    (ResolveComplementUseCase.execute ambient input).Issues
      (Operation.resolveComplement ambient input).Writes := by
  unfold ResolveComplementUseCase.execute
  refine loadRequest_issues fun request _ => ?_
  refine quiet_then (query_issues _) fun found => ?_
  refine quiet_then (orThrow_issues _ _) fun _ => ?_
  refine quiet_then (issue_issues rfl) fun resolved => ?_
  refine quiet_then (query_issues _) fun remainingOpen => ?_
  split
  · exact Proc.issues_bind _ _ _ (writes_issue ⟨rfl, fun _ => rfl, fun _ => rfl⟩) fun _ => trivial
  · trivial

theorem transition_writes (input : TransitionRequestStatusUseCase.TransitionRequestStatusInput) :
    (TransitionRequestStatusUseCase.execute input).Issues (Operation.transition input).Writes := by
  unfold TransitionRequestStatusUseCase.execute
  exact loadRequest_issues fun request _ => guard_issues fun _ => writes_issue
    ⟨rfl, fun _ => rfl, fun _ => rfl⟩

theorem decide_writes (input : DecideRequestUseCase.DecideRequestInput) :
    (DecideRequestUseCase.execute services ambient input).Issues
      (Operation.decide ambient input).Writes := by
  unfold DecideRequestUseCase.execute
  refine loadRequest_issues fun request _ => guard_issues fun _ => ?_
  have decision : (issue (.writeStatus (DecideRequestUseCase.decisionWrite ambient input request))).Issues
      (Operation.decide ambient input).Writes := writes_issue ⟨rfl, fun _ => rfl, fun _ => rfl⟩
  cases verdict : input.status with
  | rejected =>
      simp only [reduceCtorEq, if_false]
      exact Proc.issues_bind _ _ _ decision fun _ => quiet_writes (announce_quiet _ _)
  | validated =>
      simp only [if_true]
      refine quiet_then (reserveQuotaOrThrow_issues fun _ _ _ => rfl) fun _ => ?_
      refine Proc.issues_bind _ _ _ decision fun _ => ?_
      refine quiet_then (publish_quiet _) fun _ => ?_
      refine quiet_then (generateAccreditation_quiet services ambient _ _ _ _) fun _ => ?_
      exact writes_issue ⟨rfl, fun _ => rfl, fun _ => rfl⟩

theorem cancel_writes (input : CancelRequestUseCase.CancelRequestInput) :
    (CancelRequestUseCase.execute input).Issues (Operation.cancel input).Writes := by
  unfold CancelRequestUseCase.execute
  refine loadRequest_issues fun request _ => guard_issues fun _ => ?_
  refine Proc.issues_bind _ _ _ (writes_issue ⟨rfl, fun _ => rfl, fun _ => rfl⟩) fun _ => ?_
  split
  · exact quiet_then (releaseSlot_issues fun _ => rfl) fun _ => quiet_writes (announce_quiet _ _)
  · exact quiet_writes (announce_quiet _ _)

theorem execute_writes (op : Operation) : (op.execute services).Issues op.Writes := by
  cases op with
  | submit ambient input => exact reply_issues (submit_writes ambient input)
  | requestComplement ambient input => exact reply_issues (requestComplement_writes ambient input)
  | resolveComplement ambient input => exact reply_issues (resolveComplement_writes ambient input)
  | transition input => exact reply_issues (transition_writes input)
  | decide ambient input => exact reply_issues (decide_writes services ambient input)
  | cancel input => exact reply_issues (cancel_writes input)
  | saveDraft ambient input =>
      refine Proc.issues_mono _ (execute_footprint services _) fun stmt footprint w same => ?_
      rcases footprint with ⟨id, shape⟩ | ⟨reference, shape⟩ <;> cases shape.symm.trans same
  | _ =>
      exact quiet_writes
        (Proc.issues_mono _ (execute_footprint services _) fun _ => footprint_quiet services rfl)

theorem events_write (db : Database) (op : Operation) : ∀ e ∈ events services db op, op.Writes e.stmt :=
  Proc.events_issued handle _ (execute_writes services op) db

end AccreditationBackend
