import AccreditationBackend.Kernel.Procedures

/-! The status machine of requests. -/

set_option autoImplicit false

namespace AccreditationBackend

def RequestStatus.value : RequestStatus → String
  | .draft => "DRAFT"
  | .submitted => "SUBMITTED"
  | .underReview => "UNDER_REVIEW"
  | .infoRequested => "INFO_REQUESTED"
  | .complete => "COMPLETE"
  | .pendingValidation => "PENDING_VALIDATION"
  | .validated => "VALIDATED"
  | .rejected => "REJECTED"
  | .cancelled => "CANCELLED"
  | .badgeGenerated => "BADGE_GENERATED"
  | .accessUsed => "ACCESS_USED"

def requestTransitions : RequestStatus → List RequestStatus
  | .draft => [.submitted, .cancelled]
  | .submitted => [.underReview, .cancelled]
  | .underReview => [.infoRequested, .complete, .rejected, .cancelled]
  | .infoRequested => [.underReview, .cancelled]
  | .complete => [.pendingValidation, .validated, .rejected, .cancelled]
  | .pendingValidation => [.validated, .rejected, .cancelled]
  | .validated => [.badgeGenerated, .cancelled]
  | .badgeGenerated => [.accessUsed, .cancelled]
  | .accessUsed => []
  | .rejected => []
  | .cancelled => []

def invalidTransition (source target : RequestStatus) : DomainError where
  code := "REQUEST_INVALID_TRANSITION"
  message := s!"Transition non autorisee : {source.value} -> {target.value}."
  kind := .invalidTransition
  details := some (.transition source target (requestTransitions source))

def assertTransitionAllowed (source target : RequestStatus) : Except DomainError Unit :=
  if target ∈ requestTransitions source then .ok () else .error (invalidTransition source target)

theorem assertTransitionAllowed_cases (source target : RequestStatus) :
    (target ∈ requestTransitions source ∧ assertTransitionAllowed source target = .ok ()) ∨
      (target ∉ requestTransitions source ∧
        assertTransitionAllowed source target = .error (invalidTransition source target)) := by
  unfold assertTransitionAllowed
  by_cases allowed : target ∈ requestTransitions source
  · exact .inl ⟨allowed, if_pos allowed⟩
  · exact .inr ⟨allowed, if_neg allowed⟩

def statusesWithReservedQuota : List RequestStatus := [.validated, .badgeGenerated, .accessUsed]

def RequestStatus.holdsSlot (status : RequestStatus) : Bool := statusesWithReservedQuota.contains status

def RequestStatus.Terminal (status : RequestStatus) : Prop := requestTransitions status = []

instance (status : RequestStatus) : Decidable status.Terminal := inferInstanceAs (Decidable (_ = _))

theorem terminal_iff (status : RequestStatus) :
    status.Terminal ↔ status = .rejected ∨ status = .cancelled ∨ status = .accessUsed := by
  cases status <;> decide

/-- The table has no cycle through DRAFT, so no request becomes a draft again. -/
theorem draft_not_target (source : RequestStatus) : RequestStatus.draft ∉ requestTransitions source := by
  cases source <;> decide

theorem holdsSlot_entered {source target : RequestStatus} (allowed : target ∈ requestTransitions source)
    (free : source.holdsSlot = false) (holds : target.holdsSlot = true) : target = .validated := by
  cases source <;> cases target <;>
    simp_all [requestTransitions, RequestStatus.holdsSlot, statusesWithReservedQuota]

theorem holdsSlot_left {source target : RequestStatus} (allowed : target ∈ requestTransitions source)
    (holds : source.holdsSlot = true) (free : target.holdsSlot = false) : target = .cancelled := by
  cases source <;> cases target <;>
    simp_all [requestTransitions, RequestStatus.holdsSlot, statusesWithReservedQuota]

end AccreditationBackend
