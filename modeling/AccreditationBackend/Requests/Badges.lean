import AccreditationBackend.Requests.LoneRuns
import AccreditationBackend.Requests.Capacity

/-! The badge behind the statuses that presuppose one.

A decision marks a request as generated once its badge is stored. The generic
transition can write the same status, and looks at no badge.
-/

set_option autoImplicit false

namespace AccreditationBackend

open Foundation

/-- A generic transition that marks a request as generated, when it has no badge. -/
def skipsBadge (db : Database) : Operation → Bool
  | .transition input =>
      input.toStatus == .badgeGenerated && db.statusOf input.requestId == some .validated &&
        !db.hasBadge input.requestId
  | _ => false

/-- Every request at a status past the generation has its badge. -/
def Supported (db : Database) : Prop :=
  ∀ id, ∀ status ∈ [RequestStatus.badgeGenerated, .accessUsed], db.statusOf id = some status →
    db.hasBadge id = true

/-! ## One statement -/

theorem generated_entered {source : RequestStatus}
    (allowed : .badgeGenerated ∈ requestTransitions source) :
    source = .validated := by
  cases source <;> simp [requestTransitions] at allowed ⊢

theorem used_entered {source : RequestStatus} (allowed : .accessUsed ∈ requestTransitions source) :
    source = .badgeGenerated := by
  cases source <;> simp [requestTransitions] at allowed ⊢

theorem supported_step {stmt : Statement} {db : Database} (current : Current (handle.event stmt db))
    (lawful : Lawful stmt) (backed : Backed (handle.event stmt db)) (supported : Supported db) :
    Supported (handle.after stmt db) := by
  intro id status past stored
  refine hasBadge_kept stmt db id ?_
  have step := lawful_step current lawful id
  have unchanged (same : (handle.after stmt db).statusOf id = db.statusOf id) :
      db.hasBadge id = true :=
    supported id status past (same ▸ stored)
  unfold Tables.statusOf at stored unchanged
  generalize before : db.requestById id = a at step unchanged
  generalize (handle.after stmt db).requestById id = b at step stored unchanged
  cases step with
  | @created row named draft =>
      simp [draft] at stored
      simp [← stored] at past
  | edited named draft => exact unchanged rfl
  | @written w r named seen lawful =>
      have target : w.target = status := by simpa [StatusWrite.apply] using stored
      have allowed : status ∈ requestTransitions w.seen := target ▸ lawful
      simp only [List.mem_cons, List.not_mem_nil, or_false] at past
      rcases past with rfl | rfl
      · exact named ▸ backed w rfl target
      -- A used access had its badge when it was generated.
      · rw [used_entered allowed] at seen
        exact supported id .badgeGenerated (by simp)
          (by rw [Tables.statusOf, before, Option.map_some, seen])
  | unchanged => exact unchanged rfl

/-! ## One operation -/

section Operations

variable (services : Services)

theorem transition_backed {input : TransitionRequestStatusUseCase.TransitionRequestStatusInput}
    {db : Database} (honest : skipsBadge db (.transition input) = false) :
    ∀ e ∈ events services db (.transition input), Backed e := by
  intro e member w shape generated
  obtain ⟨before, w', shape', named, target, allowed, seen⟩ := transition_written services db member
  cases shape'.symm.trans shape
  rw [generated] at target
  rw [← target] at allowed
  rw [generated_entered allowed] at seen
  simp only [skipsBadge, ← target, seen, beq_self_eq_true, Bool.true_and, Bool.not_eq_false'] at honest
  rw [before, named]
  exact honest

theorem events_badged {op : Operation} {db : Database} (honest : skipsBadge db op = false) :
    ∀ e ∈ events services db op, Backed e := by
  cases op with
  | transition input => exact transition_backed services honest
  | _ => exact events_backed services (fun _ => Operation.noConfusion) db

theorem perform_supported {op : Operation} {db : Database} (supported : Supported db)
    (honest : skipsBadge db op = false) : Supported (perform services db op) := by
  refine perform_keeps services (fun stmt s member => ?_) supported
  have lawful : Lawful stmt := footprint_lawful (events_footprint services db op _ member)
  exact supported_step (events_current services db op _ member) lawful
    (events_badged services honest _ member)

theorem perform_unsupported {op : Operation} {db : Database} (skips : skipsBadge db op = true) :
    ¬ Supported (perform services db op) := by
  cases op with
  | transition input =>
      simp only [skipsBadge, Bool.and_eq_true, beq_iff_eq, Bool.not_eq_true'] at skips
      obtain ⟨⟨generated, stored⟩, missing⟩ := skips
      intro supported
      have written := transition_alone services stored (by rw [generated]; decide)
      obtain ⟨r, found, _⟩ := statusOf_some stored
      have after := statusOf_written (handle_written (w := transitionWrite input .validated) found rfl)
      rw [← written] at after
      have present := supported input.requestId _ (by simp) (after.trans (congrArg some generated))
      have same : (perform services db (.transition input)).accreditations = db.accreditations := by
        rw [written]
        rcases after_cases (.writeStatus (transitionWrite input .validated)) db with
          same | ⟨reply, applied⟩
        · rw [same]
        · exact (apply_badges applied rfl).1
      simp only [Tables.hasBadge, same] at present missing
      cases present.symm.trans missing
  | _ => cases skips

end Operations

/-! ## Runs -/

theorem supported_iff {db : Database} :
    Supported db ↔ ∀ r ∈ db.requests.rows, r.status = .badgeGenerated ∨ r.status = .accessUsed →
      ∃ a ∈ db.accreditations.rows, a.requestId = r.id := by
  have present (id : Uuid) : db.hasBadge id = true ↔ ∃ a ∈ db.accreditations.rows, a.requestId = id := by
    simp [Tables.hasBadge, Table.find]
  constructor
  · intro supported r stored past
    have found : db.requestById r.id = some r := requestById_stored stored
    refine (present r.id).mp (supported r.id r.status (by simpa using past) ?_)
    rw [Tables.statusOf, found, Option.map_some]
  · intro held id status past stored
    obtain ⟨r, found, rfl⟩ := statusOf_some stored
    obtain ⟨inside, named⟩ := Table.find_some_mem found
    rw [present, ← beq_iff_eq.mp named]
    exact held r inside (by simpa using past)

/-- Every request marked as generated or used has its badge, in every state of
every run in which no generic transition skips the badge, and in no other run. -/
theorem generated_with_badge (services : Services) (start : Database) (ops : List Operation)
    (empty : start.requests.rows = []) :
    (∀ front back, ops = front ++ back →
        ∀ r ∈ (runFrom (perform services) start front).requests.rows,
          r.status = .badgeGenerated ∨ r.status = .accessUsed →
            ∃ a ∈ (runFrom (perform services) start front).accreditations.rows, a.requestId = r.id) ↔
      Along (perform services) (fun db op => skipsBadge db op = false) start ops := by
  have blank : Supported start := supported_iff.mpr (by simp [empty])
  rw [← runFrom_exact (I := Supported)
    (fun db op supported honest => perform_supported services supported honest)
    (fun db op _ kept => by_contra fun skips =>
      perform_unsupported services (by simpa using skips) kept) blank]
  simp only [supported_iff]

/-- A dossier validated by the generic transition is marked as generated by it, too. -/
def generatedByTransition : List Operation :=
  validatedByTransition ++ [.transition ⟨"dossier", .badgeGenerated, "agent", none⟩]

theorem generated_without_badge :
    ¬ ∀ front back, generatedByTransition = front ++ back →
      ∀ r ∈ (runFrom (perform sampleServices) (sampleDatabase 0) front).requests.rows,
        r.status = .badgeGenerated ∨ r.status = .accessUsed →
          ∃ a ∈ (runFrom (perform sampleServices) (sampleDatabase 0) front).accreditations.rows,
            a.requestId = r.id := by
  intro held
  exact absurd (held generatedByTransition [] (List.append_nil _).symm) (by decide)

/-- The dedicated decision stores the badge before it marks the request. -/
theorem generated_with_badge_decided :
    ∃ a ∈ (runFrom (perform sampleServices) (sampleDatabase 1) dossierValidated).accreditations.rows,
      a.requestId = "dossier" :=
  (generated_with_badge sampleServices (sampleDatabase 1) dossierValidated rfl).mpr
    (by simp [dossierValidated, Along, skipsBadge]) dossierValidated [] (List.append_nil _).symm
    ((runFrom (perform sampleServices) (sampleDatabase 1) dossierValidated).requests.rows.head (by decide))
    (List.head_mem _) (by decide)

end AccreditationBackend
