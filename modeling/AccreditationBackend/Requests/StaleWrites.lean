import AccreditationBackend.Requests.Lifecycle

/-! Status writes among other calls.

The guard of the status machine judges the status that a call read; the write
that follows is unconditional. As long as the stored status is still that one,
every write is lawful; a stale one can leave even a final status.
-/

set_option autoImplicit false

namespace AccreditationBackend

open Foundation

/-- The status written over is the one the call had seen. -/
def meetsSeen (e : Event store Database) : Bool :=
  match e.stmt with
  | .writeStatus w => e.before.statusOf w.requestId == some w.seen
  | _ => true

/-- The table allows the written status from the stored one. -/
def writesLawfully (e : Event store Database) : Bool :=
  match e.stmt with
  | .writeStatus w =>
      (e.before.statusOf w.requestId).all fun stored => (requestTransitions stored).contains w.target
  | _ => true

/-- A write allowed by the table, and no final status left. -/
def KeepsLaw (e : Event store Database) : Prop :=
  writesLawfully e = true ∧
    ∀ id status, e.before.statusOf id = some status → status ∈ [.rejected, .cancelled, .accessUsed] →
      e.after.statusOf id = some status

theorem keepsLaw_of_meetsSeen {stmt : Statement} {db : Database} (lawful : Lawful stmt)
    (meets : meetsSeen (handle.event stmt db) = true) : KeepsLaw (handle.event stmt db) := by
  have seen (w : StatusWrite) (same : stmt = .writeStatus w) : db.statusOf w.requestId = some w.seen := by
    subst same
    exact beq_iff_eq.mp meets
  constructor
  · unfold writesLawfully
    cases stmt <;> simp only [Handler.event_stmt, Handler.event_before]
    case writeStatus w =>
      rw [seen w rfl, Option.all_some, List.contains_iff_mem]
      exact lawful
  · intro id status stored final
    obtain ⟨target, after, rfl | allowed⟩ := status_after seen lawful stored
    · exact after
    · cases status <;> simp [requestTransitions] at final allowed

variable {ι : Type} [DecidableEq ι]

/-- Among any calls, a status is written unlawfully only over one that its call did not see. -/
theorem concurrent_lifecycles (services : Services) (start : Database) (calls : ι → Operation) (schedule : List ι)
    (fresh : ∀ e ∈ ((operationPool services start calls).play handle schedule).1, meetsSeen e.2 = true) :
    ∀ e ∈ ((operationPool services start calls).play handle schedule).1, KeepsLaw e.2 := by
  intro e member
  have lawful : Lawful e.2.stmt :=
    Pool.play_issues handle schedule (operationPool services start calls)
      (fun i => Proc.issues_mono _ (execute_footprint services (calls i)) fun _ => footprint_lawful) e member
  have genuine := Pool.play_event handle schedule _ e member
  have meets := fresh e member
  rw [genuine] at meets ⊢
  exact keepsLaw_of_meetsSeen lawful meets

/-! ## A final status that is left -/

/-- A submitted dossier of the sample, under review. -/
def dossierUnderReview : List Operation :=
  [.saveDraft { freshId := "dossier" } ⟨"reporter", "final", "press", {}⟩,
    .submit {} ⟨"dossier", "reporter", "user"⟩,
    .transition ⟨"dossier", .underReview, "agent", none⟩]

def underReview : Database := runFrom (perform sampleServices) (sampleDatabase 1) dossierUnderReview

/-- The agent refuses the dossier while its holder withdraws it. -/
def refuseAndWithdraw : Fin 2 → Operation
  | 0 =>
      .decide {} { requestId := "dossier", actorId := "agent", status := .rejected, reason := some "non" }
  | 1 => .cancel { requestId := "dossier", actorId := "user", requesterId := some "reporter" }

/-- The withdrawal reads UNDER_REVIEW, and then writes CANCELLED over REJECTED. -/
theorem refused_then_withdrawn :
    ¬ ∀ e ∈ ((operationPool sampleServices underReview refuseAndWithdraw).play handle [1, 0, 0, 0, 1]).1,
      KeepsLaw e.2 := by
  intro keeps
  have unlawful :
      ((operationPool sampleServices underReview refuseAndWithdraw).play handle [1, 0, 0, 0, 1]).1.any
      (fun e => !writesLawfully e.2) = true := by decide
  obtain ⟨e, member, wrong⟩ := List.any_eq_true.mp unlawful
  simp [(keeps e member).1] at wrong

/-- One call after the other, the second one finds the request REJECTED and writes nothing. -/
theorem concurrent_lifecycles_in_turn :
    KeepsLaw (((operationPool sampleServices underReview refuseAndWithdraw).play handle [0, 0, 0, 1]).1.head
      (by decide)).2 :=
  concurrent_lifecycles sampleServices underReview refuseAndWithdraw [0, 0, 0, 1] (by decide) _
    (List.head_mem _)

end AccreditationBackend
