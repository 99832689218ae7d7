import AccreditationBackend.Requests.SlotRuns
import AccreditationBackend.Requests.SlotRaces

/-! Requests that hold a slot against the total of their quota.

A cancellation through the generic transition leaves a slot taken, which does no
harm here; a validation through it takes none, and is the one way past the total.
-/

set_option autoImplicit false

namespace AccreditationBackend

open Foundation

/-- The request operations of the HTTP interface, and quota edits that lower no total. -/
def Exposed (db : Database) : Operation → Prop
  | .saveDraft .. => True
  | .submit .. => True
  | .requestComplement .. => True
  | .resolveComplement .. => True
  | .transition _ => True
  | .decide _ input => input.overrideQuota = false
  | .cancel _ => True
  | .setQuota _ matchId dto => ∀ q ∈ db.quotaRow matchId dto.categoryId, q.quotaTotal ≤ dto.quotaTotal
  | _ => False

/-- A generic transition that validates a request, past the reservation of its slot. -/
def bypassesQuota (db : Database) : Operation → Bool
  | .transition input =>
      input.toStatus == .validated &&
        (db.statusOf input.requestId).any fun stored => (requestTransitions stored).contains .validated
  | _ => false

/-- The slack is not negative, and the counter is within the total. -/
def Covered (matchId categoryId : Uuid) (db : Database) : Prop :=
  0 ≤ db.slack matchId categoryId ∧ Within db.toTables matchId categoryId

/-! ## One statement -/

/-- The statement takes no slot without counting it, and lowers no total. -/
structure LeavesRoom (e : Event store Database) : Prop where
  still : Still e.stmt
  counted : ∀ w, e.stmt = .writeStatus w → w.target.holdsSlot = true → w.seen.holdsSlot = true
  kept : ∀ freshId matchId dto, e.stmt = .setQuota freshId matchId dto →
    ∀ q ∈ e.before.quotaRow matchId dto.categoryId, q.quotaTotal ≤ dto.quotaTotal

section Statements

variable {matchId categoryId : Uuid} {stmt : Statement} {db : Database}

theorem slack_rises (current : Current (handle.event stmt db)) (lawful : Lawful stmt)
    (room : LeavesRoom (handle.event stmt db)) :
    db.slack matchId categoryId ≤ (handle.after stmt db).slack matchId categoryId := by
  rcases slack_event current lawful room.still with same | ⟨w, pair, shape, moved⟩
  · rw [same]
  · have counted := room.counted w shape
    simp only [moved, weight]
    split <;> split <;> simp_all

theorem within_step (room : LeavesRoom (handle.event stmt db))
    (within : Within db.toTables matchId categoryId) :
    Within (handle.after stmt db).toTables matchId categoryId := by
  intro q row
  have still := room.still
  have kept := room.kept
  rw [Handler.event_stmt] at still kept
  have step := quota_step (selects_quotaOf matchId categoryId) (onKey_quotaOf matchId categoryId) stmt db
  unfold Tables.quotaRow at row
  rw [row] at step
  generalize before : db.quotas.find (quotaOf matchId categoryId) = a at step
  cases step with
  | created => simp [SetQuotaDto.create]
  | @edited freshId matchId' dto q₀ pair =>
      have stored := (Table.find_some_mem before).1
      -- An edit raises the total or leaves it, so the counter stays within.
      have total :=
        kept freshId matchId' dto rfl q₀ ((Table.find_some_iff (selects_quotaOf _ _)).mpr ⟨stored, pair⟩)
      have bound := within q₀ before
      simp only [SetQuotaDto.update]
      omega
  | reserved room => cases still
  | released named => cases still
  | unchanged => exact within q before

theorem covered_step (current : Current (handle.event stmt db)) (lawful : Lawful stmt)
    (room : LeavesRoom (handle.event stmt db)) (covered : Covered matchId categoryId db) :
    Covered matchId categoryId (handle.after stmt db) :=
  ⟨le_trans covered.1 (slack_rises current lawful room), within_step room covered.2⟩

end Statements

/-! ## One operation -/

section Operations

variable (services : Services)

def Statement.configures : Statement → Bool
  | .setQuota .. => true
  | _ => false

theorem leavesRoom_of_unmoving {e : Event store Database} (unmoving : Unmoving e.stmt)
    (other : e.stmt.configures = false) : LeavesRoom e where
  still := unmoving.1
  counted w shape held := (unmoving.2 w shape).symm.trans held
  kept freshId matchId dto shape := by
    rw [shape] at other
    cases other

theorem footprint_configures {op : Operation}
    (other : ∀ ambient matchId dto, op ≠ .setQuota ambient matchId dto) {stmt : Statement}
    (footprint : op.Footprint services stmt) :
    stmt.configures = false := by
  cases op <;>
    simp only [Operation.Footprint, WritesTo, GrantsBadge, Publishes, LogsScan] at footprint <;>
    grind [Statement.configures]

theorem transition_leavesRoom {input : TransitionRequestStatusUseCase.TransitionRequestStatusInput}
    {db : Database} (honest : bypassesQuota db (.transition input) = false) :
    ∀ e ∈ events services db (.transition input), LeavesRoom e := by
  intro e member
  obtain ⟨_, w, shape, named, target, allowed, seen⟩ := transition_written services db member
  refine ⟨by rw [shape]; rfl, fun w' same held => ?_, fun _ _ _ same => ?_⟩
  · cases shape.symm.trans same
    by_contra free
    have validates := holdsSlot_entered (target ▸ allowed) (by simpa using free) held
    rw [target] at validates
    simp [bypassesQuota, validates, seen] at honest
    exact honest (validates ▸ allowed)
  · cases shape.symm.trans same

theorem events_leaveRoom {op : Operation} {db : Database} (exposed : Exposed db op)
    (honest : bypassesQuota db op = false) (idle : op.movesSlots = false) :
    ∀ e ∈ events services db op, LeavesRoom e := by
  intro e member
  have footprint := events_footprint services db op e member
  have unmoving (accounted : op.accounted = true)
    (other : ∀ ambient matchId dto, op ≠ .setQuota ambient matchId dto) :
      LeavesRoom e :=
    leavesRoom_of_unmoving (footprint_unmoving services accounted idle footprint)
      (footprint_configures services other footprint)
  cases op <;> simp only [Exposed] at exposed
  case transition input => exact transition_leavesRoom services honest e member
  case decide ambient input => simp [Operation.movesSlots, exposed] at idle
  case cancel input => cases idle
  case setQuota ambient matchId dto =>
    have before : e.before = db :=
      Proc.single_before handle (setQuota_single services ambient matchId dto) db e member
    have shape : e.stmt = .setQuota ambient.freshId matchId dto := footprint
    refine ⟨by rw [shape]; rfl, fun w same => ?_, fun freshId matchId' dto' same => ?_⟩
    · cases shape.symm.trans same
    · cases shape.symm.trans same
      rw [before]
      exact exposed
  all_goals exact unmoving rfl fun _ _ _ => Operation.noConfusion

theorem perform_covered {op : Operation} {db : Database} (exposed : Exposed db op)
    (honest : bypassesQuota db op = false) (matchId categoryId : Uuid)
    (covered : Covered matchId categoryId db) :
    Covered matchId categoryId (perform services db op) := by
  cases moves : op.movesSlots with
  | true =>
      obtain ⟨slack, within⟩ := perform_settles services moves covered.1
      exact ⟨by rw [slack]; exact covered.1, within covered.2⟩
  | false =>
      refine perform_keeps services (fun stmt s member => ?_) covered
      have lawful : Lawful stmt := footprint_lawful (events_footprint services db op _ member)
      have room := events_leaveRoom services exposed honest moves _ member
      exact covered_step (events_current services db op _ member) lawful room

end Operations

/-! ## Runs -/

/-- As long as no request is validated by a generic transition, no pair has more
requests with a slot than its quota has slots. -/
theorem capacity_kept (services : Services) (start : Database) (ops : List Operation)
    (empty : start.requests.rows = []) (unused : ∀ q ∈ start.quotas.rows, q.consumed = 0)
    (honest : Along (perform services) (fun db op => Exposed db op ∧ bypassesQuota db op = false) start ops) :
    ∀ q ∈ (runFrom (perform services) start ops).quotas.rows,
      (runFrom (perform services) start ops).holding q.matchId q.categoryId ≤ q.quotaTotal := by
  intro q stored
  have covered₀ : Covered q.matchId q.categoryId start := by
    refine ⟨by rw [slack_unused empty unused], fun q₀ row => ?_⟩
    rw [unused q₀ (Table.find_some_mem row).1]
    omega
  obtain ⟨slack, within⟩ := runFrom_invariant (I := Covered q.matchId q.categoryId)
    (fun db op covered ⟨exposed, honest⟩ => perform_covered services exposed honest _ _ covered)
    covered₀ honest
  have bound := within q (quotaRow_stored stored)
  rw [Tables.slack, consumedOf_stored stored] at slack
  omega

/-- The generic transition validates a dossier although the quota has no slot at all. -/
def validatedByTransition : List Operation :=
  dossierComplete ++ [.transition ⟨"dossier", .validated, "agent", none⟩]

theorem capacity_exceeded :
    Along (perform sampleServices) Exposed (sampleDatabase 0) validatedByTransition ∧
      ¬ ∀ q ∈ (runFrom (perform sampleServices) (sampleDatabase 0) validatedByTransition).quotas.rows,
        (runFrom (perform sampleServices) (sampleDatabase 0) validatedByTransition).holding
          q.matchId q.categoryId ≤
          q.quotaTotal := by
  refine ⟨?_, by decide⟩
  simp [validatedByTransition, dossierComplete, dossierUnderReview, Along, Exposed]

/-- The dedicated decision counts the slot it takes. -/
theorem capacity_kept_decided :
    (runFrom (perform sampleServices) (sampleDatabase 1) dossierValidated).holding "final" "press" ≤ 1 :=
  capacity_kept sampleServices (sampleDatabase 1) dossierValidated rfl (by decide)
    (by simp [dossierValidated, Along, Exposed, bypassesQuota])
    { id := "quota", matchId := "final", categoryId := "press", quotaTotal := 1, consumed := 1 } (by decide)

end AccreditationBackend
