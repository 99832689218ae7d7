import AccreditationBackend.Foundation.Runs
import AccreditationBackend.Iam.Operations

/-! Who can still administer: the active administrators in sequential runs. -/

set_option autoImplicit false

namespace AccreditationBackend

open Foundation

def User.isActiveAdmin (u : User) : Bool :=
  u.kind == .staff && u.role == some .admin && u.status == .active

def ActiveAdmin (db : Accounts) (id : Uuid) : Prop :=
  ∃ u, db.userById id = some u ∧ u.isActiveAdmin = true

/-- Somebody can administer. -/
def Administered (db : Accounts) : Prop := ∃ id, ActiveAdmin db id

/-- The administrator on whose behalf the operation runs; the other operations have none. -/
def UserOperation.actor : UserOperation → Option Uuid
  | .createStaffUser _ _ actorId => some actorId
  | .updateStaffUser _ _ actorId => some actorId
  | .deleteStaffUser _ actorId => some actorId
  | .session (.updateStatus _ _ actorId) => some actorId
  | .session (.resetPassword _ _ _ actorId) => some actorId
  | _ => none

def PerformedByAdmin (db : Accounts) (op : UserOperation) : Prop :=
  ∃ actorId, op.actor = some actorId ∧ ActiveAdmin db actorId

/-- The only active administrator gives themselves another role. -/
def ResignsLast (db : Accounts) (op : UserOperation) : Prop :=
  match op with
  | .updateStaffUser id dto actorId =>
      id = actorId ∧ (∃ role, dto.role = some role ∧ role ≠ .admin) ∧
        ∀ other, ActiveAdmin db other → other = id
  | _ => False

/-- The statement takes no rights from this administrator. -/
def AccountStatement.SparesAdmin (id : Uuid) : AccountStatement → Prop
  | .updateUser other data => other = id → (∀ role ∈ data.role, role = .admin) ∧ data.status = none
  | .resetPassword other data _ => other = id → data.role = none ∧ data.status = none
  | .deleteUser other => other ≠ id
  | _ => True

section Steps

variable {db : Accounts} {id : Uuid} {u : User}

theorem isActiveAdmin_iff :
    u.isActiveAdmin = true ↔ u.kind = .staff ∧ u.role = some .admin ∧ u.status = .active := by
  simp [User.isActiveAdmin, and_assoc]

theorem isActiveAdmin_apply {data : UserData} (admin : u.isActiveAdmin = true)
    (role : ∀ role ∈ data.role, role = .admin) (status : data.status = none) :
    (data.apply u).isActiveAdmin = true := by
  obtain ⟨kind, before, active⟩ := isActiveAdmin_iff.mp admin
  refine isActiveAdmin_iff.mpr ⟨kind, ?_, by simpa [UserData.apply, status] using active⟩
  cases given : data.role with
  | none => simp [UserData.apply, given, before]
  | some r => simp [UserData.apply, given, role r given]

theorem activeAdmin_kept (admin : ActiveAdmin db id) {stmt : AccountStatement}
    (spares : stmt.SparesAdmin id) :
    ActiveAdmin (handleAccount.after stmt db) id := by
  obtain ⟨u, found, rights⟩ := admin
  have step := user_step stmt db id
  rw [found] at step
  rw [ActiveAdmin]
  generalize (handleAccount.after stmt db).userById id = after at step
  cases step with
  | updated => exact ⟨_, rfl, isActiveAdmin_apply rights (spares rfl).1 (spares rfl).2⟩
  | reset => exact ⟨_, rfl, isActiveAdmin_apply rights (by simp [(spares rfl).1]) (spares rfl).2⟩
  | deleted => exact absurd rfl spares
  | unchanged => exact ⟨u, rfl, rights⟩

variable (services : AuthServices) {op : UserOperation}

theorem operation_spares (admin : ActiveAdmin db id)
    (spares : ∀ stmt, op.Footprint stmt → stmt.SparesAdmin id) :
    ActiveAdmin (performUser services db op) id :=
  (op.execute services).run_frame (R := fun s t => ActiveAdmin s id →
    ActiveAdmin t id) handleAccount (fun _ held => held)
    (fun _ _ _ first second held => second (first held))
    (fun _ _ spared held => activeAdmin_kept held spared)
    (Proc.issues_mono _ (user_issues services op) spares) db admin

/-- No operation takes the rights of the administrator who performs it, unless it changes their own role. -/
theorem spares_actor {actorId : Uuid} (acts : op.actor = some actorId)
    (other : ∀ dto, op = .updateStaffUser actorId dto actorId → ∀ role ∈ dto.role, role = .admin)
    (stmt : AccountStatement) (footprint : op.Footprint stmt) :
    stmt.SparesAdmin actorId := by
  have announced {stmt : AccountStatement} (announces : stmt.Announces) : stmt.SparesAdmin actorId := by
    obtain ⟨_, rfl⟩ := announces
    trivial
  cases op with
  | createStaffUser ambient dto actor =>
      rcases footprint with announces | ⟨_, rfl, _⟩
      · exact announced announces
      · trivial
  | updateStaffUser target dto actor =>
      cases acts
      rcases footprint with announces | ⟨data, rfl, role, status⟩
      · exact announced announces
      · rintro rfl
        exact ⟨by rw [role]; exact other dto rfl, status⟩
  | deleteStaffUser target actor =>
      cases acts
      rcases footprint with announces | ⟨apart, rfl⟩
      · exact announced announces
      · exact apart
  | session op =>
      cases op with
      | updateStatus target status actor =>
          cases acts
          rcases footprint with announces | ⟨apart, data, rfl, _⟩
          · exact announced announces
          · exact fun same => absurd same apart
      | resetPassword ambient target newPassword actor =>
          rcases footprint with announces | ⟨data, revokedAt, rfl, role, status⟩
          · exact announced announces
          · exact fun _ => ⟨role, status⟩
      | _ => cases acts
  | _ => cases acts

theorem administered_kept (performed : PerformedByAdmin db op) (stays : ¬ ResignsLast db op) :
    Administered (performUser services db op) := by
  obtain ⟨actorId, acts, admin⟩ := performed
  by_cases resigns : ∃ dto role, op = .updateStaffUser actorId dto actorId ∧
    dto.role = some role ∧ role ≠ .admin
  · obtain ⟨dto, role, rfl, given, less⟩ := resigns
    -- Somebody else is an administrator, and the operation writes the actor's row alone.
    have another : ∃ other, ActiveAdmin db other ∧ other ≠ actorId := by
      by_contra alone
      push Not at alone
      exact stays ⟨rfl, ⟨role, given, less⟩, alone⟩
    obtain ⟨other, admin', apart⟩ := another
    refine ⟨other, operation_spares services admin' fun stmt footprint => ?_⟩
    rcases footprint with ⟨_, rfl⟩ | ⟨data, rfl, _⟩
    · trivial
    · exact fun same => absurd same.symm apart
  · push Not at resigns
    exact ⟨actorId, operation_spares services admin (spares_actor acts fun dto same role given =>
      resigns dto role same given)⟩

/-- Once the last administrator has resigned, nobody can administer. -/
theorem resigned (performed : PerformedByAdmin db op) (resigns : ResignsLast db op) :
    ¬ Administered (performUser services db op) := by
  obtain ⟨actorId, acts, v, found, rights⟩ := performed
  cases op with
  | updateStaffUser id dto actor =>
      cases acts
      obtain ⟨rfl, ⟨role, given, less⟩, alone⟩ := resigns
      have row := updateStaffUser_written services found dto id fun _ => (isActiveAdmin_iff.mp rights).1
      rintro ⟨other, admin⟩
      by_cases same : other = id
      · subst same
        obtain ⟨w', row', rights'⟩ := admin
        cases row.symm.trans row'
        have still := (isActiveAdmin_iff.mp rights').2.1
        simp only [UserData.apply, given, Option.some_or] at still
        exact less (Option.some.inj still)
      · rw [ActiveAdmin, updateStaffUser_others services same] at admin
        exact same (alone other admin)
  | _ => exact resigns.elim

end Steps

/-- Whatever administrators do, one of them is left in every state of a run,
exactly when none of them gives away the role of the last one, their own. -/
theorem administered_always (services : AuthServices) (start : Accounts)
    (administered : Administered start) (ops : List UserOperation)
    (performed : Along (performUser services) PerformedByAdmin start ops) :
    (∀ front back, ops = front ++ back → Administered (runFrom (performUser services) start front)) ↔
      Along (performUser services) (fun db op => ¬ ResignsLast db op) start ops :=
  runFrom_exact_within (fun _ _ _ performed stays => administered_kept services performed stays)
    (fun _ _ _ performed held resigns => resigned services performed resigns held) administered performed

theorem sample_administered : ActiveAdmin sampleAccounts "awa" := ⟨_, rfl, rfl⟩

/-- The only administrator makes themselves a supervisor. -/
theorem administration_lost :
    Administered sampleAccounts ∧
      Along (performUser sampleAuth) PerformedByAdmin sampleAccounts
        [.updateStaffUser "awa" { role := some .superviseur } "awa"] ∧
      ¬ ∀ front back, [UserOperation.updateStaffUser "awa" { role := some .superviseur } "awa"] =
        front ++ back →
        Administered (runFrom (performUser sampleAuth) sampleAccounts front) := by
  refine ⟨⟨"awa", sample_administered⟩, ⟨⟨"awa", rfl, sample_administered⟩, trivial⟩, fun always => ?_⟩
  obtain ⟨id, u, found, rights⟩ := always _ [] (List.append_nil _).symm
  have nobody : ∀ u ∈ (runFrom (performUser sampleAuth) sampleAccounts
      [.updateStaffUser "awa" { role := some .superviseur } "awa"]).users.rows, u.isActiveAdmin =
      false := by decide
  cases rights.symm.trans (nobody u (Table.find_some_mem found).1)

/-- A second administrator is created, and the first one steps down. -/
def handover : List UserOperation :=
  [.createStaffUser { freshUserId := "moussa" } ⟨"moussa@fsf.sn", .admin, "temporary", none⟩ "awa",
    .updateStaffUser "awa" { role := some .superviseur } "awa"]

theorem administration_handed_over :
    Administered (runFrom (performUser sampleAuth) sampleAccounts handover) := by
  have still :
      ActiveAdmin (performUser sampleAuth sampleAccounts (.createStaffUser { freshUserId := "moussa" }
      ⟨"moussa@fsf.sn", .admin, "temporary", none⟩ "awa")) "awa" := ⟨_, rfl, rfl⟩
  refine (administered_always sampleAuth sampleAccounts ⟨"awa", sample_administered⟩ handover
    ⟨⟨"awa", rfl, sample_administered⟩, ⟨"awa", rfl, still⟩, trivial⟩).mpr
    ⟨id, fun resigns => ?_, trivial⟩ handover []
      (List.append_nil _).symm
  exact absurd (resigns.2.2 "moussa" ⟨_, rfl, rfl⟩) (by decide)

end AccreditationBackend
