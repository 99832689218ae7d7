import AccreditationBackend.Iam.Footprint

/-! What one statement does to the row of a user, said once. -/

set_option autoImplicit false

namespace AccreditationBackend

open Foundation (Table Proc)

/-- A statement that the database refuses falls under `unchanged`. -/
inductive UserStep (id : Uuid) : AccountStatement → Option User → Option User → Prop
  | created {row : User} (named : row.id = id) : UserStep id (.createUser row) none (some row)
  | updated {data : UserData} {u : User} : UserStep id (.updateUser id data) (some u)
      (some (data.apply u))
  | reset {data : UserData} {revokedAt : Time} {u : User} :
      UserStep id (.resetPassword id data revokedAt) (some u) (some (data.apply u))
  | deleted {u : User} : UserStep id (.deleteUser id) (some u) none
  | unchanged {stmt : AccountStatement} {u : Option User} : UserStep id stmt u u

def AccountStatement.writesUsers : AccountStatement → Bool
  | .createUser _ => true
  | .updateUser .. => true
  | .resetPassword .. => true
  | .deleteUser _ => true
  | _ => false

theorem apply_users {stmt : AccountStatement} {t t' : AccountTables} {reply : stmt.Reply}
    (applied : t.apply stmt = .ok (reply, t')) (other : stmt.writesUsers = false) :
    t'.users = t.users := by
  cases stmt <;>
    simp only [AccountTables.apply, bind_ok, orFail_ok, require_ok, pure_ok, Except.ok.injEq,
      Prod.mk.injEq,
    AccountStatement.writesUsers, reduceCtorEq] at applied other ⊢ <;> grind

theorem apply_deleteUser {id : Uuid} {t t' : AccountTables} {reply : Except Failure User}
    (applied : t.apply (.deleteUser id) = .ok (reply, t')) :
    (∃ u, reply = .ok u ∧ t.deleteUser id = .ok (u, t')) ∨ ∃ why, reply = .error why ∧
      t.deleteUser id = .error why ∧ t' = t := by
  simp only [AccountTables.apply] at applied
  cases gone : t.deleteUser id with
  | ok result =>
      rw [gone] at applied
      cases applied
      exact .inl ⟨result.1, rfl, rfl⟩
  | error why =>
      rw [gone] at applied
      cases applied
      exact .inr ⟨why, rfl, rfl, rfl⟩

theorem deleteUser_ok {id : Uuid} {t t' : AccountTables} {u : User}
    (deleted : t.deleteUser id = .ok (u, t')) :
    t.userById id = some u ∧ t.restricted id = false ∧ t'.users = t.users.delete (·.id == id) ∧
      t'.refreshTokens = t.refreshTokens.delete (·.userId == id) ∧
      t'.profiles = t.profiles.delete (·.userId == id) ∧ t'.archive = t.archive.onDelete id := by
  simp only [AccountTables.deleteUser, bind_ok, orFail_ok, require_ok, pure_ok, Prod.mk.injEq] at deleted
  obtain ⟨_, found, _, free, rfl, rfl⟩ := deleted
  exact ⟨found, free, rfl, rfl, rfl, rfl⟩

theorem find_deleted (users : Table User) (id other : Uuid) :
    (users.delete (·.id == other)).find (·.id == id) =
      if id = other then none else users.find (·.id == id) := by
  split
  next same =>
    refine Table.find_eq_none.mpr fun u member => ?_
    simpa [same] using (List.mem_filter.mp member).2
  next apart => exact Table.find_delete users fun u named => by simpa [beq_iff_eq.mp named] using apart

theorem user_step (stmt : AccountStatement) (db : Accounts) (id : Uuid) :
    UserStep id stmt (db.userById id) ((handleAccount.after stmt db).userById id) := by
  rcases account_after_cases stmt db with same | ⟨reply, applied⟩
  · rw [same]
    exact .unchanged
  · generalize (handleAccount.after stmt db).toAccountTables = t at applied
    simp only [AccountTables.userById]
    cases writes : stmt.writesUsers with
    | false =>
        rw [apply_users applied writes]
        exact .unchanged
    | true =>
        -- The row that the statement names is this one, or the lookup does not move.
        have moved (other : Uuid) (data : UserData)
          (step : ∀ u, other = id → UserStep id stmt (some u) (some (data.apply u))) :
            UserStep id stmt (db.users.find (·.id == id))
              ((db.users.update (·.id == other) data.apply data.apply_key).find (·.id == id)) := by
          obtain ⟨u, found, hit, updated⟩ | same :=
            Table.find_update_cases db.users (·.id == other) data.apply
              data.apply_key (·.id == id) fun _ => rfl
          · rw [updated, found]
            exact step u ((beq_iff_eq.mp hit).symm.trans (beq_iff_eq.mp (Table.find_some_mem found).2))
          · rw [same]
            exact .unchanged
        cases stmt <;> simp only [AccountStatement.writesUsers, Bool.false_eq_true] at writes
        case createUser row =>
          simp only [AccountTables.apply, bind_ok, orFail_ok, pure_ok, Prod.mk.injEq] at applied
          obtain ⟨users, inserted, _, rfl⟩ := applied
          rw [Table.find_insert inserted]
          by_cases named : row.id = id
          · rw [Table.find_insert_fresh inserted (selects_userId id) (by simpa using named)]
            simpa [named] using UserStep.created named
          · simpa [named] using UserStep.unchanged
        case updateUser other data =>
          simp only [AccountTables.apply, bind_ok, orFail_ok, pure_ok, Prod.mk.injEq] at applied
          obtain ⟨_, _, _, rfl⟩ := applied
          exact moved other data fun u same => same ▸ .updated
        case resetPassword other data revokedAt =>
          simp only [AccountTables.apply, bind_ok, orFail_ok, pure_ok, Prod.mk.injEq] at applied
          obtain ⟨_, _, _, rfl⟩ := applied
          exact moved other data fun u same => same ▸ .reset
        case deleteUser other =>
          rcases apply_deleteUser applied with ⟨u, _, deleted⟩ | ⟨_, _, _, same⟩
          · obtain ⟨found, _, users, _⟩ := deleteUser_ok deleted
            rw [users, find_deleted]
            split
            next same =>
              subst same
              rw [AccountTables.userById] at found
              rw [found]
              exact .deleted
            next => exact .unchanged
          · rw [same]
            exact .unchanged

def AccountStatement.writesUser (id : Uuid) : AccountStatement → Bool
  | .createUser row => row.id == id
  | .updateUser other _ => other == id
  | .resetPassword other _ _ => other == id
  | .deleteUser other => other == id
  | _ => false

theorem user_kept {stmt : AccountStatement} {id : Uuid} (other : stmt.writesUser id = false)
    (db : Accounts) :
    (handleAccount.after stmt db).userById id = db.userById id := by
  have step := user_step stmt db id
  generalize db.userById id = before at step
  generalize (handleAccount.after stmt db).userById id = after at step
  cases step with
  | created named => simp [AccountStatement.writesUser, named] at other
  | unchanged => rfl
  | _ => simp [AccountStatement.writesUser] at other

theorem run_keeps_user {A : Type} {p : AuthOp A} {id : Uuid}
    (others : p.Issues fun stmt : AccountStatement => stmt.writesUser id = false) (db : Accounts) :
    (p.run handleAccount db).2.userById id = db.userById id :=
  p.run_frame (R := fun s t => t.userById id = s.userById id) handleAccount (fun _ => rfl)
    (fun _ _ _ first second => second.trans first) (fun _ db other => user_kept other db) others db

section Found

variable {db : Accounts} {id : Uuid} {u : User}

theorem userByEmail_id {email : String} (found : db.userByEmail email = some u) :
    db.userById u.id = some u :=
  (Table.find_some_iff (selects_userId u.id)).mpr ⟨(Table.find_some_mem found).1, beq_self_eq_true _⟩

theorem userById_id (found : db.userById id = some u) : u.id = id :=
  beq_iff_eq.mp (Table.find_some_mem found).2

theorem userById_email (found : db.userById id = some u) : db.userByEmail u.email = some u :=
  (Table.find_some_iff (selects_userEmail u.email)).mpr
  ⟨(Table.find_some_mem found).1, beq_self_eq_true _⟩

theorem apply_updateUser (found : db.userById id = some u) (data : UserData) :
    db.toAccountTables.apply (.updateUser id data) = .ok (data.apply u,
      { db.toAccountTables with users := db.users.update (·.id == id) data.apply data.apply_key }) := by
  rw [AccountTables.userById] at found
  simp [AccountTables.apply, found, orFail, bind, Except.bind, pure, Except.pure]

theorem handle_updateUser (found : db.userById id = some u) (data : UserData) :
    handleAccount (.updateUser id data) db =
      .ok (data.apply u, handleAccount.after (.updateUser id data) db) :=
  handleAccount_replies (apply_updateUser found data)

theorem row_updateUser (found : db.userById id = some u) (data : UserData) :
    (handleAccount.after (.updateUser id data) db).userById id = some (data.apply u) := by
  have same := congrArg AccountTables.users (account_after_applied (apply_updateUser found data))
  rw [AccountTables.userById] at found
  rw [AccountTables.userById, same, Table.find_update _ _ _ data.apply_key _ fun _ => rfl, found]
  simp [beq_iff_eq.mp (Table.find_some_mem found).2]

theorem row_resetPassword (found : db.userById id = some u) (data : UserData) (revokedAt : Time) :
    (handleAccount.after (.resetPassword id data revokedAt) db).userById id = some (data.apply u) := by
  have same :=
    congrArg AccountTables.users (account_after_applied (apply_resetPassword found data revokedAt))
  rw [AccountTables.userById] at found
  rw [AccountTables.userById, same, Table.find_update _ _ _ data.apply_key _ fun _ => rfl, found]
  simp [beq_iff_eq.mp (Table.find_some_mem found).2]

theorem handle_publish (event : UserEvent) (db : Accounts) :
    handleAccount (.publish event) db =
      .ok ((), handleAccount.after (.publish event) db) := handleAccount_replies rfl

theorem writeAccount_run {stmt : AccountStatement} {reply : stmt.Reply} {t : Accounts}
    (replied : handleAccount stmt db = .ok (reply, t)) :
    (writeAccount stmt).run handleAccount db = (.ok reply, t) := by
  rw [writeAccount, Proc.command, Proc.run, replied]
  rfl

end Found

end AccreditationBackend
