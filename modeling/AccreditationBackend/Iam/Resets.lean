import Mathlib.Data.Fintype.Option
import AccreditationBackend.Foundation.Staged
import AccreditationBackend.Iam.Effects
import AccreditationBackend.Iam.Rotation

/-! A password reset among refreshes of the same account.

The reset revokes the tokens that exist when its transaction runs. A refresh
that read its token before it can still issue another one afterwards.
-/

set_option autoImplicit false

namespace AccreditationBackend

open Foundation

/-- The statement issues a token of the user. -/
def AccountStatement.issuesTo (userId : Uuid) : AccountStatement → Bool
  | .createRefreshToken row => row.userId == userId
  | _ => false

def AccountStatement.resets (userId : Uuid) : AccountStatement → Bool
  | .resetPassword id _ _ => id == userId
  | _ => false

/-- The user has no session: each of its refresh tokens is revoked. -/
def SignedOut (userId : Uuid) (db : Accounts) : Prop :=
  ∀ token ∈ db.refreshTokens.rows, token.userId = userId → token.revokedAt ≠ none

section Statements

variable {userId : Uuid} {db : Accounts}

theorem signedOut_updated {t : AccountTables} {q : RefreshToken → Bool} {revokedAt : Time}
    (out : SignedOut userId db)
    (same : t.refreshTokens =
      db.refreshTokens.update q (RefreshToken.revoke revokedAt) (RefreshToken.revoke_key revokedAt)) :
    ∀ token ∈ t.refreshTokens.rows, token.userId = userId → token.revokedAt ≠ none := by
  intro token member owner
  rw [same, Table.mem_update] at member
  obtain ⟨old, inside, rfl⟩ := member
  split at owner
  next hit => simp [hit, RefreshToken.revoke]
  next missed =>
    simp only [missed, Bool.false_eq_true, if_false]
    exact out old inside owner

/-- Only a token that is issued to the user opens a session again. -/
theorem signedOut_kept (out : SignedOut userId db) {stmt : AccountStatement}
    (other : stmt.issuesTo userId = false) :
    SignedOut userId (handleAccount.after stmt db) := by
  rcases account_after_cases stmt db with same | ⟨reply, applied⟩
  · rw [same]
    exact out
  · unfold SignedOut
    generalize (handleAccount.after stmt db).toAccountTables = t at applied
    cases stmt <;>
      simp only [AccountTables.apply, bind_ok, orFail_ok, require_ok, pure_ok, Except.ok.injEq,
      Prod.mk.injEq] at applied
    case publish event => rwa [← applied.2]
    case createUser row =>
      obtain ⟨_, _, _, rfl⟩ := applied
      exact out
    case updateUser id data =>
      obtain ⟨_, _, _, rfl⟩ := applied
      exact out
    case resetPassword id data revokedAt =>
      obtain ⟨_, _, _, rfl⟩ := applied
      exact signedOut_updated out rfl
    case createRefreshToken row =>
      obtain ⟨_, _, _, inserted, _, rfl⟩ := applied
      intro token member owner
      rw [Table.insert_rows inserted, List.mem_append, List.mem_singleton] at member
      rcases member with old | rfl
      · exact out token old owner
      · simp [AccountStatement.issuesTo, owner] at other
    case revokeRefreshToken id revokedAt =>
      obtain ⟨_, _, _, rfl⟩ := applied
      exact signedOut_updated out rfl
    case revokeByHash tokenHash revokedAt =>
      obtain ⟨_, rfl⟩ := applied
      exact signedOut_updated out rfl
    case deleteUser id =>
      rcases apply_deleteUser applied with ⟨u, _, deleted⟩ | ⟨_, _, _, same⟩
      · obtain ⟨_, _, _, tokens, _⟩ := deleteUser_ok deleted
        rw [tokens]
        exact fun token member owner => out token (List.mem_filter.mp member).1 owner
      · rw [same]
        exact out
    case createProfile row =>
      obtain ⟨_, _, _, _, _, _, _, rfl⟩ := applied
      exact out

theorem signedOut_reset {user : User} (found : db.userById userId = some user) (data : UserData)
    (revokedAt : Time) :
    SignedOut userId (handleAccount.after (.resetPassword userId data revokedAt) db) := by
  have same :=
    congrArg AccountTables.refreshTokens
      (account_after_applied (apply_resetPassword found data revokedAt))
  intro token member owner
  rw [same, Table.mem_update] at member
  obtain ⟨old, _, rfl⟩ := member
  split at owner
  next hit => simp [hit, RefreshToken.revoke]
  next missed =>
    intro live
    simp only [missed, Bool.false_eq_true, if_false] at live
    exact missed (by simp [unrevokedOf, owner, live])

end Statements

/-! ## After the transaction -/

/-- While the user is signed out, a call may rely on it, and must not issue a token of the user. -/
def signedOutDiscipline (userId : Uuid) (allowed : AccountStatement → Prop) :
    Discipline accountStore Accounts Unit where
  Knows _ db := SignedOut userId db
  Grants e := allowed e.stmt
  Commits _ e _ := e.stmt.issuesTo userId = false

section After

variable (services : AuthServices) {userId : Uuid} {allowed : AccountStatement → Prop}

theorem refresh_signedOut (ambient : AuthAmbient) (token : String) (context : LoginContext) :
    (refresh services ambient token context).Outline handleAccount (signedOutDiscipline userId allowed)
      (fun _ g => g = ()) () := by
  refine refresh_rule services (fun _ => rfl) fun db stored out found alive s _ => ?_
  have other : stored.userId ≠ userId := by
    intro owner
    simp only [RefreshToken.isLive, Bool.and_eq_true, beq_iff_eq] at alive
    exact out stored (Table.find_some_mem found).1 owner alive.1
  refine ⟨(), rfl, fun _ => rfl, fun row s' owner => ⟨(), ?_, fun _ => rfl⟩⟩
  simpa [signedOutDiscipline, AccountStatement.issuesTo, owner] using other

theorem execute_refresh_signedOut (ambient : AuthAmbient) (token : String) (context : LoginContext) :
    ((AccountOperation.refresh ambient token context).execute services).Outline handleAccount
      (signedOutDiscipline userId allowed) (fun _ g => g = ()) () := by
  refine Proc.outline_seq (refresh_signedOut services ambient token context) fun r _ same => ?_
  cases r <;> exact same

/-- Once the user is signed out, only a call of `old` that is granted a token of
the user can sign it in again. -/
theorem signedOut_play {ι : Type} [DecidableEq ι] {pool : Pool ι accountStore Accounts AuthFailure AccountReply}
    (old : ι → Prop) (out : SignedOut userId pool.store)
    (late : ∀ i, ¬ old i → ∃ ambient token context,
      pool.procs i = (AccountOperation.refresh ambient token context).execute services)
    (schedule : List ι)
    (timely : ∀ x ∈ (pool.play handleAccount schedule).1, old x.1 → x.2.stmt.issuesTo userId = false) :
    SignedOut userId (pool.play handleAccount schedule).2.store := by
  obtain ⟨_, stays, _⟩ := Pool.play_recalls handleAccount
    (fun i => signedOutDiscipline userId fun stmt => old i → stmt.issuesTo userId = false)
    (R := fun _ _ => True) (Q := fun _ _ g _ => g = ()) (J := fun _ db _ => SignedOut userId db)
    (F := fun _ i e => old i → e.stmt.issuesTo userId = false)
    (fun _ => trivial) (fun _ _ _ _ _ => trivial) (fun _ _ _ _ out => out) (fun _ _ _ granted => granted)
    (fun _ _ _ _ _ _ out _ commits => ⟨signedOut_kept out commits, trivial⟩) schedule pool []
    (fun _ => ()) out
    (fun i => by
      refine ⟨pool.store, trivial, ?_⟩
      by_cases former : old i
      · exact Proc.recalls_granted handleAccount _ _ ()
          (fun stmt _ (granted : old i → stmt.issuesTo userId = false) => granted former) _ _
      · obtain ⟨ambient, token, context, begins⟩ := late i former
        rw [begins]
        exact (Proc.recalls_nothing handleAccount _ _ _ _).mpr
          (execute_refresh_signedOut services ambient token context))
    (fun front i e back split => timely (i, e) (by rw [split]; simp))
  exact stays

end After

/-! ## Every interleaving -/

section Race

variable {ι : Type} (services : AuthServices) (start : Accounts) (userId : Uuid)

/-- One reset of the user's password, and any number of refreshes. -/
def resetAmong (ambient : AuthAmbient) (newPassword : String) (actorId : Uuid)
    (refreshes : ι → AuthAmbient × String × LoginContext) : Option ι → AccountOperation
  | none => .resetPassword ambient userId newPassword actorId
  | some i => .refresh (refreshes i).1 (refreshes i).2.1 (refreshes i).2.2

variable {services start userId} {ambient : AuthAmbient} {newPassword : String} {actorId : Uuid}
  {refreshes : ι → AuthAmbient × String × LoginContext}

theorem resetAmong_keepsPeople (i : Option ι) :
    ((resetAmong userId ambient newPassword actorId refreshes i).execute services).Issues
      fun stmt : AccountStatement => stmt.keepsPeople = true :=
  Proc.issues_mono _ (account_issues services _) fun _ => account_footprint_keepsPeople

theorem reset_reads (services : AuthServices) (ambient : AuthAmbient) (userId : Uuid)
    (newPassword : String) (actorId : Uuid) (refreshes : ι → AuthAmbient × String × LoginContext) :
    ∃ next, (resetAmong userId ambient newPassword actorId refreshes none).execute services = .read next ∧
    ∀ db : Accounts, (db.userById userId).isSome → ∃ data revokedAt rest,
      next db = .exec (.resetPassword userId data revokedAt) rest := by
  unfold resetAmong AccountOperation.execute resetPassword findById
  dsimp only
  rw [Proc.query_bind, Proc.read_bind]
  refine ⟨_, rfl, fun db known => ?_⟩
  obtain ⟨user, found⟩ := Option.isSome_iff_exists.mp known
  rw [found, orRefuse_some_bind, writeAccount_bind, Proc.exec_bind]
  exact ⟨_, _, _, rfl⟩

variable [DecidableEq ι]

/-- No call that had begun before the turn in which the transaction of the reset
ran issues a token of the user after it. -/
def IssuedInTime (userId : Uuid) (pool : Pool (Option ι) accountStore Accounts AuthFailure AccountReply)
    (schedule : List (Option ι)) : Prop :=
  ∀ front back, schedule = front ++ none :: back →
    (((pool.play handleAccount front).2.turn handleAccount none).1.any fun x => x.2.stmt.resets userId) = true →
    ∀ x ∈ ((pool.play handleAccount (front ++ [none])).2.play handleAccount back).1,
      x.1 ∈ front → x.2.stmt.issuesTo userId = false

theorem user_stays (schedule : List (Option ι)) (id : Uuid) :
    (((accountPool services start (resetAmong userId ambient newPassword actorId refreshes)).play handleAccount
      schedule).2.store.userById id).isSome = (start.userById id).isSome := by
  refine Pool.play_frame (R := fun s t => (t.userById id).isSome = (s.userById id).isSome)
    handleAccount (fun _ => rfl)
    (fun _ _ _ first second => second.trans first) ?_ schedule _ resetAmong_keepsPeople
  intro stmt db people
  have step := user_step stmt db id
  generalize db.userById id = before at step
  generalize (handleAccount.after stmt db).userById id = after at step
  cases step with
  | created => simp [AccountStatement.keepsPeople] at people
  | deleted => simp [AccountStatement.keepsPeople] at people
  | _ => rfl

/-- The reset has not begun, stands before its transaction, or has run it in one of its turns. -/
theorem reset_splits (known : (start.userById userId).isSome) (schedule : List (Option ι)) :
    ((accountPool services start (resetAmong userId ambient newPassword actorId refreshes)).play handleAccount
        schedule).2.procs none =
          (resetAmong userId ambient newPassword actorId refreshes none).execute services ∨
    (none ∈ schedule ∧ ∃ data revokedAt rest,
      ((accountPool services start (resetAmong userId ambient newPassword actorId refreshes)).play handleAccount
        schedule).2.procs none = .exec (.resetPassword userId data revokedAt) rest) ∨
    ∃ front back, schedule = front ++ none :: back ∧ none ∈ front ∧ ∃ data revokedAt rest,
      ((accountPool services start (resetAmong userId ambient newPassword actorId refreshes)).play handleAccount
        front).2.procs none = .exec (.resetPassword userId data revokedAt) rest := by
  induction schedule using List.reverseRecOn with
  | nil => exact .inl rfl
  | append_singleton front i ih =>
      by_cases mine : i = none
      · subst mine
        rcases ih with fresh | ⟨begun, standing⟩ | ⟨before, back, rfl, begun, ran⟩
        · obtain ⟨next, reads, leads⟩ := reset_reads services ambient userId newPassword actorId refreshes
          rw [reads] at fresh
          have there :
              (((accountPool services start (resetAmong userId ambient newPassword actorId refreshes)).play
              handleAccount front).2.store.userById userId).isSome :=
                (user_stays front userId).trans known
          obtain ⟨data, revokedAt, rest, shape⟩ := leads _ there
          refine .inr (.inl ⟨by simp, data, revokedAt, rest, ?_⟩)
          rw [Pool.play_snoc, Pool.turn_read handleAccount _ fresh]
          simpa using shape
        · exact .inr (.inr ⟨front, [], rfl, begun, standing⟩)
        · exact .inr (.inr ⟨before, back ++ [none], by simp, begun, ran⟩)
      · rw [Pool.play_snoc, Pool.turn_other handleAccount _ (Ne.symm mine)]
        rcases ih with fresh | ⟨begun, standing⟩ | ⟨before, back, rfl, begun, ran⟩
        · exact .inl fresh
        · exact .inr (.inl ⟨List.mem_append_left _ begun, standing⟩)
        · exact .inr (.inr ⟨before, back ++ [i], by simp, begun, ran⟩)

end Race

/-- However a reset interleaves with refreshes, no token of the user is left
unrevoked when all have ended, as long as each refresh that had begun before the
transaction of the reset issues its token before it, or not at all. No call of
the pool is a login: every token there descends from one made before the reset. -/
theorem reset_ends_sessions {ι : Type} [DecidableEq ι] (services : AuthServices) (start : Accounts)
    (userId : Uuid) (ambient : AuthAmbient) (newPassword : String) (actorId : Uuid)
    (refreshes : ι → AuthAmbient × String × LoginContext) (schedule : List (Option ι))
    (ended : ((accountPool services start (resetAmong userId ambient newPassword actorId refreshes)).play
      handleAccount schedule).2.Ended)
    (timely : IssuedInTime userId
      (accountPool services start (resetAmong userId ambient newPassword actorId refreshes)) schedule) :
    SignedOut userId
      ((accountPool services start (resetAmong userId ambient newPassword actorId refreshes)).play
        handleAccount schedule).2.store := by
  have stays (schedule : List (Option ι)) :
      (((accountPool services start (resetAmong userId ambient newPassword actorId refreshes)).play
        handleAccount schedule).2.store.userById userId).isSome = (start.userById userId).isSome :=
    user_stays schedule userId
  by_cases known : (start.userById userId).isSome
  · rcases reset_splits known schedule with
      fresh | ⟨_, _, _, _, standing⟩ | ⟨front, back, rfl, begun, data, revokedAt, rest, ran⟩
    · obtain ⟨next, reads, _⟩ := reset_reads services ambient userId newPassword actorId refreshes
      have done := ended none
      rw [fresh, reads] at done
      cases done
    · have done := ended none
      rw [standing] at done
      cases done
    · obtain ⟨user, found⟩ := Option.isSome_iff_exists.mp ((stays front).trans known)
      have turned :=
        Pool.turn_exec handleAccount _ ran
          (handleAccount_replies (apply_resetPassword found data revokedAt))
      have out := signedOut_reset found data revokedAt
      have late := timely front back rfl (by rw [turned]; simp [AccountStatement.resets])
      rw [← List.singleton_append, ← List.append_assoc, Pool.play_append]
      refine signedOut_play services (· ∈ front) (by rw [Pool.play_snoc, turned]; exact out)
        (fun i new => ?_) back late
      cases i with
      | none => exact absurd begun new
      | some i =>
          refine ⟨_, _, _, Pool.play_untouched handleAccount ?_ _⟩
          simpa using new
  -- Without the user there is no token: the foreign key says so.
  · intro token member owner
    have there :=
      (Accounts.referential _).token_user
      (List.mem_map_of_mem (f := fun r : RefreshToken => r.userId) member)
    obtain ⟨user, found⟩ := Table.find_of_column there
    rw [owner] at found
    refine absurd ((stays schedule).symm.trans ?_) known
    rw [AccountTables.userById, found]
    rfl

/-- A refresh that has read its token, a reset, and the rest of the refresh. -/
def resetWithin : Pool (Option Unit) accountStore Accounts AuthFailure AccountReply :=
  accountPool sampleAuth sessionOpened (resetAmong "awa" {} "fresh" "moussa" fun _ =>
    ({ opaqueToken := "t1", freshId := "s1" }, "t0", {}))

/-- All have ended, and the token that the refresh issued after the reset is not revoked. -/
theorem session_survives_reset :
    (resetWithin.play handleAccount [some (), some (), none, none, some (), some (), none]).2.Ended ∧
      ¬ SignedOut "awa"
        (resetWithin.play handleAccount
          [some (), some (), none, none, some (), some (), none]).2.store := by
  constructor
  · unfold Pool.Ended
    decide
  · unfold SignedOut
    decide

/-- A refresh that comes after the reset is refused. -/
theorem session_ends_with_reset :
    SignedOut "awa" (resetWithin.play handleAccount [none, none, none, some ()]).2.store := by
  refine reset_ends_sessions sampleAuth sessionOpened "awa" {} "fresh" "moussa" _
    [none, none, none, some ()]
    (by unfold Pool.Ended; decide) ?_
  rintro front back split _ x member _
  have nothing : ∀ x ∈ (resetWithin.play handleAccount [none, none, none, some ()]).1,
      x.2.stmt.issuesTo "awa" = false := by decide
  refine nothing x ?_
  rw [split, ← List.singleton_append, ← List.append_assoc, Pool.play_append]
  exact List.mem_append_right _ member

end AccreditationBackend
