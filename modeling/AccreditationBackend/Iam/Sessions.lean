import AccreditationBackend.Foundation.Lineage
import AccreditationBackend.Iam.Footprint

/-! Sessions in sequential runs.

A session is the token that a login returned and the tokens that refreshes
exchanged for it, one after another. Tokens are told apart by their hashes, as
the database does.
-/

set_option autoImplicit false

namespace AccreditationBackend

open Foundation

/-! ## What a statement does to the tokens -/

/-- Every token keeps its owner, and a revoked one stays revoked. -/
def TokensEndure (s t : Accounts) : Prop :=
  ∀ h r, s.tokenByHash h = some r →
    ∃ r', t.tokenByHash h = some r' ∧ r'.id = r.id ∧ r'.userId = r.userId ∧
      (r'.revokedAt = none → r.revokedAt = none)

section Tokens

variable {s t u : Accounts}

theorem TokensEndure.refl (s : Accounts) : TokensEndure s s :=
  fun _ r found => ⟨r, found, rfl, rfl, fun live => live⟩

theorem TokensEndure.trans (first : TokensEndure s t) (second : TokensEndure t u) : TokensEndure s u := by
  intro h r found
  obtain ⟨r', found', named, owner, live⟩ := first h r found
  obtain ⟨r'', found'', named', owner', live'⟩ := second h r' found'
  exact ⟨r'', found'', named'.trans named, owner'.trans owner, fun still => live (live' still)⟩

theorem endure_revoked {q : RefreshToken → Bool} {revokedAt : Time}
    (revoked : t.refreshTokens =
      s.refreshTokens.update q (RefreshToken.revoke revokedAt) (RefreshToken.revoke_key revokedAt)) :
    TokensEndure s t := by
  intro h r found
  rw [AccountTables.tokenByHash, revoked,
    Table.find_update _ _ _ (RefreshToken.revoke_key revokedAt) _ fun _ => rfl]
  rw [AccountTables.tokenByHash] at found
  by_cases hit : q r = true
  · exact ⟨r.revoke revokedAt, by simp [found, hit], rfl, rfl, fun live => by cases live⟩
  · exact ⟨r, by simp [found, hit], rfl, rfl, fun live => live⟩

theorem statement_keeps_tokens {stmt : AccountStatement} (people : stmt.keepsPeople = true)
    (db : Accounts) :
    TokensEndure db (handleAccount.after stmt db) := by
  rcases account_after_cases stmt db with same | ⟨reply, applied⟩
  · rw [same]
    exact .refl db
  · generalize handleAccount.after stmt db = t at applied
    have kept (same : t.refreshTokens = db.refreshTokens) : TokensEndure db t := by
      intro h r found
      exact ⟨r, by rw [AccountTables.tokenByHash, same]; exact found, rfl, rfl, fun live => live⟩
    cases stmt <;>
      simp only [AccountTables.apply, bind_ok, orFail_ok, require_ok, pure_ok, Except.ok.injEq,
      Prod.mk.injEq, AccountStatement.keepsPeople, Bool.false_eq_true] at applied people
    case publish event => exact kept (by rw [← applied.2])
    case updateUser id data =>
      obtain ⟨_, _, _, same⟩ := applied
      exact kept (by rw [← same])
    case resetPassword id data revokedAt =>
      obtain ⟨_, _, _, same⟩ := applied
      exact endure_revoked (by rw [← same])
    case createRefreshToken row =>
      obtain ⟨_, _, refreshTokens, inserted, _, same⟩ := applied
      intro h r found
      refine ⟨r, ?_, rfl, rfl, fun live => live⟩
      rw [AccountTables.tokenByHash, ← same, Table.find_insert inserted]
      rw [AccountTables.tokenByHash] at found
      rw [found]
      rfl
    case revokeRefreshToken id revokedAt =>
      obtain ⟨_, _, _, same⟩ := applied
      exact endure_revoked (by rw [← same])
    case revokeByHash tokenHash revokedAt => exact endure_revoked (by rw [← applied.2])

theorem createRefreshToken_stored {row reply : RefreshToken}
    (created : handleAccount (.createRefreshToken row) s = .ok (reply, t)) :
    t.tokenByHash row.tokenHash = some row := by
  have applied := handleAccount_ok.mp created
  simp only [AccountTables.apply, bind_ok, orFail_ok, require_ok, pure_ok, Prod.mk.injEq] at applied
  obtain ⟨_, _, refreshTokens, inserted, _, same⟩ := applied
  rw [AccountTables.tokenByHash, ← same, Table.find_insert inserted,
    Table.find_insert_fresh inserted (selects_refreshTokenHash row.tokenHash) (beq_self_eq_true _)]
  simp

/-- A token that is there and revoked. -/
def Spent (db : Accounts) (h : String) : Prop := ∃ r, db.tokenByHash h = some r ∧ r.revokedAt ≠ none

/-- A token of the user is there. -/
def Stored (db : Accounts) (userId : Uuid) (h : String) : Prop :=
  ∃ r, db.tokenByHash h = some r ∧ r.userId = userId

theorem TokensEndure.spent (endure : TokensEndure s t) {h : String} (spent : Spent s h) : Spent t h := by
  obtain ⟨r, found, revoked⟩ := spent
  obtain ⟨r', found', _, _, live⟩ := endure h r found
  exact ⟨r', found', fun still => revoked (live still)⟩

theorem TokensEndure.stored (endure : TokensEndure s t) {userId : Uuid} {h : String}
    (stored : Stored s userId h) :
    Stored t userId h := by
  obtain ⟨r, found, owner⟩ := stored
  obtain ⟨r', found', _, owner', _⟩ := endure h r found
  exact ⟨r', found', owner'.trans owner⟩

theorem revokeRefreshToken_spent {id : Uuid} {revokedAt : Time} {h : String} {stored reply : RefreshToken}
    (found : s.tokenByHash h = some stored) (named : stored.id = id)
    (replied : handleAccount (.revokeRefreshToken id revokedAt) s = .ok (reply, t)) : Spent t h := by
  have applied := handleAccount_ok.mp replied
  simp only [AccountTables.apply, bind_ok, pure_ok, Prod.mk.injEq] at applied
  obtain ⟨_, _, _, same⟩ := applied
  refine ⟨stored.revoke revokedAt, ?_, by simp [RefreshToken.revoke]⟩
  rw [AccountTables.tokenByHash] at found
  rw [AccountTables.tokenByHash, ← same,
    Table.find_update _ _ _ (RefreshToken.revoke_key revokedAt) _ fun _ => rfl, found]
  simp [named]

theorem unrevoked_spent {owns : RefreshToken → Bool} {revokedAt : Time} {h : String} {r : RefreshToken}
    (revoked : t.refreshTokens =
      s.refreshTokens.update (unrevokedOf owns) (RefreshToken.revoke revokedAt)
        (RefreshToken.revoke_key revokedAt))
    (found : s.tokenByHash h = some r) (named : owns r = true) : Spent t h := by
  rw [AccountTables.tokenByHash] at found
  rw [Spent, AccountTables.tokenByHash, revoked,
    Table.find_update _ _ _ (RefreshToken.revoke_key revokedAt) _ fun _ => rfl, found]
  refine ⟨_, rfl, ?_⟩
  by_cases live : r.revokedAt = none <;> simp [unrevokedOf, named, live, RefreshToken.revoke]

end Tokens

/-! ## One operation -/

section Operations

variable (services : AuthServices) {db : Accounts}

theorem run_keeps_tokens {A : Type} {p : AuthOp A}
    (people : p.Issues fun stmt : AccountStatement => stmt.keepsPeople = true) (db : Accounts) :
    TokensEndure db (p.run handleAccount db).2 :=
  p.run_frame handleAccount TokensEndure.refl (fun _ _ _ => TokensEndure.trans)
    (fun _ db people => statement_keeps_tokens people db) people db

theorem operation_keeps_tokens (db : Accounts) (op : AccountOperation) :
    TokensEndure db (performAccount services db op) :=
  run_keeps_tokens
    (Proc.issues_mono _ (account_issues services op) fun _ => account_footprint_keepsPeople) db

theorem issueTokens_returned {ambient : AuthAmbient} {user : User} {context : LoginContext}
    {tokens : AuthTokens} {t : Accounts}
    (returned : (issueTokens services ambient user context).run handleAccount db = (.ok tokens, t)) :
    Stored t user.id (services.hashToken tokens.refreshToken) := by
  unfold issueTokens at returned
  rw [writeAccount_bind, Proc.run] at returned
  split at returned
  next reply t' created =>
    cases returned
    exact ⟨_, createRefreshToken_stored created, rfl⟩
  next why failed => cases returned

theorem refresh_returned {ambient : AuthAmbient} {token : String} {context : LoginContext}
    {tokens : AuthTokens} {t : Accounts}
    (returned : (refresh services ambient token context).run handleAccount db = (.ok tokens, t)) :
    ∃ stored user, db.tokenByHash (services.hashToken token) = some stored ∧
      stored.isLive (ambient.clock 0) = true ∧
      db.userById stored.userId = some user ∧ user.status = .active ∧ Spent t (services.hashToken token) ∧
      Stored t stored.userId (services.hashToken tokens.refreshToken) := by
  simp only [refresh, Proc.query_bind, Proc.run] at returned
  cases live : (db.tokenByHash (services.hashToken token)).filter (·.isLive (ambient.clock 0)) with
  | none =>
      rw [live] at returned
      cases returned
  | some stored =>
      rw [live] at returned
      simp only [orUnauthorized_some_bind, findById, Proc.query_bind, Proc.run] at returned
      cases active : (db.userById stored.userId).filter (·.status == .active) with
      | none =>
          rw [active] at returned
          cases returned
      | some user =>
          rw [active] at returned
          rw [orUnauthorized_some_bind, writeAccount_bind, Proc.run] at returned
          split at returned
          next reply u revoked =>
            obtain ⟨found, alive⟩ := Option.filter_eq_some_iff.mp live
            obtain ⟨account, status⟩ := Option.filter_eq_some_iff.mp active
            have owner := beq_iff_eq.mp (Table.find_some_mem account).2
            refine ⟨stored, user, found, alive, account, beq_iff_eq.mp status, ?_, ?_⟩
            · have issued :=
                run_keeps_tokens (issueTokens_issues services ambient user context fun _ => rfl) u
              rw [returned] at issued
              exact issued.spent (revokeRefreshToken_spent found rfl revoked)
            · rw [← owner]
              exact issueTokens_returned services returned
          next why failed => cases returned

theorem logout_spends (ambient : AuthAmbient) {token : String} {userId : Uuid}
    (stored : Stored db userId (services.hashToken token)) :
    Spent (performAccount services db (.logout ambient token)) (services.hashToken token) := by
  obtain ⟨r, found, _⟩ := stored
  have named := (Table.find_some_mem found).2
  simp only [performAccount, AccountOperation.execute, logout]
  have applied :
      db.toAccountTables.apply (.revokeByHash (services.hashToken token) (ambient.clock 0)) = .ok _ := rfl
  have same := congrArg AccountTables.refreshTokens (account_after_applied applied)
  have spent := unrevoked_spent same found named
  rw [Proc.run_bind, writeAccount_bind, Proc.run, handleAccount_replies applied]
  exact spent

theorem resetPassword_spends (ambient : AuthAmbient) {userId actorId : Uuid} {newPassword h : String}
    (stored : Stored db userId h) :
    Spent (performAccount services db (.resetPassword ambient userId newPassword actorId)) h := by
  obtain ⟨r, found, owner⟩ := stored
  have account : userId ∈ db.users.column (·.id) := by
    rw [← owner]
    exact db.referential.token_user (List.mem_map_of_mem (Table.find_some_mem found).1)
  obtain ⟨user, present⟩ := Table.find_of_column account
  have known : db.userById userId = some user := present
  have applied := apply_resetPassword known
    { passwordHash := some (services.hashPassword newPassword ambient.salt), failedLoginAttempts := some (.set 0),
      lockedUntil := some none } (ambient.clock 0)
  have same := congrArg AccountTables.refreshTokens (account_after_applied applied)
  have mine : (fun r : RefreshToken => r.userId == userId) r = true := beq_iff_eq.mpr owner
  have spent := unrevoked_spent same found mine
  simp only [performAccount, AccountOperation.execute, resetPassword, findById, Proc.query_bind,
    Proc.read_bind]
  rw [Proc.run, known, orRefuse_some_bind, writeAccount_bind, Proc.exec_bind, Proc.run,
    handleAccount_replies applied]
  refine (run_keeps_tokens ?_ _).spent spent
  exact ⟨rfl, fun _ => trivial⟩

end Operations

/-! ## Sessions -/

section Runs

variable (services : AuthServices) {db : Accounts}

/-- The token that a refresh accepts, with the one that it returns for it. -/
def rotation (db : Accounts) (op : AccountOperation) : Option (String × String) :=
  match op, accountOutcome services db op with
  | .refresh _ token _, .ok (.tokens issued) =>
      some (services.hashToken token, services.hashToken issued.refreshToken)
  | _, _ => none

/-- The rotations of a run, in order. -/
def rotations : Accounts → List AccountOperation → List (String × String)
  | _, [] => []
  | db, op :: rest => (rotation services db op).toList ++ rotations (performAccount services db op) rest

/-- The tokens that the refreshes of a run accept. -/
def accepted (start : Accounts) (ops : List AccountOperation) : List String :=
  (rotations services start ops).map Prod.fst

/-- The session that `root` opened, as it stands after a run. -/
abbrev Session (start : Accounts) (ops : List AccountOperation) (root h : String) : Prop :=
  Lineage (rotations services start ops) root h

theorem rotation_returned {db : Accounts} {op : AccountOperation} {h h' : String}
    (rotated : rotation services db op = some (h, h')) :
    ∃ stored user ambient token context, op = .refresh ambient token context ∧
      services.hashToken token = h ∧
      db.tokenByHash h = some stored ∧ stored.isLive (ambient.clock 0) = true ∧
      db.userById stored.userId = some user ∧ user.status = .active ∧
      Spent (performAccount services db op) h ∧
      Stored (performAccount services db op) stored.userId h' := by
  unfold rotation at rotated
  split at rotated
  next ambient token context issued returned =>
    obtain ⟨rfl, rfl⟩ := Prod.mk.inj (Option.some.inj rotated)
    have ran : (AccountOperation.execute services (.refresh ambient token context)).run handleAccount db =
        (.ok (.tokens issued), performAccount services db (.refresh ambient token context)) :=
        Prod.ext returned rfl
    obtain ⟨tokens, t, refreshed, last⟩ := Proc.run_bind_ok handleAccount ran
    cases last
    obtain ⟨stored, user, found, live, account, status, spent, new⟩ := refresh_returned services refreshed
    exact ⟨stored, user, ambient, token, context, rfl, rfl, found, live, account, status, spent, new⟩
  next => cases rotated

theorem rotations_append (start : Accounts) (front back : List AccountOperation) :
    rotations services start (front ++ back) =
      rotations services start front ++
        rotations services (runFrom (performAccount services) start front) back := by
  induction front generalizing start with
  | nil => rfl
  | cons op rest ih => simp only [List.cons_append, rotations, ih, runFrom_cons, List.append_assoc]

theorem runFrom_keeps_tokens (start : Accounts) (ops : List AccountOperation) :
    TokensEndure start (runFrom (performAccount services) start ops) :=
  runFrom_relates TokensEndure.refl (fun _ _ _ => TokensEndure.trans)
    (operation_keeps_tokens services) start ops

theorem accepted_unspent {start : Accounts} {ops : List AccountOperation} {h : String}
    (accepts : h ∈ accepted services start ops) : ¬ Spent start h := by
  induction ops generalizing start with
  | nil => cases accepts
  | cons op rest ih =>
      intro spent
      simp only [accepted, rotations, List.map_append, List.mem_append, List.mem_map,
        Option.mem_toList] at accepts
      rcases accepts with ⟨pair, now, rfl⟩ | later
      · obtain ⟨stored, _, _, _, _, _, _, found, live, _⟩ := rotation_returned services now
        obtain ⟨r, found', revoked⟩ := spent
        cases found.symm.trans found'
        simp only [RefreshToken.isLive, Bool.and_eq_true, beq_iff_eq] at live
        exact revoked live.1
      · exact ih (List.mem_map.mpr later) ((operation_keeps_tokens services start op).spent spent)

theorem accepted_spent {start : Accounts} {ops : List AccountOperation} {h : String}
    (accepts : h ∈ accepted services start ops) :
    Spent (runFrom (performAccount services) start ops) h := by
  induction ops generalizing start with
  | nil => cases accepts
  | cons op rest ih =>
      simp only [accepted, rotations, List.map_append, List.mem_append, List.mem_map,
        Option.mem_toList] at accepts
      rcases accepts with ⟨pair, now, rfl⟩ | later
      · obtain ⟨_, _, _, _, _, _, _, _, _, _, _, spent, _⟩ := rotation_returned services now
        exact (runFrom_keeps_tokens services _ rest).spent spent
      · exact ih (List.mem_map.mpr later)

theorem accepted_once (start : Accounts) (ops : List AccountOperation) :
    (accepted services start ops).Nodup := by
  induction ops generalizing start with
  | nil => exact List.nodup_nil
  | cons op rest ih =>
      have later := ih (performAccount services start op)
      simp only [accepted, rotations, List.map_append]
      cases now : rotation services start op with
      | none => simpa [accepted] using later
      | some pair =>
          obtain ⟨_, _, _, _, _, _, _, _, _, _, _, spent, _⟩ := rotation_returned services now
          simp only [Option.toList_some, List.map_cons, List.map_nil, List.singleton_append]
          exact List.nodup_cons.mpr ⟨fun again => accepted_unspent services again spent, later⟩

theorem rotations_stored {start : Accounts} {ops : List AccountOperation} {h h' : String} {userId : Uuid}
    (rotated : (h, h') ∈ rotations services start ops)
    (stored : Stored (runFrom (performAccount services) start ops) userId h) :
    Stored (runFrom (performAccount services) start ops) userId h' := by
  induction ops generalizing start with
  | nil => cases rotated
  | cons op rest ih =>
      simp only [rotations, List.mem_append, Option.mem_toList] at rotated
      rcases rotated with now | later
      · obtain ⟨r, _, _, _, _, _, _, found, _, _, _, _, new⟩ := rotation_returned services now
        have endures := runFrom_keeps_tokens services (performAccount services start op) rest
        obtain ⟨r', found', owner⟩ := stored
        obtain ⟨_, found'', _, owner', _⟩ :=
          ((operation_keeps_tokens services start op).trans endures) h r found
        cases found'.symm.trans found''
        rw [← owner, owner']
        exact endures.stored new
      · exact ih later stored

/-- What ends the session that the token opened: a logout with its current token,
which no refresh has accepted yet, or a reset of its user's password. -/
def Ends (start : Accounts) (front : List AccountOperation) (opened : RefreshToken) :
    AccountOperation → Prop
  | .logout _ token =>
      Session services start front opened.tokenHash (services.hashToken token) ∧
        services.hashToken token ∉ accepted services start front
  | .resetPassword _ id _ _ => opened.userId = id
  | _ => False

theorem rotation_of_end {start db : Accounts} {front : List AccountOperation}
    {opened : RefreshToken} {op : AccountOperation} (ends : Ends services start front opened op) :
    rotation services db op = none := by
  cases op with
  | login ambient email password context => exact ends.elim
  | refresh ambient token context => exact ends.elim
  | updateStatus id status actorId => exact ends.elim
  | logout ambient token => rfl
  | resetPassword ambient id newPassword actorId => rfl

theorem ended_spent {start : Accounts} {front : List AccountOperation} {opened : RefreshToken}
    {op : AccountOperation}
    (there : opened ∈ (runFrom (performAccount services) start front).refreshTokens.rows)
    (ends : Ends services start front opened op) {h : String}
    (belongs : Session services start front opened.tokenHash h) :
    Spent (runFrom (performAccount services) start (front ++ [op])) h := by
  have first : Stored (runFrom (performAccount services) start front) opened.userId opened.tokenHash :=
    ⟨opened, (Table.find_some_iff (selects_refreshTokenHash _)).mpr ⟨there, beq_self_eq_true _⟩, rfl⟩
  have stored : Stored (runFrom (performAccount services) start front) opened.userId h :=
    belongs.along first fun _ _ rotated => rotations_stored services rotated
  rw [runFrom_append, runFrom_cons, runFrom_nil]
  cases op with
  | login ambient email password context => exact ends.elim
  | refresh ambient token context => exact ends.elim
  | updateStatus id status actorId => exact ends.elim
  | resetPassword ambient id newPassword actorId =>
      obtain rfl : opened.userId = id := ends
      exact resetPassword_spends services ambient stored
  | logout ambient token =>
      obtain ⟨current, unspent⟩ := ends
      by_cases before : h ∈ accepted services start front
      · exact (operation_keeps_tokens services _ _).spent (accepted_spent services before)
      -- The token that is not exchanged yet is the tip of the session, the one the logout names.
      · obtain rfl := Lineage.tip (accepted_once services start front) belongs current before unspent
        exact logout_spends services ambient stored

theorem refuseLogin_fails {A : Type} {email reason : String} {context : LoginContext}
    {user : Option User} {why : DomainError} {db t : Accounts} {value : A}
    (returned : (refuseLogin email reason context user why : AuthOp A).run handleAccount db = (.ok value, t)) :
    False := by
  obtain ⟨_, _, _, refused⟩ := Proc.run_bind_ok handleAccount returned
  cases refused

theorem login_returned {db t : Accounts} {ambient : AuthAmbient} {email password : String}
    {context : LoginContext} {tokens : AuthTokens} {authenticated : AuthenticatedUser}
    (returned : (login services ambient email password context).run handleAccount db =
      (.ok (tokens, authenticated), t)) :
    Stored t authenticated.id (services.hashToken tokens.refreshToken) := by
  simp only [login, Proc.query_bind, Proc.run] at returned
  split at returned
  next lockedUntil locked => exact (refuseLogin_fails returned).elim
  next unlocked =>
    split at returned
    next invalid =>
      split at returned
      next user found =>
        obtain ⟨_, _, _, refused⟩ := Proc.run_bind_ok handleAccount returned
        exact (refuseLogin_fails refused).elim
      next => exact (refuseLogin_fails returned).elim
    next user valid =>
      split at returned
      next inactive => exact (refuseLogin_fails returned).elim
      next active =>
        obtain ⟨_, _, _, returned⟩ := Proc.run_bind_ok handleAccount returned
        obtain ⟨_, _, _, returned⟩ := Proc.run_bind_ok handleAccount returned
        obtain ⟨issued, u, ran, returned⟩ := Proc.run_bind_ok handleAccount returned
        obtain ⟨self, v, read, returned⟩ := Proc.run_bind_ok handleAccount returned
        cases returned
        have stored := issueTokens_returned services ran
        have kept := run_keeps_tokens (toAuthenticatedUser_issues user) u
        rw [read] at kept
        unfold toAuthenticatedUser at read
        split at read <;>
          · cases read
            exact kept.stored stored

theorem session_one_live {start : Accounts} {ops : List AccountOperation} {root : String}
    {a b : RefreshToken} (there : a ∈ (runFrom (performAccount services) start ops).refreshTokens.rows)
    (there' : b ∈ (runFrom (performAccount services) start ops).refreshTokens.rows)
    (belongs : Session services start ops root a.tokenHash)
    (belongs' : Session services start ops root b.tokenHash) (live : a.revokedAt = none)
    (live' : b.revokedAt = none) : a = b := by
  have unspent {r : RefreshToken}
      (there : r ∈ (runFrom (performAccount services) start ops).refreshTokens.rows)
      (live : r.revokedAt = none) : r.tokenHash ∉ accepted services start ops := by
    intro accepts
    obtain ⟨r', found, revoked⟩ := accepted_spent services accepts
    have found' :=
      (Table.find_some_iff (selects_refreshTokenHash r.tokenHash)).mpr ⟨there, beq_self_eq_true _⟩
    cases found.symm.trans found'
    exact revoked live
  have same :=
    Lineage.tip (accepted_once services start ops) belongs belongs' (unspent there live)
      (unspent there' live')
  exact Table.eq_of_clash there there' (Or.inr same)

theorem session_closed {start : Accounts} {front back : List AccountOperation} {op : AccountOperation}
    {opened : RefreshToken}
    (there : opened ∈ (runFrom (performAccount services) start front).refreshTokens.rows)
    (ends : Ends services start front opened op) {h : String}
    (accepts : h ∈ accepted services (runFrom (performAccount services) start (front ++ [op])) back) :
    ¬ Session services start (front ++ op :: back) opened.tokenHash h := by
  intro belongs
  have ended (b : String) (old : Session services start front opened.tokenHash b) :=
    ended_spent services there ends old
  have skipped : rotation services (runFrom (performAccount services) start front) op = none :=
    rotation_of_end services ends
  rw [Session, ← List.singleton_append, ← List.append_assoc, rotations_append, rotations_append] at belongs
  simp only [rotations, skipped, Option.toList_none, List.append_nil] at belongs
  have before : Session services start front opened.tokenHash h :=
    belongs.closed fun b old again => accepted_unspent services again (ended b old)
  exact accepted_unspent services accepts (ended h before)

theorem refresh_accepts {ambient : AuthAmbient} {token : String} {context : LoginContext}
    (returned : (accountOutcome services db (.refresh ambient token context)).isOk = true) :
    ∃ stored user, db.tokenByHash (services.hashToken token) = some stored ∧
      stored.revokedAt = none ∧ ¬ stored.expiresAt < ambient.clock 0 ∧
      db.userById stored.userId = some user ∧ user.status = .active := by
  cases result : accountOutcome services db (.refresh ambient token context) with
  | error why =>
      rw [result] at returned
      cases returned
  | ok reply =>
      obtain ⟨tokens, t, refreshed, _⟩ := Proc.run_bind_ok handleAccount (Prod.ext result rfl)
      obtain ⟨stored, user, found, live, account, status, _⟩ := refresh_returned services refreshed
      simp only [RefreshToken.isLive, Bool.and_eq_true, beq_iff_eq, Bool.not_eq_true',
        decide_eq_false_iff_not] at live
      exact ⟨stored, user, found, live.1, live.2, account, status⟩

theorem login_opens_session {ambient : AuthAmbient} {email password : String} {context : LoginContext}
    {tokens : AuthTokens} {user : AuthenticatedUser}
    (returned : accountOutcome services db (.login ambient email password context) =
      .ok (.session tokens user)) :
    ∃ opened ∈ (performAccount services db
        (.login ambient email password context)).refreshTokens.rows,
      opened.tokenHash = services.hashToken tokens.refreshToken ∧ opened.userId = user.id := by
  have whole :
      (AccountOperation.execute services (.login ambient email password context)).run handleAccount db =
        (.ok (.session tokens user),
          performAccount services db (.login ambient email password context)) :=
    Prod.ext returned rfl
  obtain ⟨issued, t, ran, last⟩ := Proc.run_bind_ok handleAccount whole
  obtain ⟨ended, state⟩ := Prod.mk.inj last
  cases ended
  obtain ⟨opened, found, owner⟩ := login_returned services ran
  obtain ⟨inside, named⟩ := Table.find_some_mem found
  rw [← state]
  exact ⟨opened, inside, beq_iff_eq.mp named, owner⟩

/-- Sessions over every sequential run. A token is accepted once at most; a
session has one token at most that is not revoked; a session that has been ended
is refreshed no more; and only live tokens of active users are accepted. Every
login opens a session: the token it returns is stored for its user. -/
theorem refresh_sessions (services : AuthServices) (start : Accounts) (ops : List AccountOperation) :
    (accepted services start ops).Nodup ∧
    (∀ root, ∀ a ∈ (runFrom (performAccount services) start ops).refreshTokens.rows,
      ∀ b ∈ (runFrom (performAccount services) start ops).refreshTokens.rows,
        Session services start ops root a.tokenHash → Session services start ops root b.tokenHash →
        a.revokedAt = none → b.revokedAt = none → a = b) ∧
    (∀ front op back, ops = front ++ op :: back →
      ∀ opened ∈ (runFrom (performAccount services) start front).refreshTokens.rows,
        Ends services start front opened op →
        ∀ h ∈ accepted services (runFrom (performAccount services) start (front ++ [op])) back,
          ¬ Session services start ops opened.tokenHash h) ∧
    (∀ front ambient token context back, ops = front ++ .refresh ambient token context :: back →
      (accountOutcome services (runFrom (performAccount services) start front)
        (.refresh ambient token context)).isOk = true →
      ∃ stored user, (runFrom (performAccount services) start front).tokenByHash
        (services.hashToken token) = some stored ∧
        stored.revokedAt = none ∧ ¬ stored.expiresAt < ambient.clock 0 ∧
        (runFrom (performAccount services) start front).userById stored.userId = some user ∧
        user.status = .active) ∧
    ∀ front ambient email password context back tokens user,
      ops = front ++ .login ambient email password context :: back →
      accountOutcome services (runFrom (performAccount services) start front)
        (.login ambient email password context) =
        .ok (.session tokens user) →
      ∃ opened ∈ (runFrom (performAccount services) start
          (front ++ [.login ambient email password context])).refreshTokens.rows,
        opened.tokenHash = services.hashToken tokens.refreshToken ∧ opened.userId = user.id := by
  refine ⟨accepted_once services start ops, ?_, ?_, ?_, ?_⟩
  · intro root a inside b inside' belongs belongs' live live'
    exact session_one_live services inside inside' belongs belongs' live live'
  · rintro front op back rfl opened there ends h accepts
    exact session_closed services there ends accepts
  · rintro front ambient token context back - returned
    exact refresh_accepts services returned
  · rintro front ambient email password context back tokens user - returned
    rw [runFrom_append, runFrom_cons, runFrom_nil]
    exact login_opens_session services returned

end Runs

/-- A login, two rotations, a replay of the first token, a logout, and a refresh after it. -/
def rotatedTwice : List AccountOperation :=
  [.login { opaqueToken := "t0", freshId := "s0" } "awa@fsf.sn" "secret" {},
    .refresh { opaqueToken := "t1", freshId := "s1" } "t0" {},
    .refresh { opaqueToken := "t2", freshId := "s2" } "t1" {},
    .refresh { opaqueToken := "t3", freshId := "s3" } "t0" {},
    .logout {} "t2",
    .refresh { opaqueToken := "t4", freshId := "s4" } "t2" {}]

example : rotations sampleAuth sampleAccounts rotatedTwice = [("ht0", "ht1"), ("ht1", "ht2")] := by decide

end AccreditationBackend
