import AccreditationBackend.Iam.Effects
import AccreditationBackend.Iam.Sessions

/-! One refresh token presented by several calls at once.

A refresh looks the token up and revokes it in two statements, and the second
one does not look again. The token is exchanged once as long as every revocation
meets it unrevoked.
-/

set_option autoImplicit false

namespace AccreditationBackend

open Foundation

/-- How far a call has come with the token: it has revoked it, or issued another one for it. -/
inductive Exchange where
  | waiting | revoking | issued
  deriving DecidableEq, Repr

/-- A revocation by id finds its token unrevoked. -/
def meetsUnrevoked (e : Event accountStore Accounts) : Bool :=
  match e.stmt with
  | .revokeRefreshToken id _ => (e.before.refreshTokens.find (·.id == id)).any (·.revokedAt == none)
  | _ => true

/-! ## The outline of a refresh -/

/-- The token revoked is the one presented, and another one is issued only after that. -/
def rotationDiscipline (tokenHash : String) (id : Uuid) : Discipline accountStore Accounts Exchange where
  Knows _ db := ∀ r, db.tokenByHash tokenHash = some r → r.id = id
  Grants e := meetsUnrevoked e = true
  Commits g e g' :=
    match e.stmt with
    | .revokeRefreshToken id' _ => id' = id ∧ g = .waiting ∧ g' = .revoking
    | .createRefreshToken _ => g = .revoking ∧ g' = .issued
    | _ => False

section Outline

variable (services : AuthServices) {ambient : AuthAmbient} {token : String} {context : LoginContext}
  {id : Uuid}

/-- Of the discipline of a refresh the caller shows two steps: the revocation of a
token that was live when it was read, and the creation of a token for its user. -/
theorem refresh_rule {γ : Type} {d : Discipline accountStore Accounts γ}
    {Q : Except AuthFailure AuthTokens → γ → Prop} {g : γ} (refused : ∀ why, Q (.error why) g)
    (exchanged : ∀ db stored, d.Knows g db → db.tokenByHash (services.hashToken token) = some stored →
      stored.isLive (ambient.clock 0) = true →
      ∀ s, d.Grants (handleAccount.event (.revokeRefreshToken stored.id (ambient.clock 1)) s) →
        ∃ g₁, d.Commits g (handleAccount.event (.revokeRefreshToken stored.id (ambient.clock 1)) s) g₁ ∧
          (∀ why, Q (.error why) g₁) ∧
          ∀ row s', row.userId = stored.userId →
            ∃ g₂, d.Commits g₁ (handleAccount.event (.createRefreshToken row) s') g₂ ∧ ∀ r, Q r g₂) :
    (refresh services ambient token context).Outline handleAccount d Q g := by
  unfold refresh
  rw [Proc.query_bind]
  intro db knows
  dsimp only
  cases live : (db.tokenByHash (services.hashToken token)).filter (·.isLive (ambient.clock 0)) with
  | none => exact refused _
  | some stored =>
      obtain ⟨found, alive⟩ := Option.filter_eq_some_iff.mp live
      rw [orUnauthorized_some_bind, findById, Proc.query_bind]
      intro db' _
      dsimp only
      cases active : (db'.userById stored.userId).filter (·.status == .active) with
      | none => exact refused _
      | some user =>
          have owner := userById_id (Option.filter_eq_some_iff.mp active).1
          rw [orUnauthorized_some_bind, writeAccount_bind]
          intro s _ granted
          obtain ⟨g₁, revoked, stuck, creates⟩ := exchanged db stored knows found alive s granted
          refine ⟨g₁, revoked, ?_⟩
          cases handleAccount (.revokeRefreshToken stored.id (ambient.clock 1)) s with
          | error why => exact stuck why
          | ok result =>
              unfold issueTokens
              rw [writeAccount_bind]
              intro s' _ _
              refine (creates _ s' ?mine).imp fun g₂ issued => ⟨issued.1, ?ended⟩
              case mine => exact owner
              case ended =>
                cases handleAccount (.createRefreshToken _) s' with
                | error why => exact issued.2 _
                | ok result => exact issued.2 _

theorem refresh_outline :
    (refresh services ambient token context).Outline handleAccount
      (rotationDiscipline (services.hashToken token) id)
      (fun r g => r.isOk = true → g = .issued) .waiting := by
  have refused {g : Exchange} (why : AuthFailure)
      (ok : (Except.error (α := AuthTokens) why).isOk = true) : g = .issued := by cases ok
  refine refresh_rule services refused fun db stored knows found _ s _ => ?_
  obtain rfl : stored.id = id := knows stored found
  exact ⟨.revoking, ⟨rfl, rfl, rfl⟩, refused, fun _ _ _ => ⟨.issued, ⟨rfl, rfl⟩, fun _ _ => rfl⟩⟩

theorem execute_refresh_outline :
    ((AccountOperation.refresh ambient token context).execute services).Outline handleAccount
      (rotationDiscipline (services.hashToken token) id) (fun r g => r.isOk = true →
        g = .issued) .waiting := by
  refine Proc.outline_seq (refresh_outline services) fun r g issued => ?_
  cases r with
  | error why => exact issued
  | ok tokens => exact fun _ => issued rfl

end Outline

/-! ## Every interleaving -/

section Play

variable {ι : Type} {tokenHash : String} {id : Uuid} {start db : Accounts} {g : ι → Exchange}

/-- One call at most has left the wait, and only its token is new. -/
structure Exchanged (tokenHash : String) (id : Uuid) (start db : Accounts) (g : ι → Exchange) : Prop where
  there : ∃ r, db.tokenByHash tokenHash = some r ∧ r.id = id
  waits : (∃ r, db.tokenByHash tokenHash = some r ∧ r.revokedAt = none) → ∀ i, g i = .waiting
  one : ∀ i j, g i ≠ .waiting → g j ≠ .waiting → i = j
  fresh : (∀ i, g i ≠ .issued) → db.refreshTokens.column (·.id) = start.refreshTokens.column (·.id)
  single : ∀ a ∈ db.refreshTokens.rows, ∀ b ∈ db.refreshTokens.rows,
    a.id ∉ start.refreshTokens.column (·.id) → b.id ∉ start.refreshTokens.column (·.id) → a = b

theorem Exchanged.there_kept (exchanged : Exchanged tokenHash id start db g)
    {stmt : AccountStatement} (people : stmt.keepsPeople = true) :
    ∃ r, (handleAccount.after stmt db).tokenByHash tokenHash = some r ∧ r.id = id := by
  obtain ⟨r, found, named⟩ := exchanged.there
  obtain ⟨r', found', same, _⟩ := statement_keeps_tokens people db tokenHash r found
  exact ⟨r', found', same.trans named⟩

theorem Exchanged.none_new (exchanged : Exchanged tokenHash id start db g)
    (none_ : ∀ i, g i ≠ .issued) {a : RefreshToken} (inside : a ∈ db.refreshTokens.rows) :
    a.id ∈ start.refreshTokens.column (·.id) := by
  rw [← exchanged.fresh none_]
  exact List.mem_map_of_mem inside

theorem revoke_column (db : Accounts) (id' : Uuid) (revokedAt : Time) :
    (handleAccount.after (.revokeRefreshToken id' revokedAt) db).refreshTokens.column (·.id) =
      db.refreshTokens.column (·.id) := by
  rcases account_after_cases (.revokeRefreshToken id' revokedAt) db with same | ⟨reply, applied⟩
  · rw [same]
  · simp only [AccountTables.apply, bind_ok, pure_ok, Prod.mk.injEq] at applied
    obtain ⟨_, _, _, same⟩ := applied
    rw [← same]
    exact Table.column_update _ _ _ (RefreshToken.revoke_key revokedAt) _ fun _ => rfl

variable [DecidableEq ι]

/-- A revocation that meets the token unrevoked is the first one. -/
theorem Exchanged.revoked (exchanged : Exchanged tokenHash id start db g) {i : ι} {revokedAt : Time}
    (met : meetsUnrevoked (handleAccount.event (.revokeRefreshToken id revokedAt) db) = true) :
    Exchanged tokenHash id start (handleAccount.after (.revokeRefreshToken id revokedAt) db)
      (Function.update g i .revoking) := by
  obtain ⟨r, found, named⟩ := exchanged.there
  have byId : db.refreshTokens.find (·.id == id) = some r :=
    (Table.find_some_iff (selects_refreshTokenId id)).mpr
    ⟨(Table.find_some_mem found).1, beq_iff_eq.mpr named⟩
  have live : r.revokedAt = none := by simpa [meetsUnrevoked, byId] using met
  have waiting := exchanged.waits ⟨r, found, live⟩
  have spent : Spent (handleAccount.after (.revokeRefreshToken id revokedAt) db) tokenHash :=
    revokeRefreshToken_spent found named (handleAccount_replies (apply_revokeRefreshToken byId revokedAt))
  have same := revoke_column db id revokedAt
  have none_new (a : RefreshToken)
    (inside : a ∈ (handleAccount.after (.revokeRefreshToken id revokedAt) db).refreshTokens.rows) :
      a.id ∈ start.refreshTokens.column (·.id) := by
    rw [← exchanged.fresh fun i => by rw [waiting i]; decide, ← same]
    exact List.mem_map_of_mem inside
  have left (j : ι) (moved : Function.update g i .revoking j ≠ .waiting) : j = i := by
    by_contra other
    rw [Function.update_of_ne other] at moved
    exact moved (waiting j)
  refine ⟨exchanged.there_kept rfl, ?_,
    fun j k moved moved' => (left j moved).trans (left k moved').symm, fun _ => ?_, ?_⟩
  · rintro ⟨r', found', live'⟩
    obtain ⟨r'', found'', revoked⟩ := spent
    cases found'.symm.trans found''
    exact absurd live' revoked
  · rw [same]
    exact exchanged.fresh fun i => by rw [waiting i]; decide
  · exact fun a inside _ _ new _ => absurd (none_new a inside) new

/-- The one call that has revoked the token issues the one new token. -/
theorem Exchanged.created (exchanged : Exchanged tokenHash id start db g) {i : ι}
    (revoking : g i = .revoking) (row : RefreshToken) :
    Exchanged tokenHash id start (handleAccount.after (.createRefreshToken row) db)
      (Function.update g i .issued) := by
  have alone (j : ι) (other : j ≠ i) : g j = .waiting := by
    by_contra moved
    exact other (exchanged.one j i moved (by rw [revoking]; decide))
  have none_ (j : ι) : g j ≠ .issued := by
    by_cases this : j = i
    · rw [this, revoking]
      decide
    · rw [alone j this]
      decide
  obtain ⟨r, found, _⟩ := exchanged.there
  have unmoved (j : ι) (moved : Function.update g i .issued j ≠ .waiting) : j = i := by
    by_contra other
    rw [Function.update_of_ne other] at moved
    exact moved (alone j other)
  refine ⟨exchanged.there_kept rfl, ?_, fun j k moved moved' => (unmoved j moved).trans (unmoved k moved').symm,
    fun never => absurd (Function.update_self i .issued g) (never i), ?_⟩
  · rintro ⟨r', found', live'⟩
    have people : (AccountStatement.createRefreshToken row).keepsPeople = true := rfl
    obtain ⟨r'', found'', _, _, live⟩ := statement_keeps_tokens people db tokenHash r found
    cases found'.symm.trans found''
    have waiting := exchanged.waits ⟨r, found, live live'⟩ i
    rw [revoking] at waiting
    cases waiting
  · rcases account_after_cases (.createRefreshToken row) db with same | ⟨reply, applied⟩
    · rw [same]
      exact exchanged.single
    · simp only [AccountTables.apply, bind_ok, orFail_ok, require_ok, pure_ok, Prod.mk.injEq] at applied
      obtain ⟨_, _, refreshTokens, inserted, _, same⟩ := applied
      have newest (a : RefreshToken) (inside : a ∈ refreshTokens.rows)
        (new : a.id ∉ start.refreshTokens.column (·.id)) :
          a = row := by
        rw [Table.insert_rows inserted, List.mem_append, List.mem_singleton] at inside
        exact inside.resolve_left fun old => new (exchanged.none_new none_ old)
      rw [← same]
      exact fun a inside b inside' new new' => (newest a inside new).trans (newest b inside' new').symm

theorem Exchanged.step (exchanged : Exchanged tokenHash id start db g) {i : ι}
    {stmt : AccountStatement} {g' : Exchange}
    (met : meetsUnrevoked (handleAccount.event stmt db) = true)
    (commits : (rotationDiscipline tokenHash id).Commits (g i) (handleAccount.event stmt db) g') :
    Exchanged tokenHash id start (handleAccount.after stmt db) (Function.update g i g') := by
  cases stmt
  case revokeRefreshToken id' revokedAt =>
    obtain ⟨rfl, _, rfl⟩ := commits
    exact exchanged.revoked met
  case createRefreshToken row =>
    obtain ⟨revoking, rfl⟩ := commits
    exact exchanged.created revoking row
  all_goals exact commits.elim

end Play

/-- Calls that all present one refresh token. -/
def presenting {ι : Type} (token : String) (ambient : ι → AuthAmbient) (context : ι → LoginContext)
    (i : ι) : AccountOperation := .refresh (ambient i) token (context i)

/-- The call has ended, and returned. -/
def hasReturned (p : AuthOp AccountReply) : Bool := p.ended.any (·.isOk)

/-- However many calls present one refresh token at once, one at most returns and
one token at most is issued, as long as each revocation meets the token unrevoked. -/
theorem rotated_once {ι : Type} [DecidableEq ι] (services : AuthServices) (start : Accounts) (token : String)
    {stored : RefreshToken} (found : start.tokenByHash (services.hashToken token) = some stored)
    (ambient : ι → AuthAmbient) (context : ι → LoginContext) (schedule : List ι)
    (met : ∀ x ∈ ((accountPool services start (presenting token ambient context)).play handleAccount schedule).1,
      meetsUnrevoked x.2 = true) :
    (∀ i j,
      hasReturned (((accountPool services start (presenting token ambient context)).play handleAccount
        schedule).2.procs i) →
      hasReturned (((accountPool services start (presenting token ambient context)).play handleAccount
        schedule).2.procs j) →
        i = j) ∧
    ∀ a ∈ ((accountPool services start (presenting token ambient context)).play handleAccount
        schedule).2.store.refreshTokens.rows,
      ∀ b ∈ ((accountPool services start (presenting token ambient context)).play handleAccount
          schedule).2.store.refreshTokens.rows,
        a.id ∉ start.refreshTokens.column (·.id) → b.id ∉ start.refreshTokens.column (·.id) →
        a.revokedAt = none → b.revokedAt = none → a = b := by
  have exchanged₀ :
      Exchanged (services.hashToken token) stored.id start start (fun _ : ι => Exchange.waiting) :=
    ⟨⟨stored, found, rfl⟩, fun _ _ => rfl, fun _ _ moved => absurd rfl moved, fun _ => rfl,
      fun a inside _ _ new _ => absurd (List.mem_map_of_mem inside) new⟩
  obtain ⟨g, exchanged, outlines⟩ := Pool.play_outline handleAccount
    (rotationDiscipline (services.hashToken token) stored.id)
    (J := fun _ => Exchanged (services.hashToken token) stored.id start)
    (F := fun _ _ e => meetsUnrevoked e = true)
    (Q := fun _ r g => r.isOk = true → g = .issued)
    (fun _ s _ _ exchanged r found' => by
      obtain ⟨r', found'', named⟩ := exchanged.there
      cases found'.symm.trans found''
      exact named)
    (fun _ _ _ granted => granted)
    (fun _ _ _ _ _ _ exchanged granted commits => exchanged.step granted commits)
    schedule (accountPool services start (presenting token ambient context)) []
      (fun _ => .waiting) exchanged₀
    (fun i => execute_refresh_outline services)
    (fun front i e back split => met (i, e) (by rw [split]; simp))
  have issued (i : ι)
      (returned : hasReturned (((accountPool services start (presenting token ambient context)).play
        handleAccount schedule).2.procs i) = true) : g i ≠ .waiting := by
    obtain ⟨r, ended, ok⟩ := (Option.any_eq_true _ _).mp returned
    rw [Proc.outline_ended handleAccount _ (outlines i) ended ok]
    decide
  refine ⟨fun i j first second => exchanged.one i j (issued i first) (issued j second), ?_⟩
  exact fun a inside b inside' new new' _ _ => exchanged.single a inside b inside' new new'

/-! ## A token refreshed twice -/

/-- One session, just opened. -/
def sessionOpened : Accounts :=
  performAccount sampleAuth sampleAccounts
    (.login { opaqueToken := "t0", freshId := "s0" } "awa@fsf.sn" "secret" {})

def freshTokens : Fin 2 → AuthAmbient
  | 0 => { opaqueToken := "t1", freshId := "s1" }
  | 1 => { opaqueToken := "t2", freshId := "s2" }

def bothPresent : Pool (Fin 2) accountStore Accounts AuthFailure AccountReply :=
  accountPool sampleAuth sessionOpened (presenting "t0" freshTokens fun _ => {})

/-- Both calls read the token before either revokes it: both return, and two new tokens are live. -/
theorem rotated_twice_at_once :
    (∃ stored, sessionOpened.tokenByHash (sampleAuth.hashToken "t0") = some stored ∧
      stored.isLive 0 = true) ∧
    ¬ (∀ i j, hasReturned ((bothPresent.play handleAccount [0, 1, 0, 1, 0, 1, 0, 1]).2.procs i) →
        hasReturned ((bothPresent.play handleAccount [0, 1, 0, 1, 0, 1, 0, 1]).2.procs j) → i = j) ∧
    ¬ ∀ a ∈ (bothPresent.play handleAccount [0, 1, 0, 1, 0, 1, 0, 1]).2.store.refreshTokens.rows,
        ∀ b ∈ (bothPresent.play handleAccount [0, 1, 0, 1, 0, 1, 0, 1]).2.store.refreshTokens.rows,
          a.id ∉ sessionOpened.refreshTokens.column (·.id) →
            b.id ∉ sessionOpened.refreshTokens.column (·.id) →
          a.revokedAt = none → b.revokedAt = none → a = b := by
  refine ⟨?_, fun one => ?_, by decide⟩
  · have live :
        (sessionOpened.tokenByHash (sampleAuth.hashToken "t0")).any (·.isLive 0) = true := by decide
    exact (Option.any_eq_true _ _).mp live
  · cases one 0 1 (by decide) (by decide)

/-- The first call reads and revokes before the second one reads. -/
theorem rotated_once_in_turn :
    hasReturned ((bothPresent.play handleAccount [0, 0, 0, 1, 0, 1, 1, 1]).2.procs 0) = true ∧
      ¬ hasReturned ((bothPresent.play handleAccount [0, 0, 0, 1, 0, 1, 1, 1]).2.procs 1) = true := by
  obtain ⟨stored, found⟩ : ∃ stored, sessionOpened.tokenByHash (sampleAuth.hashToken "t0") =
    some stored :=
    Option.isSome_iff_exists.mp (by decide)
  have first :
      hasReturned ((bothPresent.play handleAccount [0, 0, 0, 1, 0, 1, 1, 1]).2.procs 0) =
        true := by decide
  refine ⟨first, fun second => ?_⟩
  cases (rotated_once sampleAuth sessionOpened "t0" found freshTokens (fun _ => {}) [0, 0, 0, 1, 0, 1, 1, 1]
    (by decide)).1 0 1 first second

end AccreditationBackend
