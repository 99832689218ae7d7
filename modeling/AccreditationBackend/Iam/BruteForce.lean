import AccreditationBackend.Foundation.Staged
import AccreditationBackend.Iam.Lockout

/-! Wrong passwords tried by many calls at once.

A login tests the lock when it reads the account, and counts its failure only
after it has verified the password. Calls that read the account before the lock
is written are all verified, however many they are.
-/

set_option autoImplicit false

namespace AccreditationBackend

open Foundation

/-- One call that tries a password. -/
structure Guess where
  ambient : AuthAmbient := {}
  email : String
  password : String
  context : LoginContext := {}

def Guess.call (guess : Guess) : AccountOperation :=
  .login guess.ambient guess.email guess.password guess.context

/-- A wrong password for an account that is not locked, within one lockout of an instant. -/
structure Guess.Wrong (services : AuthServices) (user : User) (since : Time) (guess : Guess) : Prop where
  named : services.toLowerCase guess.email = user.email
  wrong : services.verifyPassword user.passwordHash guess.password = false
  free : user.lockAt (guess.ambient.clock 0) = none
  recent : ∀ k, since ≤ guess.ambient.clock k ∧
    guess.ambient.clock k < since + services.config.lockoutDuration

/-- How far a call has come. It is refused for the lock that it met, or for its password. -/
inductive Attempt where
  | untested
  | verifying
  | locking
  | refusing (lock : Option Time)
  | refused (lock : Option Time)

def refusalReason : Option Time → String
  | some _ => "ACCOUNT_LOCKED"
  | none => "INVALID_CREDENTIALS"

def refusalError : Option Time → DomainError
  | some lockedUntil => accountLocked lockedUntil
  | none => invalidCredentials

/-- The call got as far as having its password verified. -/
def Attempt.verified : Attempt → Bool
  | .untested => false
  | .verifying => true
  | .locking => true
  | .refusing lock => lock.isNone
  | .refused lock => lock.isNone

/-- The failure is on the counter. -/
def Attempt.counted : Attempt → Bool
  | .verifying => false
  | stage => stage.verified

section Stages

variable (services : AuthServices) (user : User) (guess : Guess)

def Guess.refusal (lock : Option Time) : AuthOp AccountReply :=
  refuseLogin guess.email (refusalReason lock) guess.context (some user) (refusalError lock)

/-- What is left of the call at a stage. -/
def Guess.remaining : Attempt → AuthOp AccountReply
  | .untested => guess.call.execute services
  | .verifying => do
      let _ ← recordFailedLogin services.config guess.ambient user.id
      guess.refusal user none
  | .locking => do
      let _ ← writeAccount (.updateUser user.id {
        lockedUntil := some (some (guess.ambient.clock 1 + services.config.lockoutDuration)) })
      guess.refusal user none
  | .refusing lock => guess.refusal user lock
  | .refused lock => refuse (refusalError lock)

variable {services user guess} {db : Accounts} {u : User} {since : Time}

/-- The stage that a call reaches when it reads the account. -/
def Guess.tested (guess : Guess) (u : User) : Attempt :=
  match u.lockAt (guess.ambient.clock 0) with
  | some lockedUntil => .refusing (some lockedUntil)
  | none => .verifying

theorem refuseLogin_continued {A B : Type} (email reason : String) (context : LoginContext)
    (found : Option User) (why : DomainError) (f : A → AuthOp B) :
    (refuseLogin email reason context found why >>= f) = refuseLogin email reason context found why := rfl

theorem Guess.reads (services : AuthServices) (user : User) (guess : Guess) :
    ∃ next, guess.remaining services user .untested = .read next ∧
    ∀ db u, db.userByEmail (services.toLowerCase guess.email) = some u → u.id = user.id →
      services.verifyPassword u.passwordHash guess.password = false →
      next db = guess.remaining services user (guess.tested u) := by
  unfold Guess.remaining Guess.call AccountOperation.execute AccreditationBackend.login
  dsimp only
  rw [Proc.query_bind, Proc.read_bind]
  refine ⟨_, rfl, fun db u found same wrong => ?_⟩
  have refused (lock : Option Time) : (refuseLogin guess.email (refusalReason lock) guess.context (some u)
      (refusalError lock) : AuthOp AccountReply) = guess.refusal user lock := by
    rw [Guess.refusal, refuseLogin, refuseLogin, Option.map_some, Option.map_some, same]
  rw [found, Option.bind_some, Guess.tested, User.lockAt]
  cases u.lockedUntil.filter (guess.ambient.clock 0 < ·) with
  | some lockedUntil => exact refused (some lockedUntil)
  | none =>
      dsimp only
      rw [Option.filter_some, wrong]
      simp only [Bool.false_eq_true, if_false]
      rw [Proc.bind_assoc, same]
      simp only [refuseLogin_continued]
      exact congrArg _ (funext fun _ => refused none)

/-- The stage that a call reaches with the counter that its increment returned. -/
def Attempt.onceCounted (config : AuthConfig) (u : User) : Attempt :=
  if u.failedLoginAttempts < config.maxFailedLoginAttempts then .refusing none else .locking

theorem Guess.counts (services : AuthServices) (user : User) (guess : Guess) :
    ∃ next, guess.remaining services user .verifying =
      .exec (.updateUser user.id { failedLoginAttempts := some (.increment 1) }) next ∧
    ∀ u : User, next u = guess.remaining services user (.onceCounted services.config u) := by
  unfold Guess.remaining recordFailedLogin
  dsimp only
  rw [writeAccount_bind, Proc.exec_bind]
  refine ⟨_, rfl, fun u => ?_⟩
  rw [Attempt.onceCounted]
  split <;> rfl

theorem Guess.locks (guess : Guess) : guess.remaining services user .locking =
    .exec (.updateUser user.id
      { lockedUntil := some (some (guess.ambient.clock 1 + services.config.lockoutDuration)) })
      fun _ => guess.remaining services user (.refusing none) := rfl

theorem Guess.refuses (guess : Guess) (lock : Option Time) :
    guess.remaining services user (.refusing lock) =
    .exec (.publish (.loginFailed guess.email (refusalReason lock) guess.context.ipAddress guess.context.userAgent
        (some user.id)))
      fun _ => guess.remaining services user (.refused lock) := rfl

end Stages

/-! ## Every interleaving -/

/-- The statement writes the end of a lock. -/
def AccountStatement.setsLock : AccountStatement → Bool
  | .updateUser _ data => data.lockedUntil.isSome
  | _ => false

section Race

variable {ι : Type} [DecidableEq ι] (services : AuthServices) (start : Accounts) (guess : ι → Guess)

def guesses : Pool ι accountStore Accounts AuthFailure AccountReply :=
  accountPool services start fun i => (guess i).call

/-- A statement that writes the lock has been executed. -/
def LockWritten (schedule : List ι) : Prop :=
  ∃ x ∈ ((guesses services start guess).play handleAccount schedule).1, x.2.stmt.setsLock = true

/-- Each call that begins after the threshold of others finds the lock written. -/
def LockedInTime (schedule : List ι) : Prop :=
  ∀ front i back, schedule = front ++ i :: back → i ∉ front →
    services.config.maxFailedLoginAttempts ≤ front.toFinset.card → LockWritten services start guess front

variable {services start guess}

theorem lockedInTime_snoc {front : List ι} {i : ι} :
    LockedInTime services start guess (front ++ [i]) ↔ LockedInTime services start guess front ∧
      (i ∉ front → services.config.maxFailedLoginAttempts ≤ front.toFinset.card →
        LockWritten services start guess front) := by
  constructor
  · refine fun whole => ⟨fun front' j back split => ?_, whole front i [] rfl⟩
    exact whole front' j (back ++ [i]) (by rw [split]; simp)
  · rintro ⟨before, last⟩ front' j back split
    rcases List.eq_nil_or_concat back with rfl | ⟨back', k, rfl⟩
    · obtain ⟨rfl, same⟩ := List.append_inj' split rfl
      cases same
      exact last
    · rw [List.concat_eq_append, ← List.cons_append, ← List.append_assoc] at split
      exact before front' j back' (List.append_inj' split rfl).1

theorem lockWritten_snoc {front : List ι} {i : ι} :
    LockWritten services start guess (front ++ [i]) ↔ LockWritten services start guess front ∨
      ∃ x ∈ (((guesses services start guess).play handleAccount front).2.turn handleAccount i).1,
        x.2.stmt.setsLock = true := by
  simp only [LockWritten, Pool.play_snoc, List.mem_append, or_and_right, exists_or]

/-- The row of the account after some failures on the counter, with the lock written or not. -/
structure Guessed (user : User) (guess : ι → Guess) (written : Prop) (failures : Nat) (u : User) : Prop where
  email : u.email = user.email
  passwordHash : u.passwordHash = user.passwordHash
  counter : u.failedLoginAttempts = user.failedLoginAttempts + failures
  locked : written → ∀ i, u.lockAt ((guess i).ambient.clock 0) ≠ none
  free : ¬ written → u.lockedUntil = user.lockedUntil

variable [Fintype ι]

structure Race (services : AuthServices) (start : Accounts) (user : User) (guess : ι → Guess) (front : List ι)
    (g : ι → Attempt) : Prop where
  row : ∃ u, ((guesses services start guess).play handleAccount front).2.store.userById user.id = some u ∧
    Guessed user guess (LockWritten services start guess front) (standing Attempt.counted g) u
  begun : ∀ i, g i = .untested ↔ i ∉ front
  unlocked : ¬ LockWritten services start guess front → ∀ i ∈ front, (g i).verified = true
  due : 0 < standing Attempt.counted g →
    services.config.maxFailedLoginAttempts ≤ standing Attempt.counted g →
    LockWritten services start guess front ∨ ∃ i, g i = .locking
  bounded : LockedInTime services start guess front ↔
    standing Attempt.verified g ≤ services.config.maxFailedLoginAttempts

variable {user : User} {since : Time} {front : List ι} {g : ι → Attempt} {i : ι} {stage : Attempt}

/-- A call that has begun advances: nothing but the row, and what is due, can change. -/
theorem Race.advance (race : Race services start user guess front g) (begun : g i ≠ .untested)
    (still : stage ≠ .untested) (same : stage.verified = (g i).verified)
    (row : ∃ u,
      (((guesses services start guess).play handleAccount front).2.turn handleAccount i).2.store.userById
        user.id = some u ∧ Guessed user guess (LockWritten services start guess (front ++ [i]))
        (standing Attempt.counted (Function.update g i stage)) u)
    (due : 0 < standing Attempt.counted (Function.update g i stage) →
      services.config.maxFailedLoginAttempts ≤ standing Attempt.counted (Function.update g i stage) →
      LockWritten services start guess (front ++ [i]) ∨ ∃ j, Function.update g i stage j = .locking) :
    Race services start user guess (front ++ [i]) (Function.update g i stage) := by
  have inside : i ∈ front := by
    by_contra outside
    exact begun ((race.begun i).mpr outside)
  refine ⟨by simpa only [Pool.play_snoc] using row, fun j => ?_, fun unwritten j member => ?_, due, ?_⟩
  · by_cases moved : j = i
    · subst moved
      simp [still, inside]
    · simp [moved, race.begun j]
  · have before : ¬ LockWritten services start guess front :=
      fun written => unwritten (lockWritten_snoc.mpr (.inl written))
    by_cases moved : j = i
    · subst moved
      rw [Function.update_self, same]
      exact race.unlocked before j inside
    · rw [Function.update_of_ne moved]
      exact race.unlocked before j (by simpa [moved] using member)
  · rw [standing_kept same, lockedInTime_snoc, ← race.bounded]
    exact and_iff_left fun outside => absurd inside outside

/-- Until the lock is written, the calls that have begun are the calls that are verified. -/
theorem Race.all_verified (race : Race services start user guess front g)
    (unwritten : ¬ LockWritten services start guess front) :
    standing Attempt.verified g = front.toFinset.card := by
  unfold standing
  congr 1
  ext j
  rw [Finset.mem_filter, List.mem_toFinset]
  refine ⟨fun both => ?_, fun member => ⟨Finset.mem_univ j, race.unlocked unwritten j member⟩⟩
  by_contra outside
  rw [(race.begun j).mpr outside] at both
  cases both.2

omit [DecidableEq ι] [Fintype ι] in
/-- What a call does with the account that it reads: it is refused exactly when the lock is written. -/
theorem Guessed.tested {written : Prop} {failures : Nat} {u : User}
    (guessed : Guessed user guess written failures u) (wrong : (guess i).Wrong services user since) :
    (guess i).tested u = .verifying ∧ ¬ written ∨
      ∃ lockedUntil, (guess i).tested u = .refusing (some lockedUntil) ∧ written := by
  by_cases locked : written
  · cases lock : u.lockAt ((guess i).ambient.clock 0) with
    | none => exact absurd lock (guessed.locked locked i)
    | some lockedUntil => exact .inr ⟨lockedUntil, by rw [Guess.tested, lock], locked⟩
  · refine .inl ⟨?_, locked⟩
    rw [Guess.tested, User.lockAt, guessed.free locked, ← User.lockAt, wrong.free]

/-- A call that begins enters the race: verified, or refused once the lock is written. -/
theorem Race.enter (race : Race services start user guess front g) (fresh : g i = .untested)
    (stays : (((guesses services start guess).play handleAccount front).2.turn handleAccount i).2.store =
      ((guesses services start guess).play handleAccount front).2.store)
    (still : LockWritten services start guess (front ++ [i]) ↔ LockWritten services start guess front)
    (stages : stage = .verifying ∧ ¬ LockWritten services start guess front ∨
      ∃ lockedUntil, stage = .refusing (some lockedUntil) ∧ LockWritten services start guess front) :
    Race services start user guess (front ++ [i]) (Function.update g i stage) := by
  obtain ⟨u, row, guessed⟩ := race.row
  have outside : i ∉ front := (race.begun i).mp fresh
  have uncounted : standing Attempt.counted (Function.update g i stage) = standing Attempt.counted g := by
    refine standing_kept ?_
    rcases stages with ⟨rfl, _⟩ | ⟨lockedUntil, rfl, _⟩ <;>
      simp [fresh, Attempt.counted, Attempt.verified]
  refine ⟨⟨u, by rw [Pool.play_snoc, stays]; exact row, by rw [still, uncounted]; exact guessed⟩,
    fun j => ?_, fun unlocked j member => ?_, fun some_ reached => ?_, ?_⟩
  · by_cases moved : j = i
    · subst moved
      rcases stages with ⟨rfl, _⟩ | ⟨lockedUntil, rfl, _⟩ <;> simp
    · simp [moved, race.begun j]
  · rw [still] at unlocked
    by_cases moved : j = i
    · subst moved
      rw [Function.update_self]
      rcases stages with ⟨rfl, _⟩ | ⟨lockedUntil, rfl, locked⟩
      · rfl
      · exact absurd locked unlocked
    · rw [Function.update_of_ne moved]
      exact race.unlocked unlocked j (by simpa [moved] using member)
  · rw [uncounted] at some_ reached
    rw [still]
    refine (race.due some_ reached).imp id fun ⟨j, locking⟩ => ⟨j, ?_⟩
    rwa [Function.update_of_ne]
    rintro rfl
    cases fresh.symm.trans locking
  · rw [lockedInTime_snoc, race.bounded]
    rcases stages with ⟨rfl, unlocked⟩ | ⟨lockedUntil, rfl, locked⟩
    · rw [standing_entered (by rw [fresh]; rfl) rfl, race.all_verified unlocked]
      simp only [outside, unlocked, not_false_eq_true, true_implies, imp_false, not_le]
      omega
    · rw [standing_kept (by simp [fresh, Attempt.verified])]
      exact and_iff_left fun _ _ => locked

/-- A call begins: it is verified unless the lock is written by then. -/
theorem Race.begin_ (race : Race services start user guess front g)
    (wrong : ∀ j, (guess j).Wrong services user since) (fresh : g i = .untested)
    (placed : ((guesses services start guess).play handleAccount front).2.procs i =
      (guess i).remaining services user (g i)) :
    ∃ stage, Race services start user guess (front ++ [i]) (Function.update g i stage) ∧
      (((guesses services start guess).play handleAccount front).2.turn handleAccount i).2.procs i =
        (guess i).remaining services user stage := by
  obtain ⟨u, row, guessed⟩ := race.row
  obtain ⟨next, reads, leads⟩ := Guess.reads services user (guess i)
  rw [fresh, reads] at placed
  have turned := Pool.turn_read handleAccount _ placed
  have found : ((guesses services start guess).play handleAccount front).2.store.userByEmail
      (services.toLowerCase (guess i).email) = some u := by
    rw [(wrong i).named, ← guessed.email]
    exact userById_email row
  have tested := leads _ u found (userById_id row) (by rw [guessed.passwordHash]; exact (wrong i).wrong)
  have still :
      LockWritten services start guess (front ++ [i]) ↔ LockWritten services start guess front := by
    rw [lockWritten_snoc, turned]
    simp
  exact ⟨(guess i).tested u, race.enter fresh (by rw [turned]) still (guessed.tested (wrong i)),
    by rw [turned]; simpa using tested⟩

omit [Fintype ι] in
theorem lockWritten_kept {e : Event accountStore Accounts}
    {pool : Pool ι accountStore Accounts AuthFailure AccountReply}
    (turned : ((guesses services start guess).play handleAccount front).2.turn handleAccount i = ([(i, e)], pool))
    (other : e.stmt.setsLock = false) :
    LockWritten services start guess (front ++ [i]) ↔ LockWritten services start guess front := by
  rw [lockWritten_snoc, turned]
  simp [other]

/-- A call that counts no failure now owes no lock either. -/
theorem Race.due_kept (race : Race services start user guess front g) (other : g i ≠ .locking)
    (same : stage.counted = (g i).counted) (some_ : 0 < standing Attempt.counted (Function.update g i stage))
    (reached : services.config.maxFailedLoginAttempts ≤ standing Attempt.counted (Function.update g i stage)) :
    LockWritten services start guess (front ++ [i]) ∨ ∃ j, Function.update g i stage j = .locking := by
  rw [standing_kept same] at some_ reached
  rcases race.due some_ reached with written | ⟨j, locking⟩
  · exact .inl (lockWritten_snoc.mpr (.inl written))
  · refine .inr ⟨j, ?_⟩
    rwa [Function.update_of_ne]
    rintro rfl
    exact other locking

theorem Race.count (race : Race services start user guess front g) (verifying : g i = .verifying)
    (placed : ((guesses services start guess).play handleAccount front).2.procs i =
      (guess i).remaining services user (g i)) :
    ∃ stage, Race services start user guess (front ++ [i]) (Function.update g i stage) ∧
      (((guesses services start guess).play handleAccount front).2.turn handleAccount i).2.procs i =
        (guess i).remaining services user stage := by
  obtain ⟨u, row, guessed⟩ := race.row
  obtain ⟨next, shape, leads⟩ := Guess.counts services user (guess i)
  rw [verifying, shape] at placed
  let data : UserData := { failedLoginAttempts := some (.increment 1) }
  have turned := Pool.turn_exec handleAccount _ placed (handle_updateUser row data)
  have still := lockWritten_kept turned rfl
  have entered (stage : Attempt) (counts : stage.counted = true) :
      standing Attempt.counted (Function.update g i stage) = standing Attempt.counted g + 1 :=
    standing_entered (by rw [verifying]; rfl) counts
  have counts : (Attempt.onceCounted services.config (data.apply u)).counted = true := by
    unfold Attempt.onceCounted
    split <;> rfl
  have counter :
      (data.apply u).failedLoginAttempts = user.failedLoginAttempts + (standing Attempt.counted g + 1) :=
    congrArg (· + 1) guessed.counter
  refine ⟨.onceCounted services.config (data.apply u), race.advance (by simp [verifying]) ?_ ?_ ?_ ?_, ?_⟩
  · intro same
    rw [same] at counts
    cases counts
  · rw [verifying, Attempt.onceCounted]
    split <;> rfl
  · rw [turned]
    refine ⟨_, row_updateUser row data, ?_⟩
    rw [still, entered _ counts]
    exact ⟨guessed.email, guessed.passwordHash, counter, guessed.locked, guessed.free⟩
  · rw [entered _ counts]
    intro _ reached
    refine .inr ⟨i, ?_⟩
    rw [Function.update_self, Attempt.onceCounted, if_neg (by omega)]
  · rw [turned]
    simpa using leads (data.apply u)

/-- What one turn does to the race: the call begins, counts its failure, writes the lock, or is refused. -/
theorem Race.turn (race : Race services start user guess front g)
    (wrong : ∀ j, (guess j).Wrong services user since)
    (placed : ((guesses services start guess).play handleAccount front).2.procs i =
      (guess i).remaining services user (g i)) :
    ∃ stage, Race services start user guess (front ++ [i]) (Function.update g i stage) ∧
      (((guesses services start guess).play handleAccount front).2.turn handleAccount i).2.procs i =
        (guess i).remaining services user stage := by
  obtain ⟨u, row, guessed⟩ := race.row
  cases stage : g i with
  | untested => exact race.begin_ wrong stage placed
  | verifying => exact race.count stage placed
  | locking =>
      rw [stage, Guess.locks] at placed
      have turned := Pool.turn_exec handleAccount _ placed (handle_updateUser row _)
      have written : LockWritten services start guess (front ++ [i]) := by
        rw [lockWritten_snoc, turned]
        exact .inr ⟨_, List.mem_singleton_self _, rfl⟩
      refine ⟨.refusing none, race.advance (by simp [stage]) (by simp) ?_ ?_
        (fun _ _ => .inl written), by rw [turned]; simp⟩
      · rw [stage]
        rfl
      · rw [turned, standing_kept (by rw [stage]; rfl)]
        refine ⟨_, row_updateUser row _, guessed.email, guessed.passwordHash, guessed.counter, fun _ j => ?_,
          fun unwritten => absurd written unwritten⟩
        -- The lock outlasts every call: they all come within one lockout.
        have later :
            (guess j).ambient.clock 0 < (guess i).ambient.clock 1 + services.config.lockoutDuration :=
          lt_of_lt_of_le ((wrong j).recent 0).2 (Int.add_le_add_right ((wrong i).recent 1).1 _)
        have lock : (some ((guess i).ambient.clock 1 + services.config.lockoutDuration)).filter
            ((guess j).ambient.clock 0 < ·) ≠ none := by
          rw [Option.filter_some, if_pos (by simpa using later)]
          exact Option.some_ne_none _
        exact lock
  | refusing lock =>
      rw [stage, Guess.refuses] at placed
      have turned := Pool.turn_exec handleAccount _ placed (handle_publish _ _)
      refine ⟨.refused lock, race.advance (by simp [stage]) (by simp) (by rw [stage]; rfl) ?_
        (race.due_kept (by simp [stage]) (by rw [stage]; rfl)), by rw [turned]; simp⟩
      rw [turned, lockWritten_kept turned rfl, standing_kept (by rw [stage]; rfl)]
      exact ⟨u, (publish_row _ _ _).trans row, guessed⟩
  | refused lock =>
      rw [stage] at placed
      have turned := Pool.turn_ended handleAccount _ (i := i) (by rw [placed]; rfl)
      refine ⟨.refused lock, race.advance (by simp [stage]) (by simp) (by rw [stage]) ?_
        (race.due_kept (by simp [stage]) (by rw [stage])), by rw [turned]; exact placed⟩
      rw [turned, lockWritten_snoc, turned, standing_kept (by rw [stage])]
      simpa using ⟨u, row, guessed⟩

theorem race_start (stored : start.userById user.id = some user) :
    Race services start user guess [] fun _ => .untested := by
  have unwritten : ¬ LockWritten services start guess [] := by rintro ⟨x, member, _⟩; cases member
  have nobody (p : Attempt → Bool) (no : p .untested = false) :
      standing p (fun _ : ι => Attempt.untested) = 0 := by
    simp [standing, no]
  refine ⟨⟨user, stored, rfl, rfl, ?_, fun written => absurd written unwritten, fun _ => rfl⟩,
    by simp, by simp, ?_, ?_⟩
  · rw [nobody _ rfl, Nat.add_zero]
  · intro some_
    rw [nobody _ rfl] at some_
    exact absurd some_ (Nat.lt_irrefl 0)
  · rw [nobody _ rfl]
    refine iff_of_true (fun front i back split => ?_) (Nat.zero_le _)
    cases front <;> cases split

theorem race_play (stored : start.userById user.id = some user)
    (wrong : ∀ j, (guess j).Wrong services user since) (schedule : List ι) :
    ∃ g, Race services start user guess schedule g ∧
      ∀ j, ((guesses services start guess).play handleAccount schedule).2.procs j =
      (guess j).remaining services user (g j) :=
  Pool.play_staged handleAccount (guesses services start guess) (race_start stored) (fun _ => rfl)
    (fun _ _ i race placed => race.turn wrong (placed i)) schedule

end Race

section Verdicts

variable {services : AuthServices} {user : User} {guess : Guess} {stage : Attempt}

theorem ended_refused (ended : (guess.remaining services user stage).ended.isSome) :
    ∃ lock, stage = .refused lock := by
  cases stage with
  | untested =>
      obtain ⟨next, reads, _⟩ := Guess.reads services user guess
      rw [reads] at ended
      cases ended
  | verifying =>
      obtain ⟨next, shape, _⟩ := Guess.counts services user guess
      rw [shape] at ended
      cases ended
  | locking => cases ended
  | refusing lock => cases ended
  | refused lock => exact ⟨lock, rfl⟩

end Verdicts

/-- The call has ended, refused under this code. -/
def endedWith (code : String) (p : AuthOp AccountReply) : Bool := p.ended.any (refusedWith code)

theorem endedWith_refused {services : AuthServices} {user : User} {guess : Guess} (lock : Option Time) :
    endedWith "INVALID_CREDENTIALS" (guess.remaining services user (.refused lock)) = lock.isNone ∧
      endedWith "ACCOUNT_LOCKED" (guess.remaining services user (.refused lock)) = lock.isSome := by
  cases lock <;> exact ⟨rfl, rfl⟩

section Bound

variable {ι : Type} [DecidableEq ι] [Fintype ι] {services : AuthServices} {start : Accounts} {user : User}
  {guess : ι → Guess} {since : Time}

/-- Calls that come one after another find the lock written in time: the counter
has reached the threshold by then, and no call is between the two. -/
theorem lockedInTime_of_turns (stored : start.userById user.id = some user)
    (wrong : ∀ i, (guess i).Wrong services user since) (threshold : 0 < services.config.maxFailedLoginAttempts)
    {schedule : List ι} (turns : ∀ front i back, schedule = front ++ i :: back → i ∉ front →
      ∀ j ∈ front, (((guesses services start guess).play handleAccount front).2.procs j).ended.isSome) :
    LockedInTime services start guess schedule := by
  intro front i back split outside many
  obtain ⟨g, race, placed⟩ := race_play stored wrong front
  by_contra unwritten
  have lockedOut (j : ι) (member : j ∈ front) : ∃ lock, g j = .refused lock := by
    have ended := turns front i back split outside j member
    rw [placed] at ended
    exact ended_refused ended
  have all : standing Attempt.counted g = front.toFinset.card := by
    rw [← race.all_verified unwritten]
    unfold standing
    congr 1
    refine Finset.filter_congr fun j _ => ?_
    by_cases member : j ∈ front
    · obtain ⟨lock, same⟩ := lockedOut j member
      rw [same]
      rfl
    · rw [(race.begun j).mpr member]
      rfl
  rcases race.due (by omega) (by omega) with written | ⟨j, locking⟩
  · exact unwritten written
  · by_cases member : j ∈ front
    · obtain ⟨lock, same⟩ := lockedOut j member
      cases same.symm.trans locking
    · cases ((race.begun j).mpr member).symm.trans locking

/-- However many calls try wrong passwords at once, at most the threshold are
verified and the others answered that the account is locked, exactly when each
call that begins after the threshold of others finds the lock written. -/
theorem brute_force_bounded (stored : start.userById user.id = some user)
    (wrong : ∀ i, (guess i).Wrong services user since) (schedule : List ι)
    (ended : ((guesses services start guess).play handleAccount schedule).2.Ended) :
    (((Finset.univ.filter fun i => endedWith "INVALID_CREDENTIALS"
          (((guesses services start guess).play handleAccount schedule).2.procs i) = true).card ≤
        services.config.maxFailedLoginAttempts) ∧
      ∀ i, endedWith "INVALID_CREDENTIALS"
        (((guesses services start guess).play handleAccount schedule).2.procs i) = false →
        endedWith "ACCOUNT_LOCKED"
          (((guesses services start guess).play handleAccount schedule).2.procs i) = true) ↔
      LockedInTime services start guess schedule := by
  obtain ⟨g, race, placed⟩ := race_play stored wrong schedule
  have lockedOut (i : ι) : ∃ lock, g i = .refused lock := by
    have done := ended i
    rw [placed] at done
    exact ended_refused done
  have verified (i : ι) : endedWith "INVALID_CREDENTIALS"
      (((guesses services start guess).play handleAccount schedule).2.procs i) = (g i).verified := by
    obtain ⟨lock, same⟩ := lockedOut i
    rw [placed, same, (endedWith_refused lock).1]
    rfl
  rw [race.bounded, standing]
  simp only [verified]
  refine and_iff_left fun i unverified => ?_
  obtain ⟨lock, same⟩ := lockedOut i
  rw [placed, same, (endedWith_refused lock).2]
  rw [same] at unverified
  cases lock with
  | none => cases unverified
  | some lockedUntil => rfl

end Bound

/-! ## Two wrong passwords where one is allowed -/

def oneAttempt : AuthServices := { sampleAuth with config := { maxFailedLoginAttempts := 1 } }

def twoGuesses : Fin 2 → Guess
  | 0 => { email := "awa@fsf.sn", password := "guess" }
  | 1 => { email := "awa@fsf.sn", password := "other" }

/-- The one account of the sample. -/
def awa : User where
  id := "awa"
  email := "awa@fsf.sn"
  passwordHash := "secret"
  kind := .staff
  role := some .admin
  status := .active

theorem twoGuesses_wrong : ∀ i, (twoGuesses i).Wrong oneAttempt awa 0
  | 0 => ⟨rfl, by decide, rfl, fun _ =>
      ⟨le_refl _, show (0 : Int) < 0 + oneAttempt.config.lockoutDuration by decide⟩⟩
  | 1 => ⟨rfl, by decide, rfl, fun _ =>
      ⟨le_refl _, show (0 : Int) < 0 + oneAttempt.config.lockoutDuration by decide⟩⟩

/-- Both calls read the account before either counts its failure. -/
theorem verified_twice_at_once :
    sampleAccounts.userById "awa" = some awa ∧
    (∀ i, (twoGuesses i).Wrong oneAttempt awa 0) ∧
    ((guesses oneAttempt sampleAccounts twoGuesses).play handleAccount [0, 1, 0, 1, 0, 1, 0, 1]).2.Ended ∧
    ¬ (Finset.univ.filter fun i => endedWith "INVALID_CREDENTIALS"
          (((guesses oneAttempt sampleAccounts twoGuesses).play handleAccount
            [0, 1, 0, 1, 0, 1, 0, 1]).2.procs i) = true).card ≤ oneAttempt.config.maxFailedLoginAttempts :=
  ⟨rfl, twoGuesses_wrong, by unfold Pool.Ended; decide, by decide⟩

/-- The second call begins when the first one has ended. -/
theorem verified_once_in_turn : LockedInTime oneAttempt sampleAccounts twoGuesses [0, 0, 0, 0, 1, 1] :=
  (brute_force_bounded (show sampleAccounts.userById awa.id = some awa from rfl) twoGuesses_wrong
    [0, 0, 0, 0, 1, 1] (by unfold Pool.Ended; decide)).mp (by decide)

end AccreditationBackend
