import AccreditationBackend.Foundation.Tickets
import AccreditationBackend.Iam.BruteForce

/-! Failed logins recorded by many calls at once.

A call locks the account for the counter that its own increment returned. The
increments are atomic, so these counters are the numbers of a ticket machine.
-/

set_option autoImplicit false

namespace AccreditationBackend

open Foundation

/-- How far a call has come, with the counter that its increment returned. -/
inductive FailureStage where
  | fresh
  | counted (number : Nat)
  | locking (number : Nat)
  deriving DecidableEq, Repr

def FailureStage.ticket : FailureStage → Option Nat
  | .fresh => none
  | .counted number => some number
  | .locking number => some number

/-- The lock of the call is written. -/
def FailureStage.locks : FailureStage → Bool
  | .locking _ => true
  | _ => false

section Calls

variable (config : AuthConfig) (id : Uuid)

end Calls

variable {ι : Type} [Fintype ι] [DecidableEq ι]

/-- The row has all failures counted so far, and a lock once a call has written one. -/
structure Recorded (user : User) (g : ι → FailureStage) (u : User) : Prop where
  drawn : Drawn user.failedLoginAttempts (fun i => (g i).ticket) u.failedLoginAttempts
  locked : u.lockedUntil.isSome = true ↔ ∃ i, (g i).locks = true

section Steps

variable {user u : User} {g : ι → FailureStage} {i : ι}

theorem Recorded.count (recorded : Recorded user g u) (fresh : g i = .fresh) :
    Recorded user (Function.update g i (.counted (u.failedLoginAttempts + 1)))
      (UserData.apply { failedLoginAttempts := some (.increment 1) } u) where
  drawn := by
    refine (recorded.drawn.draw (i := i) (by rw [fresh]; rfl)).kept fun j => ?_
    by_cases same : j = i
    · subst same
      simp [FailureStage.ticket]
    · simp [same]
  locked := by
    refine recorded.locked.trans (exists_congr fun j => ?_)
    by_cases same : j = i
    · subst same
      simp [fresh, FailureStage.locks]
    · simp [same]

theorem Recorded.lock {number : Nat} (recorded : Recorded user g u) (counted : g i = .counted number)
    (lockedUntil : Time) :
    Recorded user (Function.update g i (.locking number))
      (UserData.apply { lockedUntil := some (some lockedUntil) } u) where
  drawn := by
    refine recorded.drawn.kept fun j => ?_
    by_cases same : j = i
    · subst same
      simp [counted, FailureStage.ticket]
    · simp [same]
  locked := iff_of_true rfl ⟨i, by simp [FailureStage.locks]⟩

end Steps

/-- The calls record a failure of the account, all from one database. -/
def failures (config : AuthConfig) (start : Accounts) (id : Uuid) (ambient : ι → AuthAmbient) :
    Pool ι accountStore Accounts AuthFailure FailedLogin :=
  ⟨start, fun i => recordFailedLogin config (ambient i) id⟩

section Play

variable {config : AuthConfig} {start : Accounts} {user : User} (ambient : ι → AuthAmbient)

end Play

end AccreditationBackend
