import Mathlib.Data.Fintype.Card
import Mathlib.Order.Interval.Finset.Nat
import Mathlib.Logic.Function.Basic

/-! Tickets from a counter that each drawing raises by one.

A ticket bears the counter as its drawing leaves it. No two bear the same number
and none is left out, whatever the order in which they are drawn.
-/

set_option autoImplicit false

namespace AccreditationBackend.Foundation

variable {ι : Type} [Fintype ι] [DecidableEq ι]

/-- The tickets drawn so far are numbered from after `first` to the counter. -/
structure Drawn (first : Nat) (tickets : ι → Option Nat) (counter : Nat) : Prop where
  counted : counter = first + (Finset.univ.filter fun i => (tickets i).isSome = true).card
  numbered : ∀ i number, tickets i = some number → first < number ∧ number ≤ counter
  distinct : ∀ i j number, tickets i = some number → tickets j = some number → i = j

variable {first counter : Nat} {tickets : ι → Option Nat}

theorem Drawn.draw (drawn : Drawn first tickets counter) {i : ι} (none_ : tickets i = none) :
    Drawn first (Function.update tickets i (some (counter + 1))) (counter + 1) where
  counted := by
    have entered : (Finset.univ.filter fun j =>
        (Function.update tickets i (some (counter + 1)) j).isSome = true) =
        insert i (Finset.univ.filter fun j => (tickets j).isSome = true) := by
      ext j
      by_cases same : j = i
      · subst same
        simp
      · simp [same]
    rw [entered, Finset.card_insert_of_notMem (by simp [none_]), ← Nat.add_assoc, ← drawn.counted]
  numbered := by
    have counted := drawn.counted
    intro j number drew
    by_cases same : j = i
    · subst same
      rw [Function.update_self] at drew
      cases drew
      omega
    · rw [Function.update_of_ne same] at drew
      have range := drawn.numbered j number drew
      omega
  distinct := by
    -- The new number is above all that were drawn before.
    have above (j : ι) (old : j ≠ i) :
        Function.update tickets i (some (counter + 1)) j ≠ some (counter + 1) := by
      rw [Function.update_of_ne old]
      intro drew
      have range := drawn.numbered j _ drew
      omega
    intro j k number drewJ drewK
    by_cases sameJ : j = i
    · subst sameJ
      rw [Function.update_self] at drewJ
      cases drewJ
      by_contra other
      exact above k (fun same => other same.symm) drewK
    · by_cases sameK : k = i
      · subst sameK
        rw [Function.update_self] at drewK
        cases drewK
        exact absurd drewJ (above j sameJ)
      · rw [Function.update_of_ne sameJ] at drewJ
        rw [Function.update_of_ne sameK] at drewK
        exact drawn.distinct j k number drewJ drewK

omit [DecidableEq ι] in
/-- Whoever draws nothing leaves the tickets as they are. -/
theorem Drawn.kept (drawn : Drawn first tickets counter) {tickets' : ι → Option Nat}
    (same : ∀ i, tickets' i = tickets i) : Drawn first tickets' counter := by
  rwa [funext same]

end AccreditationBackend.Foundation
