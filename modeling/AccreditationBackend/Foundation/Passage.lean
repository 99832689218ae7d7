import Mathlib.Data.List.Chain

/-! Where a chain of values can pass.

A gate is the only value from which a set is entered; a trap is a value that is
never left. Neither speaks of what the values mean.
-/

set_option autoImplicit false

namespace AccreditationBackend.Foundation

variable {α : Type} {R : α → α → Prop}

/-- A chain that starts outside a set and meets it has met its gate before. -/
theorem gate_visited {inside : α → Prop} {gate : α}
    (enters : ∀ a b, R a b → inside b → ¬ inside a → a = gate) {front back : List α} {x : α}
    (chain : (front ++ x :: back).IsChain R)
    (outside : ∀ a ∈ (front ++ x :: back).head?, ¬ inside a) (reached : inside x) :
    gate ∈ front := by
  induction front with
  | nil => exact absurd reached (outside x (by simp))
  | cons a rest ih =>
      have first : ¬ inside a := outside a (by simp)
      obtain ⟨step, later⟩ := List.isChain_cons.mp chain
      -- Either the very next value is inside, and this one is the gate, or the gate is further on.
      by_cases entered : ∃ b ∈ (rest ++ x :: back).head?, inside b
      · obtain ⟨b, next, held⟩ := entered
        rw [enters a b (step b next) held first]
        exact List.mem_cons_self
      · exact List.mem_cons_of_mem a (ih later fun b next held => entered ⟨b, next, held⟩)

/-- The set can only be entered at its gate, so the chain splits there. -/
theorem gate_splits {inside : α → Prop} {gate : α}
    (enters : ∀ a b, R a b → inside b → ¬ inside a → a = gate) {front back : List α} {x : α}
    (chain : (front ++ x :: back).IsChain R)
    (outside : ∀ a ∈ (front ++ x :: back).head?, ¬ inside a) (reached : inside x) :
    ∃ before between, front = before ++ gate :: between :=
  List.append_of_mem (gate_visited enters chain outside reached)

theorem trap_kept {x : α} (kept : ∀ b, R x b → b = x) {back : List α} (chain : (x :: back).IsChain R) :
    ∀ y ∈ back, y = x := by
  induction back with
  | nil => simp
  | cons b rest ih =>
      obtain ⟨step, later⟩ := List.isChain_cons_cons.mp chain
      obtain rfl := kept b step
      simpa using ih later

end AccreditationBackend.Foundation
