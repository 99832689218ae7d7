import Mathlib.Data.List.Basic
import Mathlib.Logic.Relation

/-! The order in which the elements of a growing list first arrived. -/

set_option autoImplicit false

namespace AccreditationBackend.Foundation

variable {α : Type} [DecidableEq α] {xs : List α} {a b c x : α}

/-- Both are in the list, and `a` came first. -/
def Precedes (xs : List α) (a b : α) : Prop := b ∈ xs ∧ xs.idxOf a < xs.idxOf b

instance : Decidable (Precedes xs a b) := inferInstanceAs (Decidable (_ ∧ _))

theorem Precedes.left_mem (earlier : Precedes xs a b) : a ∈ xs :=
  List.idxOf_lt_length_iff.mp (Nat.lt_of_lt_of_le earlier.2 List.idxOf_le_length)

theorem Precedes.irrefl : ¬ Precedes xs a a := fun earlier => Nat.lt_irrefl _ earlier.2

theorem Precedes.trans (first : Precedes xs a b) (second : Precedes xs b c) : Precedes xs a c :=
  ⟨second.1, Nat.lt_trans first.2 second.2⟩

theorem Precedes.append (earlier : Precedes xs a b) (ys : List α) : Precedes (xs ++ ys) a b := by
  refine ⟨List.mem_append_left ys earlier.1, ?_⟩
  rw [List.idxOf_append_of_mem earlier.left_mem, List.idxOf_append_of_mem earlier.1]
  exact earlier.2

/-- A new element comes after all that were there. -/
theorem precedes_last (member : a ∈ xs) (new : x ∉ xs) : Precedes (xs ++ [x]) a x := by
  refine ⟨by simp, ?_⟩
  rw [List.idxOf_append_of_mem member, List.idxOf_append_of_notMem new]
  exact Nat.lt_of_lt_of_le (List.idxOf_lt_length_iff.mpr member) (Nat.le_add_right _ _)

theorem precedes_append_cases (new : x ∉ xs) (earlier : Precedes (xs ++ [x]) a b) :
    Precedes xs a b ∨ b = x ∧ a ∈ xs := by
  by_cases last : b = x
  · subst last
    have first := earlier.left_mem
    rw [List.mem_append, List.mem_singleton] at first
    rcases first with member | rfl
    · exact .inr ⟨rfl, member⟩
    · exact (Precedes.irrefl earlier).elim
  · have member : b ∈ xs := by simpa [last] using earlier.1
    have before := earlier.2
    rw [List.idxOf_append_of_mem member] at before
    by_cases known : a ∈ xs
    · rw [List.idxOf_append_of_mem known] at before
      exact .inl ⟨member, before⟩
    -- What is not in the old list comes after all of it.
    · rw [List.idxOf_append_of_notMem known] at before
      have bound := List.idxOf_lt_length_iff.mpr member
      omega

theorem precedes_total (left : a ∈ xs) (right : b ∈ xs) (different : a ≠ b) :
    Precedes xs a b ∨ Precedes xs b a := by
  rcases Nat.lt_trichotomy (xs.idxOf a) (xs.idxOf b) with before | same | after
  · exact .inl ⟨right, before⟩
  · exact absurd ((List.idxOf_inj left).mp same) different
  · exact .inr ⟨left, after⟩

/-- Links that all lead back in the order of arrival never close a cycle. -/
theorem acyclic_of_precedes {Link : α → α → Prop} (back : ∀ a b, Link a b → Precedes xs b a) (a : α) :
    ¬ Relation.TransGen Link a a := by
  have reached (a b : α) (path : Relation.TransGen Link a b) : Precedes xs b a := by
    induction path with
    | single link => exact back _ _ link
    | tail _ link ih => exact (back _ _ link).trans ih
  exact fun cycle => Precedes.irrefl (reached a a cycle)

end AccreditationBackend.Foundation
