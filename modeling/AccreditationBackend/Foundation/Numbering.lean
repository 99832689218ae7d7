import Mathlib.Data.List.Range

/-! Lists whose entries are numbered in order, from one. -/

set_option autoImplicit false

namespace AccreditationBackend.Foundation

variable {α : Type} {number : α → Nat} {xs : List α} {a : α}

def Numbered (number : α → Nat) (xs : List α) : Prop := xs.map number = List.range' 1 xs.length

theorem numbered_nil : Numbered number ([] : List α) := rfl

theorem numbered_append :
    Numbered number (xs ++ [a]) ↔ Numbered number xs ∧ number a = xs.length + 1 := by
  simp only [Numbered, List.map_append, List.map_cons, List.map_nil, List.length_append,
    List.length_singleton, List.range'_concat, Nat.one_mul]
  constructor
  · intro same
    obtain ⟨front, last⟩ := List.append_inj same (by simp)
    exact ⟨front, (List.cons.inj last).1.trans (Nat.add_comm _ _)⟩
  · rintro ⟨front, last⟩
    rw [front, last, Nat.add_comm]

theorem Numbered.map {f : α → α} (numbered : Numbered number xs) (kept : ∀ a, number (f a) = number a) :
    Numbered number (xs.map f) := by
  rw [Numbered, List.map_map, List.length_map, ← numbered]
  exact List.map_congr_left fun a _ => kept a

theorem Numbered.le_length (numbered : Numbered number xs) (member : a ∈ xs) : number a ≤ xs.length := by
  have inside : number a ∈ xs.map number := List.mem_map_of_mem member
  rw [numbered, List.mem_range'_1] at inside
  omega

theorem Numbered.getLast (numbered : Numbered number xs) (last : xs.getLast? = some a) :
    number a = xs.length := by
  obtain ⟨front, rfl⟩ := List.getLast?_eq_some_iff.mp last
  simpa using (numbered_append.mp numbered).2

/-- What follows the last number is the next one. -/
theorem Numbered.next (numbered : Numbered number xs) :
    (xs.getLast?.map number).getD 0 + 1 = xs.length + 1 := by
  cases last : xs.getLast? with
  | none => simp [List.getLast?_eq_none_iff.mp last]
  | some a => simp [numbered.getLast last]

/-- The highest number is the last one's. -/
theorem Numbered.highest (numbered : Numbered number xs) (member : a ∈ xs)
    (highest : ∀ b ∈ xs, number b ≤ number a) :
    xs.getLast? = some a := by
  cases last : xs.getLast? with
  | none =>
      rw [List.getLast?_eq_none_iff.mp last] at member
      cases member
  | some b =>
      obtain ⟨front, rfl⟩ := List.getLast?_eq_some_iff.mp last
      obtain ⟨before, top⟩ := numbered_append.mp numbered
      rcases List.mem_append.mp member with earlier | here
      · have low := before.le_length earlier
        have high := highest b (by simp)
        omega
      · rw [List.mem_singleton.mp here]

end AccreditationBackend.Foundation
