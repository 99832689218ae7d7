import Mathlib.Data.List.Basic

/-! Columns that refer to rows of another table, and what they do when such a row is deleted. -/

set_option autoImplicit false

namespace AccreditationBackend.Foundation

/-- The declared action of a reference: it forbids the deletion, follows it, or forgets the row. -/
inductive OnDelete {ρ κ : Type} (column : ρ → Option κ) where
  | restrict
  | cascade
  | setNull (clear : ρ → ρ) (cleared : ∀ r, column (clear r) = none)

structure Reference (ρ κ : Type) where
  column : ρ → Option κ
  action : OnDelete column

namespace Reference

variable {ρ κ : Type} [DecidableEq κ] (ref : Reference ρ κ) (key : κ) (rows : List ρ)

def names (r : ρ) : Bool := ref.column r == some key

/-- Some row refers to the deleted one. -/
def inUse : Bool := rows.any (ref.names key)

def blocks : Bool :=
  match ref.action with
  | .restrict => ref.inUse key rows
  | .cascade => false
  | .setNull .. => false

/-- The rows that are left once the row with this key is gone. -/
def onDelete : List ρ :=
  match ref.action with
  | .restrict => rows
  | .cascade => rows.filter (! ref.names key ·)
  | .setNull clear _ => rows.map fun r => if ref.names key r then clear r else r

/-- No reference dangles. -/
def Within (keys : List κ) : Prop := ∀ r ∈ rows, ∀ k ∈ ref.column r, k ∈ keys

variable {ref key rows} {keys keys' : List κ}

theorem inUse_iff : ref.inUse key rows = true ↔ ∃ r ∈ rows, ref.column r = some key := by
  simp [inUse, names]

/-- What nobody refers to is deleted without a trace. -/
theorem onDelete_unused (unused : ref.inUse key rows = false) : ref.onDelete key rows = rows := by
  have none_ : ∀ r ∈ rows, ref.names key r = false := by simpa [inUse] using unused
  unfold onDelete
  split
  · rfl
  · exact List.filter_eq_self.mpr fun r member => by simp [none_ r member]
  · refine (List.map_congr_left fun r member => ?_).trans (List.map_id rows)
    simp [none_ r member]

/-- An action that follows or forgets leaves a trace on every row that refers. -/
theorem onDelete_used (used : ref.inUse key rows = true) (free : ref.blocks key rows = false) :
    ref.onDelete key rows ≠ rows := by
  obtain ⟨r, member, named⟩ := inUse_iff.mp used
  intro same
  unfold blocks at free
  unfold onDelete at same
  split at free
  next => cases free.symm.trans used
  next action =>
    rw [action] at same
    have kept := List.filter_eq_self.mp same r member
    simp [names, named] at kept
  next clear cleared action =>
    rw [action] at same
    dsimp only at same
    -- The rewritten list names nobody, the given one still does.
    rw [← same] at member
    obtain ⟨a, _, rewritten⟩ := List.mem_map.mp member
    split at rewritten
    next => simpa [named, rewritten] using cleared a
    next other =>
      subst rewritten
      exact other (by simpa [names] using named)

theorem onDelete_eq_iff (free : ref.blocks key rows = false) :
    ref.onDelete key rows = rows ↔ ref.inUse key rows = false := by
  refine ⟨fun same => ?_, onDelete_unused⟩
  by_contra used
  exact onDelete_used (by simpa using used) free same

/-- Where no reference dangles, what is referred to is there. -/
theorem Within.used (within : ref.Within rows keys) (used : ref.inUse key rows = true) : key ∈ keys := by
  obtain ⟨r, member, named⟩ := inUse_iff.mp used
  exact within r member key named

omit [DecidableEq κ] in
theorem Within.mono (within : ref.Within rows keys) (more : keys ⊆ keys') : ref.Within rows keys' :=
  fun r member k holds => more (within r member k holds)

/-- After an unforbidden deletion nothing refers to the deleted row. -/
theorem Within.onDelete (within : ref.Within rows keys) (free : ref.blocks key rows = false)
    (rest : ∀ k ∈ keys, k ≠ key → k ∈ keys') : ref.Within (ref.onDelete key rows) keys' := by
  have other {r : ρ} (member : r ∈ rows) (unnamed : ref.names key r = false) :
      ∀ k ∈ ref.column r, k ∈ keys' := by
    intro k holds
    refine rest k (within r member k holds) fun same => ?_
    simp [names, Option.mem_def.mp holds, same] at unnamed
  unfold Reference.onDelete
  unfold blocks at free
  split at free
  next action =>
    exact fun r member => other member (Bool.eq_false_iff.mpr (List.any_eq_false.mp free r member))
  next action =>
    exact fun r member => other (List.mem_filter.mp member).1
      (by simpa using (List.mem_filter.mp member).2)
  next clear cleared action =>
    intro r member
    obtain ⟨a, inside, rewritten⟩ := List.mem_map.mp member
    split at rewritten
    next =>
      subst rewritten
      simp [cleared]
    next unnamed =>
      subst rewritten
      exact other inside (by simpa using unnamed)

/-- Another column of the same rows. -/
theorem Within.onDelete_other {other : Reference ρ κ} (within : other.Within rows keys)
    (apart : ∀ clear cleared, ref.action = .setNull clear cleared →
      ∀ r, other.column (clear r) = other.column r) :
    other.Within (ref.onDelete key rows) keys := by
  unfold Reference.onDelete
  split
  next => exact within
  next => exact fun r member => within r (List.mem_filter.mp member).1
  next clear cleared action =>
    intro r member
    obtain ⟨a, inside, rewritten⟩ := List.mem_map.mp member
    split at rewritten <;> subst rewritten
    · rw [apart clear cleared action]
      exact within a inside
    · exact within a inside

end Reference

end AccreditationBackend.Foundation
