import Mathlib.Algebra.BigOperators.Group.List.Lemmas
import Mathlib.Algebra.BigOperators.Ring.List
import Mathlib.Algebra.Ring.Nat

/-! Rows grouped by a column, each group with its number of rows; rows joined one by one. -/

set_option autoImplicit false

namespace AccreditationBackend.Foundation

variable {ρ κ : Type} [DecidableEq κ]

/-- One entry for each value of the column; the order of the groups is of no account. -/
def groupCounts (c : ρ → κ) (rows : List ρ) : List (κ × Nat) :=
  (rows.map c).dedup.map fun value => (value, rows.countP (c · == value))

variable {c : ρ → κ} {rows : List ρ}

theorem countP_column (value : κ) : rows.countP (c · == value) = (rows.map c).count value := by
  simp only [List.count, List.countP_map, Function.comp_def]

/-- The groups whose value satisfies `p` add up to the rows whose value does. -/
theorem groupCounts_sum (p : κ → Bool) :
    (((groupCounts c rows).filter fun group => p group.1).map (·.2)).sum =
      rows.countP fun r => p (c r) := by
  have counted := List.sum_map_count_dedup_filter_eq_countP p (rows.map c)
  rw [List.countP_map] at counted
  rw [groupCounts, List.filter_map, List.map_map]
  simp only [Function.comp_def, countP_column] at counted ⊢
  exact counted

theorem groupCounts_total : ((groupCounts c rows).map (·.2)).sum = rows.length := by
  have all : (((groupCounts c rows).filter fun _ => true).map (·.2)).sum = rows.countP fun _ => true :=
    groupCounts_sum fun _ => true
  simpa using all

theorem lookup_paired {values : List κ} {f : κ → Nat} (value : κ) :
    (values.map fun v => (v, f v)).lookup value = if value ∈ values then some (f value) else none := by
  induction values with
  | nil => rfl
  | cons first rest ih =>
      rw [List.map_cons, List.lookup_cons]
      by_cases same : value = first
      · simp [same]
      · rw [beq_false_of_ne same, ih]
        simp [same]

/-- A value without a group has no rows. -/
theorem groupCounts_lookup (value : κ) :
    ((groupCounts c rows).lookup value).getD 0 = rows.countP (c · == value) := by
  rw [groupCounts, lookup_paired]
  by_cases member : value ∈ (rows.map c).dedup
  · rw [if_pos member, Option.getD_some]
  · have absent : value ∉ rows.map c := mt List.mem_dedup.mpr member
    rw [if_neg member, Option.getD_none, countP_column, List.count_eq_zero_of_not_mem absent]

theorem sum_indicator {α : Type} (p : α → Bool) (l : List α) :
    (l.map fun a => if p a then 1 else 0).sum = l.countP p := by
  induction l with
  | nil => rfl
  | cons a rest ih => rw [List.map_cons, List.sum_cons, ih, List.countP_cons, Nat.add_comm]

/-- Where each row is in exactly one of the classes, the classes add up to all rows. -/
theorem countP_classes {classes : List (ρ → Bool)} (one : ∀ r ∈ rows, classes.countP (· r) = 1) :
    (classes.map fun p => rows.countP p).sum = rows.length := by
  induction rows with
  | nil => simp
  | cons r rest ih =>
      rw [List.forall_mem_cons] at one
      simp only [List.countP_cons, List.length_cons]
      rw [List.sum_map_add, ih one.2, sum_indicator (fun p : ρ → Bool => p r), one.1]

/-- Rows told apart by classes of which each row of `q` is in one, and each other row in none. -/
theorem flatMap_filter_perm [DecidableEq ρ] {α : Type} {classes : List α} {p : α → ρ → Bool} {q : ρ → Bool}
    (one : ∀ r ∈ rows, classes.countP (p · r) = if q r then 1 else 0) :
    (classes.flatMap fun k => rows.filter (p k)).Perm (rows.filter q) := by
  have counted (f : ρ → Bool) (r : ρ) : (rows.filter f).count r = (if f r then 1 else 0) * rows.count r := by
    by_cases holds : f r = true
    · rw [List.count_filter holds, if_pos holds, Nat.one_mul]
    · rw [if_neg holds, Nat.zero_mul, List.count_eq_zero]
      exact fun member => holds (List.mem_filter.mp member).2
  rw [List.perm_iff_count]
  intro r
  rw [List.count_flatMap, counted q r]
  have each : (List.count r ∘ fun k => rows.filter (p k)) =
      fun k => (if p k r then 1 else 0) * rows.count r := funext fun k => counted (p k) r
  rw [each, List.sum_map_mul_right, sum_indicator fun k => p k r]
  by_cases member : r ∈ rows
  · rw [one r member]
  · rw [List.count_eq_zero_of_not_mem member, Nat.mul_zero, Nat.mul_zero]

/-- Two filters select the same rows, as often, exactly where they agree on every row. -/
theorem filter_perm_iff {p q : ρ → Bool} :
    (rows.filter p).Perm (rows.filter q) ↔ ∀ r ∈ rows, p r = q r := by
  constructor
  · intro perm r member
    have both : r ∈ rows.filter p ↔ r ∈ rows.filter q := perm.mem_iff
    simpa only [List.mem_filter, member, true_and, ← Bool.eq_iff_iff] using both
  · exact fun agree => List.Perm.of_eq (List.filter_congr agree)

/-- Joins that all succeed yield a row for each row. -/
theorem joined_all {α β : Type} {look : α → Option β} {rows : List α}
    (declared : ∀ r ∈ rows, ∃ joined, look r = some joined) :
    ∃ all, rows.mapM look = some all ∧ all.length = rows.length := by
  induction rows with
  | nil => exact ⟨[], rfl, rfl⟩
  | cons first rest ih =>
      rw [List.forall_mem_cons] at declared
      obtain ⟨joined, found⟩ := declared.1
      obtain ⟨others, foundAll, counted⟩ := ih declared.2
      refine ⟨joined :: others, ?_, by rw [List.length_cons, List.length_cons, counted]⟩
      rw [List.mapM_cons, found, foundAll]
      rfl

end AccreditationBackend.Foundation
