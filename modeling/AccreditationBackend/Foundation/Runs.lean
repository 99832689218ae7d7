import Mathlib.Data.List.Basic

/-! Sequential runs of a machine: a list of actions taken one after another. -/

set_option autoImplicit false

namespace AccreditationBackend.Foundation

variable {S A : Type} (step : S → A → S)

def runFrom (s : S) (actions : List A) : S := actions.foldl step s

/-- `P` holds of each action in the state it is taken in. -/
def Along (P : S → A → Prop) : S → List A → Prop
  | _, [] => True
  | s, a :: rest => P s a ∧ Along P (step s a) rest

@[simp] theorem runFrom_nil (s : S) : runFrom step s [] = s := rfl

@[simp] theorem runFrom_cons (s : S) (a : A) (rest : List A) :
    runFrom step s (a :: rest) = runFrom step (step s a) rest := rfl

@[simp] theorem runFrom_append (s : S) (front back : List A) :
    runFrom step s (front ++ back) = runFrom step (runFrom step s front) back := List.foldl_append

variable {step}

/-- What one admitted action preserves, a run of admitted actions preserves. -/
theorem runFrom_invariant {P : S → A → Prop} {I : S → Prop} (keeps : ∀ s a, I s → P s a → I (step s a))
    {s : S} {actions : List A} (start : I s) (admitted : Along step P s actions) :
    I (runFrom step s actions) := by
  induction actions generalizing s with
  | nil => exact start
  | cons a rest ih => exact ih (keeps s a start admitted.1) admitted.2

/-- An invariant that some actions can break holds after a run, or the run has such an action. -/
theorem runFrom_unless {P : A → Prop} {I : S → Prop} {X : S → A → Prop}
    (keeps : ∀ s a, I s → P a → I (step s a) ∨ X s a) {s : S} {actions : List A} (start : I s)
    (admitted : ∀ a ∈ actions, P a) :
    I (runFrom step s actions) ∨
      ∃ front a back, actions = front ++ a :: back ∧ X (runFrom step s front) a := by
  induction actions generalizing s with
  | nil => exact .inl start
  | cons a rest ih =>
      rcases keeps s a start (admitted a List.mem_cons_self) with kept | broken
      · rcases ih kept fun b member => admitted b (List.mem_cons_of_mem a member) with
          held | ⟨front, b, back, rfl, broken⟩
        · exact .inl held
        · exact .inr ⟨a :: front, b, back, rfl, broken⟩
      · exact .inr ⟨[], a, rest, rfl, broken⟩

theorem along_append {P : S → A → Prop} {s : S} {front back : List A} :
    Along step P s (front ++ back) ↔ Along step P s front ∧ Along step P (runFrom step s front) back := by
  induction front generalizing s with
  | nil => simp [Along]
  | cons a rest ih => simp only [List.cons_append, Along, runFrom_cons, ih, and_assoc]

/-- Admitted along the run is admitted wherever the run is split. -/
theorem along_iff {P : S → A → Prop} {s : S} {actions : List A} :
    Along step P s actions ↔ ∀ front a back, actions = front ++ a :: back →
      P (runFrom step s front) a := by
  induction actions generalizing s with
  | nil => simp [Along]
  | cons a rest ih =>
      rw [Along, ih]
      constructor
      · rintro ⟨now, later⟩ front b back split
        cases front with
        | nil =>
            cases split
            exact now
        | cons c front =>
            cases split
            exact later front b back rfl
      · exact fun each =>
          ⟨each [] a rest rfl, fun front b back split => each (a :: front) b back (by rw [split]; rfl)⟩

/-- Among the actions of `Q`, an invariant that an action keeps exactly when it is
admitted holds in every state of a run exactly when the whole run is admitted. -/
theorem runFrom_exact_within {P Q : S → A → Prop} {I : S → Prop}
    (keeps : ∀ s a, I s → Q s a → P s a → I (step s a))
    (breaks : ∀ s a, I s → Q s a → I (step s a) → P s a) {s : S} {actions : List A} (start : I s)
    (within : Along step Q s actions) :
    (∀ front back, actions = front ++ back → I (runFrom step s front)) ↔ Along step P s actions := by
  induction actions generalizing s with
  | nil =>
      refine iff_of_true (fun front back split => ?_) trivial
      obtain ⟨rfl, rfl⟩ := List.append_eq_nil_iff.mp split.symm
      exact start
  | cons a rest ih =>
      constructor
      · intro held
        have next : I (step s a) := held [a] rest rfl
        exact ⟨breaks s a start within.1 next,
          (ih next within.2).mp fun front back split => held (a :: front) back (by rw [split]; rfl)⟩
      · rintro ⟨now, later⟩ front back split
        cases front with
        | nil => exact start
        | cons b front =>
            cases split
            exact (ih (keeps s a start within.1 now) within.2).mpr later front back rfl

/-- An invariant that an action keeps exactly when it is admitted holds in every
state of a run exactly when the whole run is admitted. -/
theorem runFrom_exact {P : S → A → Prop} {I : S → Prop} (keeps : ∀ s a, I s → P s a → I (step s a))
    (breaks : ∀ s a, I s → I (step s a) → P s a) {s : S} {actions : List A} (start : I s) :
    (∀ front back, actions = front ++ back → I (runFrom step s front)) ↔ Along step P s actions := by
  have within : Along step (fun _ _ => True) s actions := along_iff.mpr fun _ _ _ _ => trivial
  exact runFrom_exact_within (fun s a held _ => keeps s a held)
    (fun s a held _ => breaks s a held) start within

theorem along_of_forall {P : A → Prop} {actions : List A} (each : ∀ a ∈ actions, P a) (s : S) :
    Along step (fun _ a => P a) s actions := by
  induction actions generalizing s with
  | nil => trivial
  | cons a rest ih =>
      exact ⟨each a List.mem_cons_self, ih (fun b member => each b (List.mem_cons_of_mem a member)) _⟩

/-- A preorder that each action respects relates the ends of every run. -/
theorem runFrom_relates {R : S → S → Prop} (refl : ∀ s, R s s) (trans : ∀ s t u, R s t → R t u → R s u)
    (keeps : ∀ s a, R s (step s a)) (s : S) (actions : List A) : R s (runFrom step s actions) := by
  induction actions generalizing s with
  | nil => exact refl s
  | cons a rest ih => exact trans _ _ _ (keeps s a) (ih (step s a))

/-! ## Runs of a machine that keeps a record beside -/

section Projected

variable {T : Type} {step' : T → A → T} {f : S → T} (commutes : ∀ s a, f (step s a) = step' (f s) a)

include commutes

/-- The part that moves by itself runs as if it were alone. -/
theorem runFrom_projected (s : S) (actions : List A) :
    f (runFrom step s actions) = runFrom step' (f s) actions := by
  induction actions generalizing s with
  | nil => rfl
  | cons a rest ih => rw [runFrom_cons, ih, commutes, runFrom_cons]

theorem along_projected {P : T → A → Prop} {s : S} {actions : List A} :
    Along step (fun s a => P (f s) a) s actions ↔ Along step' P (f s) actions := by
  induction actions generalizing s with
  | nil => exact Iff.rfl
  | cons a rest ih => rw [Along, Along, ih, commutes]

end Projected

end AccreditationBackend.Foundation
