import Mathlib.Logic.Function.Basic
import AccreditationBackend.Foundation.Procedure

/-! Interleaved procedures over one store, and proof outlines for them.

A schedule names, turn by turn, the call that moves; a call that has ended lets
its turn pass, so every interleaving is the play of some schedule. An outline
gives each call a private ghost value. The calls never see each other's ghost:
they meet only in the invariant that ties all ghosts to the store. A call that
decides from what it has read earlier recalls the store it last saw, and relies
on what no statement of the others undoes.
-/

set_option autoImplicit false

namespace AccreditationBackend.Foundation

variable {I : Interface} {S E A B γ : Type} {ι : Type} [DecidableEq ι]

structure Pool (ι : Type) (I : Interface) (S E A : Type) where
  store : S
  procs : ι → Proc I S E A

/-- The statements executed so far, each with the call that executed it. -/
abbrev History (ι : Type) (I : Interface) (S : Type) := List (ι × Event I S)

def Pool.turn (h : Handler I S E) (pool : Pool ι I S E A) (i : ι) : History ι I S × Pool ι I S E A :=
  match pool.procs i with
  | .done _ => ([], pool)
  | .fail _ => ([], pool)
  | .read next => ([], ⟨pool.store, Function.update pool.procs i (next pool.store)⟩)
  | .exec stmt next =>
      ([(i, h.event stmt pool.store)],
        match h stmt pool.store with
        | .ok (reply, t) => ⟨t, Function.update pool.procs i (next reply)⟩
        | .error why => ⟨pool.store, Function.update pool.procs i (.fail why)⟩)

def Pool.play (h : Handler I S E) : List ι → Pool ι I S E A → History ι I S × Pool ι I S E A
  | [], pool => ([], pool)
  | i :: rest, pool =>
      let now := pool.turn h i
      let later := now.2.play h rest
      (now.1 ++ later.1, later.2)

/-- How a call ended, when it has. -/
def Proc.ended : Proc I S E A → Option (Except E A)
  | .done value => some (.ok value)
  | .fail why => some (.error why)
  | .read _ => none
  | .exec _ _ => none

def Pool.Ended (pool : Pool ι I S E A) : Prop := ∀ i, (pool.procs i).ended.isSome

/-- What one turn can do. -/
theorem Pool.turn_cases (h : Handler I S E) (pool : Pool ι I S E A) (i : ι) :
    pool.turn h i = ([], pool) ∨
    (∃ next, pool.procs i = .read next ∧
      pool.turn h i = ([], ⟨pool.store, Function.update pool.procs i (next pool.store)⟩)) ∨
    (∃ stmt next reply t, pool.procs i = .exec stmt next ∧ h stmt pool.store = .ok (reply, t) ∧
      pool.turn h i = ([(i, h.event stmt pool.store)], ⟨t, Function.update pool.procs i (next reply)⟩)) ∨
    (∃ stmt next why, pool.procs i = .exec stmt next ∧ h stmt pool.store = .error why ∧
      pool.turn h i =
        ([(i, h.event stmt pool.store)], ⟨pool.store, Function.update pool.procs i (.fail why)⟩)) := by
  cases moving : pool.procs i with
  | done value => exact .inl (by simp only [turn, moving])
  | fail why => exact .inl (by simp only [turn, moving])
  | read next => exact .inr (.inl ⟨next, rfl, by simp only [turn, moving]⟩)
  | exec stmt next =>
      cases replied : h stmt pool.store with
      | ok result =>
          exact .inr (.inr (.inl
        ⟨stmt, next, result.1, result.2, rfl, replied, by simp only [turn, moving, replied]⟩))
      | error why =>
          exact .inr (.inr (.inr ⟨stmt, next, why, rfl, replied, by simp only [turn, moving, replied]⟩))

/-- A property of every call survives the replacement of one of them. -/
theorem Pool.update_procs {procs : ι → Proc I S E A} {g : ι → γ} {P : ι → Proc I S E A → γ → Prop}
    (each : ∀ j, P j (procs j) (g j)) (i : ι) (p : Proc I S E A) (g' : γ) (moved : P i p g') (j : ι) :
    P j (Function.update procs i p j) (Function.update g i g' j) := by
  by_cases same : j = i
  · subst same; simpa using moved
  · simpa [same] using each j

/-! ## Statements issued in a play -/

theorem Pool.turn_issues (h : Handler I S E) {P : I.Stmt → Prop} (pool : Pool ι I S E A)
    (issues : ∀ i, (pool.procs i).Issues P) (i : ι) :
    (∀ e ∈ (pool.turn h i).1, P e.2.stmt) ∧ ∀ j, ((pool.turn h i).2.procs j).Issues P := by
  have moving := issues i
  have updated (p : Proc I S E A) (issued : p.Issues P) (j : ι) :
      (Function.update pool.procs i p j).Issues P :=
    update_procs (g := fun _ => ()) (P := fun _ p _ => p.Issues P) issues i p () issued j
  obtain same | ⟨next, shape, same⟩ | ⟨stmt, next, reply, t, shape, _, same⟩ | ⟨stmt, next, why,
    shape, _, same⟩ :=
    pool.turn_cases h i <;> rw [same] <;> try rw [shape] at moving
  · exact ⟨by simp, issues⟩
  · exact ⟨by simp, updated _ (moving _)⟩
  · exact ⟨by simpa using moving.1, updated _ (moving.2 _)⟩
  · exact ⟨by simpa using moving.1, updated _ trivial⟩

theorem Pool.play_issues (h : Handler I S E) {P : I.Stmt → Prop} (schedule : List ι)
    (pool : Pool ι I S E A) (issues : ∀ i, (pool.procs i).Issues P) :
    ∀ e ∈ (pool.play h schedule).1, P e.2.stmt := by
  induction schedule generalizing pool with
  | nil => simp [play]
  | cons i rest ih =>
      obtain ⟨now, later⟩ := pool.turn_issues h issues i
      simp only [play, List.mem_append]
      rintro e (member | member)
      · exact now e member
      · exact ih _ later e member

theorem Pool.turn_frame (h : Handler I S E) {P : I.Stmt → Prop} {R : S → S → Prop} (refl : ∀ s, R s s)
    (keeps : ∀ stmt s, P stmt → R s (h.after stmt s)) (pool : Pool ι I S E A) (i : ι)
    (issues : (pool.procs i).Issues P) : R pool.store (pool.turn h i).2.store := by
  obtain same | ⟨next, _, same⟩ | ⟨stmt, next, reply, t, shape, replied, same⟩ | ⟨stmt, next, why,
    _, _, same⟩ :=
    pool.turn_cases h i <;> rw [same]
  · exact refl _
  · exact refl _
  · rw [shape] at issues
    have kept := keeps stmt pool.store issues.1
    rwa [h.after_ok replied] at kept
  · exact refl _

/-- A preorder kept by every statement that the calls can issue relates the ends of every play. -/
theorem Pool.play_frame (h : Handler I S E) {P : I.Stmt → Prop} {R : S → S → Prop} (refl : ∀ s, R s s)
    (trans : ∀ s t u, R s t → R t u → R s u) (keeps : ∀ stmt s, P stmt → R s (h.after stmt s))
    (schedule : List ι) (pool : Pool ι I S E A) (issues : ∀ i, (pool.procs i).Issues P) :
    R pool.store (pool.play h schedule).2.store := by
  induction schedule generalizing pool with
  | nil => exact refl _
  | cons i rest ih =>
      exact trans _ _ _ (pool.turn_frame h refl keeps i (issues i)) (ih _ (pool.turn_issues h issues i).2)

/-- Each executed statement is the handler's own step from the store it met. -/
theorem Pool.play_event (h : Handler I S E) (schedule : List ι) (pool : Pool ι I S E A) :
    ∀ e ∈ (pool.play h schedule).1, e.2 = h.event e.2.stmt e.2.before := by
  induction schedule generalizing pool with
  | nil => simp [play]
  | cons i rest ih =>
      simp only [play, List.mem_append]
      rintro e (member | member)
      · simp only [turn] at member
        split at member <;> simp only [List.not_mem_nil, List.mem_singleton] at member
        subst member
        rfl
      · exact ih _ e member

/-! ## Proof outlines -/

/-- The rules a call with ghost `g` follows: what it may rely on whenever it
moves, which statements the schedule must grant it, and how a statement changes
its ghost. -/
structure Discipline (I : Interface) (S γ : Type) where
  Knows : γ → S → Prop
  Grants : Event I S → Prop
  Commits : γ → Event I S → γ → Prop

def Proc.Outline (h : Handler I S E) (d : Discipline I S γ) (Q : Except E A → γ → Prop) :
    Proc I S E A → γ → Prop
  | .done value, g => Q (.ok value) g
  | .fail why, g => Q (.error why) g
  | .read next, g => ∀ s, d.Knows g s → (next s).Outline h d Q g
  | .exec stmt next, g => ∀ s, d.Knows g s → d.Grants (h.event stmt s) →
      ∃ g', d.Commits g (h.event stmt s) g' ∧
        match h stmt s with
        | .ok (reply, _) => (next reply).Outline h d Q g'
        | .error why => Q (.error why) g'

/-- The outcome of a first procedure, when a second one continues it. -/
def outlined (Q : Except E B → γ → Prop) (next : A → γ → Prop) : Except E A → γ → Prop
  | .ok value, g => next value g
  | .error why, g => Q (.error why) g

theorem Proc.outline_bind (h : Handler I S E) (d : Discipline I S γ) (Q : Except E B → γ → Prop)
    (p : Proc I S E A) (f : A → Proc I S E B) (g : γ)
    (first : p.Outline h d (outlined Q fun value => (f value).Outline h d Q) g) :
    (p >>= f).Outline h d Q g := by
  induction p generalizing g with
  | done value => exact first
  | fail why => exact first
  | read next ih => exact fun s knows => ih s g (first s knows)
  | exec stmt next ih =>
      intro s knows granted
      obtain ⟨g', commits, rest⟩ := first s knows granted
      refine ⟨g', commits, ?_⟩
      cases replied : h stmt s with
      | ok result =>
          rw [replied] at rest
          exact ih result.1 g' rest
      | error why =>
          rw [replied] at rest
          exact rest

theorem Proc.outline_mono (h : Handler I S E) (d : Discipline I S γ) {Q Q' : Except E A → γ → Prop}
    (p : Proc I S E A) (g : γ) (outline : p.Outline h d Q g) (implies : ∀ r g, Q r g → Q' r g) :
    p.Outline h d Q' g := by
  induction p generalizing g with
  | done value => exact implies _ _ outline
  | fail why => exact implies _ _ outline
  | read next ih => exact fun s knows => ih s g (outline s knows)
  | exec stmt next ih =>
      intro s knows granted
      obtain ⟨g', commits, rest⟩ := outline s knows granted
      refine ⟨g', commits, ?_⟩
      cases replied : h stmt s with
      | ok result =>
          rw [replied] at rest
          exact ih result.1 g' rest
      | error why =>
          rw [replied] at rest
          exact implies _ _ rest

/-- What follows a procedure starts from any outcome and ghost that its outline allows. -/
theorem Proc.outline_seq {h : Handler I S E} {d : Discipline I S γ} {Q : Except E A → γ → Prop}
    {Q' : Except E B → γ → Prop} {p : Proc I S E A} {f : A → Proc I S E B} {g : γ}
    (first : p.Outline h d Q g)
    (rest : ∀ r g', Q r g' → outlined Q' (fun value => (f value).Outline h d Q') r g') :
    (p >>= f).Outline h d Q' g :=
  outline_bind h d Q' p f g (outline_mono h d p g first rest)

/-- A procedure whose statements all leave the ghost alone ends with the ghost it had. -/
theorem Proc.outline_of_issues (h : Handler I S E) (d : Discipline I S γ) {P : I.Stmt → Prop} (g : γ)
    (quiet : ∀ stmt s, P stmt → d.Knows g s → d.Commits g (h.event stmt s) g)
    (p : Proc I S E A) (issues : p.Issues P) : p.Outline h d (fun _ g' => g' = g) g := by
  induction p with
  | done value => rfl
  | fail why => rfl
  | read next ih => exact fun s _ => ih s (issues s)
  | exec stmt next ih =>
      intro s knows _
      refine ⟨g, quiet stmt s issues.1 knows, ?_⟩
      cases replied : h stmt s with
      | ok result => exact ih result.1 (issues.2 result.1)
      | error why => rfl

/-- The outline of one call, read along its sequential run. -/
theorem Proc.run_outline (h : Handler I S E) (d : Discipline I S γ) {Q : Except E A → γ → Prop}
    {J : S → γ → Prop} (knows : ∀ s g, J s g → d.Knows g s)
    (keeps : ∀ stmt s g g', J s g → d.Commits g (h.event stmt s) g' → J (h.after stmt s) g')
    (p : Proc I S E A) (s : S) (g : γ) (start : J s g) (outline : p.Outline h d Q g)
    (granted : ∀ e ∈ p.events h s, d.Grants e) :
    ∃ g', J (p.run h s).2 g' ∧ Q (p.run h s).1 g' := by
  induction p generalizing s g with
  | done value => exact ⟨g, start, outline⟩
  | fail why => exact ⟨g, start, outline⟩
  | read next ih => exact ih s s g start (outline s (knows s g start)) granted
  | exec stmt next ih =>
      simp only [events, List.forall_mem_cons] at granted
      obtain ⟨g', commits, rest⟩ := outline s (knows s g start) granted.1
      have kept := keeps stmt s g g' start commits
      simp only [run]
      cases replied : h stmt s with
      | ok result =>
          rw [replied] at rest granted
          rw [h.after_ok replied] at kept
          exact ih result.1 result.2 g' kept rest granted.2
      | error why =>
          rw [replied] at rest
          rw [h.after_error replied] at kept
          exact ⟨g', kept, rest⟩

/-- An outline that recalls the store last seen: when the call moves again, the
store it meets is one that `R` leads to. -/
def Proc.Recalls (h : Handler I S E) (d : Discipline I S γ) (R : S → S → Prop)
    (Q : Except E A → γ → S → Prop) : Proc I S E A → γ → S → Prop
  | .done value, g, m => Q (.ok value) g m
  | .fail why, g, m => Q (.error why) g m
  | .read next, g, m => ∀ s, R m s → d.Knows g s → (next s).Recalls h d R Q g s
  | .exec stmt next, g, m => ∀ s, R m s → d.Knows g s → d.Grants (h.event stmt s) →
      ∃ g', d.Commits g (h.event stmt s) g' ∧
        match h stmt s with
        | .ok (reply, t) => (next reply).Recalls h d R Q g' t
        | .error why => Q (.error why) g' s

/-- The outcome of a first procedure and the store it last saw, when a second one continues it. -/
def recalled (Q : Except E B → γ → S → Prop) (next : A → γ → S → Prop) : Except E A → γ → S → Prop
  | .ok value, g, m => next value g m
  | .error why, g, m => Q (.error why) g m

theorem Proc.recalls_seq {h : Handler I S E} {d : Discipline I S γ} {R : S → S → Prop}
    {Q : Except E A → γ → S → Prop} {Q' : Except E B → γ → S → Prop} {p : Proc I S E A}
    {f : A → Proc I S E B} {g : γ} {m : S} (first : p.Recalls h d R Q g m)
    (rest : ∀ r g' m', Q r g' m' → recalled Q' (fun value => (f value).Recalls h d R Q') r g' m') :
    (p >>= f).Recalls h d R Q' g m := by
  induction p generalizing g m with
  | done value => exact rest _ _ _ first
  | fail why => exact rest _ _ _ first
  | read next ih => exact fun s relied knows => ih s (first s relied knows)
  | exec stmt next ih =>
      intro s relied knows granted
      obtain ⟨g', commits, told⟩ := first s relied knows granted
      refine ⟨g', commits, ?_⟩
      cases replied : h stmt s with
      | ok result =>
          rw [replied] at told
          exact ih result.1 told
      | error why =>
          rw [replied] at told
          exact rest _ _ _ told

theorem Proc.recalls_mono {h : Handler I S E} {d : Discipline I S γ} {R : S → S → Prop}
    {Q Q' : Except E A → γ → S → Prop} {p : Proc I S E A} {g : γ} {m : S} (recalls : p.Recalls h d R Q g m)
    (implies : ∀ r g' m', Q r g' m' → Q' r g' m') : p.Recalls h d R Q' g m := by
  induction p generalizing g m with
  | done value => exact implies _ _ _ recalls
  | fail why => exact implies _ _ _ recalls
  | read next ih => exact fun s relied knows => ih s (recalls s relied knows)
  | exec stmt next ih =>
      intro s relied knows granted
      obtain ⟨g', commits, rest⟩ := recalls s relied knows granted
      refine ⟨g', commits, ?_⟩
      cases replied : h stmt s with
      | ok result =>
          rw [replied] at rest
          exact ih result.1 rest
      | error why =>
          rw [replied] at rest
          exact implies _ _ _ rest

/-- What follows a procedure without statements has its ghost, and still knows all that was known before. -/
theorem Proc.recalls_silent {h : Handler I S E} {d : Discipline I S γ} {R : S → S → Prop}
    (refl : ∀ s, R s s) (trans : ∀ s t u, R s t → R t u → R s u) {Q : Except E B → γ → S → Prop}
    {p : Proc I S E A} {f : A → Proc I S E B} {g : γ} {m : S} (silent : p.Issues fun _ => False)
    (rest : ∀ value m', R m m' → (f value).Recalls h d R Q g m')
    (failed : ∀ why m', R m m' → Q (.error why) g m') : (p >>= f).Recalls h d R Q g m := by
  -- The induction moves the store that is recalled; `origin` stays the first one.
  suffices general : ∀ origin, R origin m → (∀ value m', R origin m' → (f value).Recalls h d R Q g m') →
      (∀ why m', R origin m' → Q (.error why) g m') → (p >>= f).Recalls h d R Q g m from
    general m (refl m) rest failed
  clear rest failed
  induction p generalizing m with
  | done value => exact fun origin reached rest _ => rest value m reached
  | fail why => exact fun origin reached _ failed => failed why m reached
  | read next ih =>
      intro origin reached rest failed s relied _
      exact ih s (silent s) origin (trans _ _ _ reached relied) rest failed
  | exec stmt next ih => exact silent.1.elim

/-- Where statements move the store along `R`, a call ends in a store to which `R` leads from
the one it started from. -/
theorem Proc.recalls_moved {h : Handler I S E} {d : Discipline I S γ} {R : S → S → Prop}
    (refl : ∀ s, R s s) (trans : ∀ s t u, R s t → R t u → R s u)
    (moves : ∀ g e g', d.Commits g e g' → R e.before e.after) {Q : Except E A → γ → S → Prop}
    {p : Proc I S E A} {g : γ} {m : S} (recalls : p.Recalls h d R Q g m) :
    p.Recalls h d R (fun r g' m' => R m m' ∧ Q r g' m') g m := by
  suffices general : ∀ origin, R origin m → p.Recalls h d R (fun r g' m' => R origin m' ∧ Q r g' m') g m from
    general m (refl m)
  induction p generalizing g m with
  | done value => exact fun origin reached => ⟨reached, recalls⟩
  | fail why => exact fun origin reached => ⟨reached, recalls⟩
  | read next ih =>
      intro origin reached s relied knows
      exact ih s (recalls s relied knows) origin (trans _ _ _ reached relied)
  | exec stmt next ih =>
      intro origin reached s relied knows granted
      obtain ⟨g', commits, rest⟩ := recalls s relied knows granted
      refine ⟨g', commits, ?_⟩
      have moved : R s (h.after stmt s) := moves g _ g' commits
      cases replied : h stmt s with
      | ok result =>
          rw [replied] at rest
          rw [h.after_ok replied] at moved
          exact ih result.1 rest origin (trans _ _ _ (trans _ _ _ reached relied) moved)
      | error why =>
          rw [replied] at rest
          exact ⟨trans _ _ _ reached relied, rest⟩

/-- A procedure whose statements, once granted, leave the ghost alone ends with the ghost it had. -/
theorem Proc.recalls_granted (h : Handler I S E) (d : Discipline I S γ) (R : S → S → Prop) (g : γ)
    (alone : ∀ stmt s, d.Grants (h.event stmt s) → d.Commits g (h.event stmt s) g)
    (p : Proc I S E A) (m : S) :
    p.Recalls h d R (fun _ g' _ => g' = g) g m := by
  induction p generalizing m with
  | done value => rfl
  | fail why => rfl
  | read next ih => exact fun s _ _ => ih s s
  | exec stmt next ih =>
      intro s _ _ granted
      refine ⟨g, alone stmt s granted, ?_⟩
      cases replied : h stmt s with
      | ok result => exact ih result.1 result.2
      | error why => rfl

/-- A call that recalls nothing has an outline. -/
theorem Proc.recalls_nothing (h : Handler I S E) (d : Discipline I S γ) {Q : Except E A → γ → Prop}
    (p : Proc I S E A) (g : γ) (m : S) :
    p.Recalls h d (fun _ _ => True) (fun r g _ => Q r g) g m ↔ p.Outline h d Q g := by
  induction p generalizing g m with
  | done value => exact Iff.rfl
  | fail why => exact Iff.rfl
  | read next ih =>
      simp only [Recalls, Outline, true_implies]
      exact forall_congr' fun s => imp_congr_right fun _ => ih s g s
  | exec stmt next ih =>
      simp only [Recalls, Outline, true_implies]
      refine forall_congr' fun s => imp_congr_right fun _ => imp_congr_right fun _ =>
        exists_congr fun g' =>
        and_congr_right fun _ => ?_
      cases h stmt s with
      | ok result => exact ih result.1 g' result.2
      | error why => exact Iff.rfl

section Play

variable (h : Handler I S E) (d : ι → Discipline I S γ) {R : S → S → Prop}
  {Q : ι → Except E A → γ → S → Prop}
  {J : History ι I S → S → (ι → γ) → Prop} {F : History ι I S → ι → Event I S → Prop}
  (refl : ∀ s, R s s) (trans : ∀ s t u, R s t → R t u → R s u)
  (knows : ∀ past s g i, J past s g → (d i).Knows (g i) s)
  (grants : ∀ past i e, F past i e → (d i).Grants e)
  (keeps : ∀ past g i stmt s g', J past s g → F past i (h.event stmt s) →
    (d i).Commits (g i) (h.event stmt s) g' →
    J (past ++ [(i, h.event stmt s)]) (h.after stmt s) (Function.update g i g') ∧ R s (h.after stmt s))

include refl trans knows grants keeps

theorem Pool.turn_recalls (pool : Pool ι I S E A) (past : History ι I S) (g : ι → γ)
    (start : J past pool.store g)
    (recalls : ∀ i, ∃ m, R m pool.store ∧ (pool.procs i).Recalls h (d i) R (Q i) (g i) m) (i : ι)
    (fair : ∀ e, (pool.turn h i).1 = [(i, e)] → F past i e) :
    ∃ g', J (past ++ (pool.turn h i).1) (pool.turn h i).2.store g' ∧
      ∀ j, ∃ m, R m (pool.turn h i).2.store ∧
        ((pool.turn h i).2.procs j).Recalls h (d j) R (Q j) (g' j) m := by
  obtain ⟨m, relied, moving⟩ := recalls i
  -- The others recall what they did: the store has moved on along `R`.
  have updated (p : Proc I S E A) (g' : γ) (t : S) (moved : R pool.store t)
    (told : p.Recalls h (d i) R (Q i) g' t) :
      ∀ j, ∃ m, R m t ∧
        (Function.update pool.procs i p j).Recalls h (d j) R (Q j) (Function.update g i g' j) m :=
    update_procs (P := fun j p g => ∃ m, R m t ∧ p.Recalls h (d j) R (Q j) g m)
      (fun j => (recalls j).imp fun m both => ⟨trans _ _ _ both.1 moved, both.2⟩) i p g' ⟨t, refl t, told⟩
  obtain same | ⟨next, shape, same⟩ | ⟨stmt, next, reply, t, shape, replied, same⟩ |
    ⟨stmt, next, why, shape, replied, same⟩ := pool.turn_cases h i <;> rw [same] at fair ⊢ <;>
    try rw [shape] at moving
  · exact ⟨g, by simpa using start, recalls⟩
  · refine ⟨g, by simpa using start, fun j => ?_⟩
    have moved := updated _ (g i) _ (refl _) (moving _ relied (knows _ _ _ i start)) j
    rwa [Function.update_eq_self] at moved
  · have granted := fair (h.event stmt pool.store) rfl
    obtain ⟨g', commits, rest⟩ := moving _ relied (knows _ _ _ i start) (grants _ _ _ granted)
    obtain ⟨kept, moved⟩ := keeps past g i stmt pool.store g' start granted commits
    rw [replied] at rest
    rw [h.after_ok replied] at kept moved
    exact ⟨Function.update g i g', kept, updated _ _ _ moved rest⟩
  · have granted := fair (h.event stmt pool.store) rfl
    obtain ⟨g', commits, rest⟩ := moving _ relied (knows _ _ _ i start) (grants _ _ _ granted)
    obtain ⟨kept, _⟩ := keeps past g i stmt pool.store g' start granted commits
    rw [replied] at rest
    rw [h.after_error replied] at kept
    exact ⟨Function.update g i g', kept, updated (.fail why) _ _ (refl _) rest⟩

/-- The invariant of a pool whose calls all recall what they rely on holds after
every play in which the schedule grants each statement. -/
theorem Pool.play_recalls (schedule : List ι) (pool : Pool ι I S E A) (past : History ι I S) (g : ι → γ)
    (start : J past pool.store g)
    (recalls : ∀ i, ∃ m, R m pool.store ∧ (pool.procs i).Recalls h (d i) R (Q i) (g i) m)
    (fair : ∀ front i e back, (pool.play h schedule).1 = front ++ (i, e) :: back → F (past ++ front) i e) :
    ∃ g', J (past ++ (pool.play h schedule).1) (pool.play h schedule).2.store g' ∧
      ∀ i, ∃ m, R m (pool.play h schedule).2.store ∧
        ((pool.play h schedule).2.procs i).Recalls h (d i) R (Q i) (g' i) m := by
  induction schedule generalizing pool past g with
  | nil => exact ⟨g, by simpa [play] using start, recalls⟩
  | cons i rest ih =>
      simp only [play] at fair ⊢
      obtain ⟨g', next, moved⟩ :=
        pool.turn_recalls h d refl trans knows grants keeps past g start recalls i
          (fun e now => by
            simpa using fair [] i e _ (by rw [now]; rfl))
      -- The rest of the play starts from the longer past.
      rw [← List.append_assoc]
      refine ih _ _ g' next moved fun front j e back split => ?_
      rw [List.append_assoc]
      exact fair _ j e back (by rw [split, List.append_assoc])

end Play

/-- The invariant of a pool whose calls all have outlines holds after every
play in which the schedule grants each statement. -/
theorem Pool.play_outline (h : Handler I S E) (d : Discipline I S γ) {Q : ι → Except E A → γ → Prop}
    {J : History ι I S → S → (ι → γ) → Prop} {F : History ι I S → ι → Event I S → Prop}
    (knows : ∀ past s g i, J past s g → d.Knows (g i) s) (grants : ∀ past i e, F past i e → d.Grants e)
    (keeps : ∀ past g i stmt s g', J past s g → F past i (h.event stmt s) →
      d.Commits (g i) (h.event stmt s) g' →
      J (past ++ [(i, h.event stmt s)]) (h.after stmt s) (Function.update g i g'))
    (schedule : List ι) (pool : Pool ι I S E A) (past : History ι I S) (g : ι → γ)
    (start : J past pool.store g) (outlines : ∀ i, (pool.procs i).Outline h d (Q i) (g i))
    (fair : ∀ front i e back, (pool.play h schedule).1 = front ++ (i, e) :: back → F (past ++ front) i e) :
    ∃ g', J (past ++ (pool.play h schedule).1) (pool.play h schedule).2.store g' ∧
      ∀ i, ((pool.play h schedule).2.procs i).Outline h d (Q i) (g' i) := by
  obtain ⟨g', ends, recalls⟩ := pool.play_recalls h (fun _ => d) (R := fun _ _ => True)
    (Q := fun i r g _ => Q i r g) (fun _ => trivial) (fun _ _ _ _ _ => trivial) knows grants
    (fun past g i stmt s g' held granted commits => ⟨keeps past g i stmt s g' held granted commits, trivial⟩)
    schedule past g start
    (fun i => ⟨pool.store, trivial, (Proc.recalls_nothing h d _ _ _).mpr (outlines i)⟩) fair
  refine ⟨g', ends, fun i => ?_⟩
  obtain ⟨m, _, told⟩ := recalls i
  exact (Proc.recalls_nothing h d _ _ m).mp told

theorem Proc.recalls_ended (h : Handler I S E) (d : Discipline I S γ) {R : S → S → Prop}
    {Q : Except E A → γ → S → Prop} {p : Proc I S E A} {g : γ} {m : S} {r : Except E A}
    (recalls : p.Recalls h d R Q g m) (ended : p.ended = some r) : Q r g m := by
  cases p with
  | done value => cases ended; exact recalls
  | fail why => cases ended; exact recalls
  | read next => cases ended
  | exec stmt next => cases ended

/-- At the end of a play every outcome satisfies its postcondition. -/
theorem Proc.outline_ended (h : Handler I S E) (d : Discipline I S γ) {Q : Except E A → γ → Prop}
    {p : Proc I S E A} {g : γ} {r : Except E A} (outline : p.Outline h d Q g) (ended : p.ended = some r) :
    Q r g := by
  cases p with
  | done value => cases ended; exact outline
  | fail why => cases ended; exact outline
  | read next => cases ended
  | exec stmt next => cases ended

end AccreditationBackend.Foundation
