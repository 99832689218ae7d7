import Mathlib.Data.Fintype.Card
import AccreditationBackend.Foundation.Interleaving

/-! Interleaved calls that stand at named stages.

Where each call of a pool stands is a value of its own, and `proc` says what is
left of the call there. The stages may tell apart what a ghost of an outline
cannot: whether a call has read the store yet.
-/

set_option autoImplicit false

namespace AccreditationBackend.Foundation

variable {I : Interface} {S E A Stage : Type} {ι : Type} [DecidableEq ι]

section Turns

variable (h : Handler I S E) (pool : Pool ι I S E A)

theorem Pool.turn_read {i : ι} {next : S → Proc I S E A} (moving : pool.procs i = .read next) :
    pool.turn h i = ([], ⟨pool.store, Function.update pool.procs i (next pool.store)⟩) := by
  simp only [turn, moving]

theorem Pool.turn_exec {i : ι} {stmt : I.Stmt} {next : I.Reply stmt → Proc I S E A}
    {reply : I.Reply stmt} {t : S} (moving : pool.procs i = .exec stmt next)
    (replied : h stmt pool.store = .ok (reply, t)) :
    pool.turn h i = ([(i, h.event stmt pool.store)], ⟨t, Function.update pool.procs i (next reply)⟩) := by
  simp only [turn, moving, replied]

theorem Pool.turn_ended {i : ι} (ended : (pool.procs i).ended.isSome) : pool.turn h i = ([], pool) := by
  cases moving : pool.procs i <;> simp_all [turn, Proc.ended]

/-- A turn moves no other call. -/
theorem Pool.turn_other {i j : ι} (other : j ≠ i) : (pool.turn h i).2.procs j = pool.procs j := by
  obtain same | ⟨_, _, same⟩ | ⟨_, _, _, _, _, _, same⟩ | ⟨_, _, _, _, _, same⟩ := pool.turn_cases h i <;>
    rw [same] <;> simp [other]

/-- A call that the schedule never names stands where it stood. -/
theorem Pool.play_untouched {schedule : List ι} {i : ι} (never : i ∉ schedule) (pool : Pool ι I S E A) :
    (pool.play h schedule).2.procs i = pool.procs i := by
  induction schedule generalizing pool with
  | nil => rfl
  | cons j rest ih =>
      obtain ⟨other, later⟩ := not_or.mp (mt List.mem_cons.mpr never)
      rw [play, ih later, turn_other h pool other]

theorem Pool.play_append (front back : List ι) (pool : Pool ι I S E A) :
    pool.play h (front ++ back) =
      ((pool.play h front).1 ++ ((pool.play h front).2.play h back).1, ((pool.play h front).2.play h back).2) := by
  induction front generalizing pool with
  | nil => rfl
  | cons i rest ih => simp only [List.cons_append, play, ih, List.append_assoc]

theorem Pool.play_snoc (front : List ι) (i : ι) :
    pool.play h (front ++ [i]) =
      ((pool.play h front).1 ++ ((pool.play h front).2.turn h i).1, ((pool.play h front).2.turn h i).2) := by
  rw [play_append]
  simp [play]

/-- What some schedule leads to after a first one, some schedule leads to. -/
theorem Pool.play_later {P : Event I S → Prop} {pool : Pool ι I S E A} (front : List ι)
    (later : ∃ back, ∃ e ∈ ((pool.play h front).2.play h back).1, P e.2) :
    ∃ schedule, ∃ e ∈ (pool.play h schedule).1, P e.2 := by
  obtain ⟨back, e, member, holds⟩ := later
  refine ⟨front ++ back, e, ?_, holds⟩
  rw [play_append]
  exact List.mem_append_right _ member

/-- Calls that stand at a read all see the store that the first of them saw. -/
theorem Pool.play_reads {schedule : List ι} (distinct : schedule.Nodup) (pool : Pool ι I S E A)
    {next : ι → S → Proc I S E A} (reading : ∀ i ∈ schedule, pool.procs i = .read (next i)) :
    (pool.play h schedule).2.store = pool.store ∧
      (∀ i ∈ schedule, (pool.play h schedule).2.procs i = next i pool.store) := by
  induction schedule generalizing pool with
  | nil => exact ⟨rfl, by simp⟩
  | cons i rest ih =>
      obtain ⟨apart, distinct⟩ := List.nodup_cons.mp distinct
      have now := turn_read h pool (reading i (by simp))
      have later : ∀ j ∈ rest, (pool.turn h i).2.procs j = .read (next j) := by
        intro j member
        have other : j ≠ i := fun same => apart (same ▸ member)
        rw [turn_other h pool other]
        exact reading j (by simp [member])
      obtain ⟨kept, moved⟩ := ih distinct _ later
      simp only [play, List.forall_mem_cons]
      rw [now] at kept moved ⊢
      refine ⟨kept, ?_, moved⟩
      rw [play_untouched h apart]
      simp

/-- A call that has the store to itself does what its sequential run does. -/
theorem Pool.play_alone (pool : Pool ι I S E A) (i : ι) :
    ∃ turns, (pool.play h (List.replicate turns i)).2.store = ((pool.procs i).run h pool.store).2 := by
  obtain ⟨store, procs⟩ := pool
  dsimp only
  generalize moving : procs i = p
  induction p generalizing store procs with
  | done value => exact ⟨0, rfl⟩
  | fail why => exact ⟨0, rfl⟩
  | read next ih =>
      obtain ⟨turns, ran⟩ := ih store store (Function.update procs i (next store)) (by simp)
      refine ⟨turns + 1, ?_⟩
      simp only [List.replicate_succ, play, turn_read h ⟨store, procs⟩ moving]
      exact ran
  | exec stmt next ih =>
      cases replied : h stmt store with
      | ok result =>
          obtain ⟨turns, ran⟩ := ih result.1 result.2 (Function.update procs i (next result.1)) (by simp)
          refine ⟨turns + 1, ?_⟩
          simp only [List.replicate_succ, play, Proc.run, replied,
            turn_exec h ⟨store, procs⟩ moving replied]
          exact ran
      | error why =>
          refine ⟨1, ?_⟩
          simp only [List.replicate_one, play, turn, moving, Proc.run, replied]

end Turns

/-- If every turn takes its call from one stage to the next, keeps the invariant
of the store and issues only events that satisfy `P`, so does every schedule. -/
theorem Pool.play_placed (h : Handler I S E) {L : ι → Stage → Proc I S E A → Prop} {J : S → (ι → Stage) → Prop}
    {P : Event I S → Prop}
    (moves : ∀ (pool : Pool ι I S E A) g i, J pool.store g → (∀ j, L j (g j) (pool.procs j)) →
      (∃ stage, J (pool.turn h i).2.store (Function.update g i stage) ∧
        L i stage ((pool.turn h i).2.procs i)) ∧ ∀ e ∈ (pool.turn h i).1, P e.2)
    (schedule : List ι) (pool : Pool ι I S E A) {g : ι → Stage} (start : J pool.store g)
    (placed : ∀ i, L i (g i) (pool.procs i)) :
    (∃ g, J (pool.play h schedule).2.store g ∧ ∀ j, L j (g j) ((pool.play h schedule).2.procs j)) ∧
      ∀ e ∈ (pool.play h schedule).1, P e.2 := by
  induction schedule generalizing pool g with
  | nil => exact ⟨⟨g, start, placed⟩, by simp [play]⟩
  | cons i rest ih =>
      obtain ⟨⟨stage, kept, moved⟩, issued⟩ := moves pool g i start placed
      have each : ∀ j, L j (Function.update g i stage j) ((pool.turn h i).2.procs j) := by
        intro j
        by_cases same : j = i
        · subst same
          simpa using moved
        · rw [turn_other h pool same, Function.update_of_ne same]
          exact placed j
      obtain ⟨reached, later⟩ := ih _ kept each
      refine ⟨reached, ?_⟩
      simp only [play, List.mem_append]
      rintro e (member | member)
      · exact issued e member
      · exact later e member

/-- If every turn takes its call from one stage to the next and keeps the
invariant, the calls stand at stages after every schedule. -/
theorem Pool.play_staged (h : Handler I S E) {proc : ι → Stage → Proc I S E A} {J : List ι → (ι → Stage) → Prop}
    (pool : Pool ι I S E A) {g : ι → Stage} (start : J [] g) (placed : ∀ i, pool.procs i = proc i (g i))
    (moves : ∀ front g i, J front g → (∀ j, (pool.play h front).2.procs j = proc j (g j)) →
      ∃ stage, J (front ++ [i]) (Function.update g i stage) ∧
        ((pool.play h front).2.turn h i).2.procs i = proc i stage) (schedule : List ι) :
    ∃ g, J schedule g ∧ ∀ j, (pool.play h schedule).2.procs j = proc j (g j) := by
  induction schedule using List.reverseRecOn with
  | nil => exact ⟨g, start, placed⟩
  | append_singleton front i ih =>
      obtain ⟨g, held, placed⟩ := ih
      obtain ⟨stage, kept, moved⟩ := moves front g i held placed
      refine ⟨_, kept, fun j => ?_⟩
      rw [play_snoc]
      by_cases same : j = i
      · subst same
        simpa using moved
      · rw [turn_other h _ same, Function.update_of_ne same]
        exact placed j

/-! ## How many calls stand where -/

section Counting

variable [Fintype ι] {g : ι → Stage} {i : ι} {stage : Stage} {p : Stage → Bool}

/-- The number of calls whose stage satisfies `p`. -/
def standing (p : Stage → Bool) (g : ι → Stage) : Nat := (Finset.univ.filter fun i => p (g i) = true).card

theorem standing_kept (same : p stage = p (g i)) :
    standing p (Function.update g i stage) = standing p g := by
  unfold standing
  congr 1
  refine Finset.filter_congr fun j _ => ?_
  by_cases moved : j = i
  · subst moved
    simp [same]
  · simp [moved]

theorem standing_entered (outside : p (g i) = false) (inside : p stage = true) :
    standing p (Function.update g i stage) = standing p g + 1 := by
  unfold standing
  have entered : (Finset.univ.filter fun j => p (Function.update g i stage j) = true) =
      insert i (Finset.univ.filter fun j => p (g j) = true) := by
    ext j
    by_cases moved : j = i
    · subst moved
      simp [inside]
    · simp [moved]
  rw [entered, Finset.card_insert_of_notMem (by simp [outside])]

theorem standing_left (inside : p (g i) = true) (outside : p stage = false) :
    standing p (Function.update g i stage) + 1 = standing p g := by
  have back : standing p (Function.update (Function.update g i stage) i (g i)) =
      standing p (Function.update g i stage) + 1 := standing_entered (by simpa using outside) inside
  rw [Function.update_idem, Function.update_eq_self] at back
  exact back.symm

/-- Who leaves makes the number no greater. -/
theorem standing_le (outside : p stage = false) :
    standing p (Function.update g i stage) ≤ standing p g := by
  by_cases inside : p (g i) = true
  · rw [← standing_left inside outside]
    exact Nat.le_succ _
  · rw [standing_kept (by rw [outside]; simpa using inside)]

end Counting

end AccreditationBackend.Foundation
