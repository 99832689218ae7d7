import Mathlib.Data.List.Flatten
import AccreditationBackend.Foundation.Interleaving

/-! Calls that account for what they have executed themselves.

The ghost of a call is the list of its own statements. What it reads, it reads
at a moment of the play, and it knows how far it had come itself by then: a row
it found before its first statement is told apart from one it has written.
-/

set_option autoImplicit false

namespace AccreditationBackend.Foundation

variable {I : Interface} {S E A B : Type} {ι : Type} [DecidableEq ι]

/-! ## Histories -/

/-- The statements of one call, in order. -/
def History.own (history : History ι I S) (i : ι) : List (Event I S) :=
  (history.filter (·.1 = i)).map (·.2)

/-- The store after a history that started from `s`. -/
def History.reached (history : History ι I S) (s : S) : S := history.foldl (fun _ e => e.2.after) s

section Histories

variable (history : History ι I S) (s : S) (e : Event I S)

@[simp] theorem History.own_nil (i : ι) : History.own ([] : History ι I S) i = [] := rfl

theorem History.own_snoc (i : ι) : History.own (history ++ [(i, e)]) i = history.own i ++ [e] := by
  simp [own]

theorem History.own_snoc_other {i j : ι} (other : j ≠ i) :
    History.own (history ++ [(i, e)]) j = history.own j := by
  simp [own, other.symm]

omit [DecidableEq ι] in
@[simp] theorem History.reached_snoc (i : ι) : History.reached (history ++ [(i, e)]) s = e.after := by
  simp [reached]

end Histories

/-- The play passed through the store when the call had executed `own`. -/
def Pool.Met (h : Handler I S E) (pool : Pool ι I S E A) (schedule : List ι) (i : ι) (own : List (Event I S))
    (s : S) : Prop :=
  ∃ front, front <+: (pool.play h schedule).1 ∧ History.own front i = own ∧ History.reached front pool.store = s

/-! ## The rules of a call -/

section Rules

variable {J : S → Prop} {R : S → S → Prop} {W : List (Event I S) → S → Prop}

/-- Every statement keeps `J`, moves the store along `R` and is entered; a store met by a call
that has executed `own` is one that `W own` allows. -/
def accounting (J : S → Prop) (R : S → S → Prop) (W : List (Event I S) → S → Prop) :
    Discipline I S (List (Event I S)) where
  Knows own s := J s ∧ W own s
  Grants _ := True
  Commits own e own' := (J e.after ∧ R e.before e.after) ∧ own' = own ++ [e]

/-- The call respects `J` and `R` whatever the others do, and ends in `Q` of its own
statements and of the store it last saw. -/
abbrev Proc.AccountsFor (h : Handler I S E) (J : S → Prop) (R : S → S → Prop) (W : List (Event I S) → S → Prop)
    (Q : Except E A → List (Event I S) → S → Prop) (p : Proc I S E A) (own : List (Event I S)) (m : S) : Prop :=
  p.Recalls h (accounting J R W) R Q own m

theorem Proc.accountsFor_exec {h : Handler I S E} {Q : Except E A → List (Event I S) → S → Prop} {stmt : I.Stmt}
    {next : I.Reply stmt → Proc I S E A} {own : List (Event I S)} {m : S}
    (keeps : ∀ s, R m s → J s → J (h.after stmt s) ∧ R s (h.after stmt s))
    (replied : ∀ s reply t, R m s → J s → h stmt s = .ok (reply, t) →
      (next reply).AccountsFor h J R W Q (own ++ [h.event stmt s]) t)
    (failed : ∀ s why, R m s → J s → h stmt s = .error why → Q (.error why) (own ++ [h.event stmt s]) s) :
    (Proc.exec stmt next).AccountsFor h J R W Q own m := by
  intro s relied knows _
  refine ⟨own ++ [h.event stmt s], ⟨keeps s relied knows.1, rfl⟩, ?_⟩
  cases result : h stmt s with
  | ok both => exact replied s both.1 both.2 relied knows.1 result
  | error why => exact failed s why relied knows.1 result

/-- A procedure all of whose statements keep `J` and `R` adds only statements of its kind. -/
theorem Proc.accountsFor_issues (refl : ∀ s, R s s) (trans : ∀ s t u, R s t → R t u → R s u)
    {h : Handler I S E} {P : I.Stmt → Prop}
    (keeps : ∀ stmt s, P stmt → J s → J (h.after stmt s) ∧ R s (h.after stmt s)) {p : Proc I S E A}
    {own : List (Event I S)} {m : S} (issues : p.Issues P) :
    p.AccountsFor h J R W
      (fun _ own' m' => R m m' ∧ ∃ more, own' = own ++ more ∧ ∀ e ∈ more, P e.stmt) own m := by
  suffices general : ∀ origin first, R origin m → (∃ more, own = first ++ more ∧ ∀ e ∈ more, P e.stmt) →
      p.AccountsFor h J R W
        (fun _ own' m' => R origin m' ∧ ∃ more, own' = first ++ more ∧ ∀ e ∈ more, P e.stmt) own m from
    general m own (refl m) ⟨[], (List.append_nil own).symm, by simp⟩
  induction p generalizing own m with
  | done value => exact fun origin first reached entered => ⟨reached, entered⟩
  | fail why => exact fun origin first reached entered => ⟨reached, entered⟩
  | read next ih =>
      intro origin first reached entered s relied _
      exact ih s (issues s) origin first (trans _ _ _ reached relied) entered
  | exec stmt next ih =>
      intro origin first reached entered s relied knows _
      have kept := keeps stmt s issues.1 knows.1
      refine ⟨own ++ [h.event stmt s], ⟨kept, rfl⟩, ?_⟩
      have longer : ∃ more, own ++ [h.event stmt s] = first ++ more ∧ ∀ e ∈ more, P e.stmt := by
        obtain ⟨more, rfl, kind⟩ := entered
        refine ⟨more ++ [h.event stmt s], List.append_assoc _ _ _, fun e member => ?_⟩
        obtain early | last := List.mem_append.mp member
        · exact kind e early
        · rw [List.mem_singleton.mp last]
          exact issues.1
      cases replied : h stmt s with
      | ok result =>
          rw [h.after_ok replied] at kept
          exact ih result.1 (issues.2 result.1) origin first
            (trans _ _ _ (trans _ _ _ reached relied) kept.2) longer
      | error why => exact ⟨trans _ _ _ reached relied, longer⟩

end Rules

/-! ## Plays -/

section Play

variable (h : Handler I S E) {J : S → Prop} {R : S → S → Prop} (refl : ∀ s, R s s)
  (trans : ∀ s t u, R s t → R t u → R s u) {Q : ι → Except E A → List (Event I S) → S → Prop}

include refl trans

/-- If every call accounts for its statements, a call that has ended answers for exactly
those that the play has from it. -/
theorem Pool.play_accountsFor (schedule : List ι) (pool : Pool ι I S E A) (start : J pool.store)
    (accounts : ∀ i, (pool.procs i).AccountsFor h J R (pool.Met h schedule i) (Q i) [] pool.store) :
    J (pool.play h schedule).2.store ∧ R pool.store (pool.play h schedule).2.store ∧
      ∀ i r, ((pool.play h schedule).2.procs i).ended = some r →
        ∃ m, R m (pool.play h schedule).2.store ∧ Q i r ((pool.play h schedule).1.own i) m := by
  obtain ⟨g, ⟨⟨holds, moved⟩, -, -, entered⟩, recalls⟩ := pool.play_recalls h
    (fun i => accounting J R (pool.Met h schedule i))
    (J := fun past s g => (J s ∧ R pool.store s) ∧ past <+: (pool.play h schedule).1 ∧
      History.reached past pool.store = s ∧ ∀ i, History.own past i = g i)
    (F := fun past i e => past ++ [(i, e)] <+: (pool.play h schedule).1) refl trans
    (fun past s g i held => ⟨held.1.1, past, held.2.1, held.2.2.2 i, held.2.2.1⟩)
    (fun _ _ _ _ => trivial)
    (fun past g i stmt s own' held granted commits => by
      obtain ⟨⟨kept, along⟩, rfl⟩ := commits
      refine ⟨⟨⟨kept, trans _ _ _ held.1.2 along⟩, granted, History.reached_snoc _ _ _ _, fun j => ?_⟩, along⟩
      by_cases same : j = i
      · subst same
        rw [History.own_snoc, held.2.2.2 j, Function.update_self]
      · rw [History.own_snoc_other _ _ same, held.2.2.2 j, Function.update_of_ne same])
    schedule [] (fun _ => []) ⟨⟨start, refl _⟩, List.nil_prefix, rfl, fun _ => rfl⟩
    (fun i => ⟨pool.store, refl _, accounts i⟩)
    fun front i e back split => ⟨back, by rw [split]; simp⟩
  refine ⟨holds, moved, fun i r ended => ?_⟩
  obtain ⟨m, reached, told⟩ := recalls i
  have last := Proc.recalls_ended h _ told ended
  rw [← entered i] at last
  exact ⟨m, reached, last⟩

end Play

/-! ## What statements append -/

section Appending

variable {α : Type} {h : Handler I S E} {adds : I.Stmt → List α}

/-- A list that every statement extends is extended by those of the whole play. -/
theorem Pool.play_appends (view : S → List α) (each : ∀ stmt s, view (h.after stmt s) = view s ++ adds stmt)
    (schedule : List ι) (pool : Pool ι I S E A) :
    view (pool.play h schedule).2.store =
      view pool.store ++ (pool.play h schedule).1.flatMap fun e => adds e.2.stmt := by
  induction schedule generalizing pool with
  | nil => simp [play]
  | cons i rest ih =>
      simp only [play, List.flatMap_append, ← List.append_assoc]
      rw [ih]
      congr 1
      obtain same | ⟨next, _, same⟩ | ⟨stmt, next, reply, t, _, replied, same⟩ |
        ⟨stmt, next, why, _, failed, same⟩ := pool.turn_cases h i <;> rw [same]
      · simp
      · simp
      · have extended := each stmt pool.store
        rw [h.after_ok replied] at extended
        simpa using extended
      · have extended := each stmt pool.store
        rw [h.after_error failed] at extended
        simpa using extended

/-- What one call appends stands among what the play appends, in order. -/
theorem History.own_sublist (history : History ι I S) (i : ι) :
    ((history.own i).flatMap fun e => adds e.stmt).Sublist (history.flatMap fun e => adds e.2.stmt) := by
  rw [own, List.flatMap_map]
  exact List.filter_sublist.flatMap _

end Appending

end AccreditationBackend.Foundation
