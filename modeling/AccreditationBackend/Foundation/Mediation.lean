import AccreditationBackend.Foundation.Staged

/-! Calls whose every statement is judged when it is executed, by what the call has read before.

A call relies on what the others guarantee of their statements. What it reads is
the store of some moment of the play, so a statement that is allowed for what the
call has read is allowed for what the play has shown. A part of the store has
statements and procedures of its own; what is known of these carries over to the
whole.
-/

set_option autoImplicit false

namespace AccreditationBackend.Foundation

variable {I J : Interface} {S T E F A B : Type}

/-- The call executes what `P` allows for the stores it has read, from stores that
`R` leads to, and ends in `Q` of what it has read and of the store it last saw. -/
def Proc.Judged (h : Handler I S E) (R : S → S → Prop) (P : List S → Event I S → Prop)
    (Q : Except E A → List S → S → Prop) : Proc I S E A → List S → S → Prop
  | .done value, seen, m => Q (.ok value) seen m
  | .fail why, seen, m => Q (.error why) seen m
  | .read next, seen, m => ∀ s, R m s → (next s).Judged h R P Q (s :: seen) s
  | .exec stmt next, seen, m => ∀ s, R m s → P seen (h.event stmt s) ∧
      match h stmt s with
      | .ok (reply, t) => (next reply).Judged h R P Q seen t
      | .error why => Q (.error why) seen s

theorem Proc.issues_both {F G : I.Stmt → Prop} {p : Proc I S E A} (left : p.Issues F) (right : p.Issues G) :
    p.Issues fun stmt => F stmt ∧ G stmt := by
  induction p with
  | done value => trivial
  | fail why => trivial
  | read next ih => exact fun s => ih s (left s) (right s)
  | exec stmt next ih => exact ⟨⟨left.1, right.1⟩, fun reply => ih reply (left.2 reply) (right.2 reply)⟩

section Rules

variable {h : Handler I S E} {R : S → S → Prop} {P : List S → Event I S → Prop}

theorem Proc.judged_exec {Q : Except E A → List S → S → Prop} {stmt : I.Stmt}
    {next : I.Reply stmt → Proc I S E A} {seen : List S} {m : S} (allowed : ∀ s, R m s → P seen (h.event stmt s))
    (replied : ∀ s reply t, R m s → h stmt s = .ok (reply, t) → (next reply).Judged h R P Q seen t)
    (failed : ∀ s why, R m s → h stmt s = .error why → Q (.error why) seen s) :
    (Proc.exec stmt next).Judged h R P Q seen m := by
  intro s relied
  refine ⟨allowed s relied, ?_⟩
  cases result : h stmt s with
  | ok both => exact replied s both.1 both.2 relied result
  | error why => exact failed s why relied result

/-- What follows a first procedure starts from any outcome of it. -/
theorem Proc.judged_seq {Q : Except E A → List S → S → Prop} {Q' : Except E B → List S → S → Prop}
    {p : Proc I S E A} {f : A → Proc I S E B} {seen : List S} {m : S} (first : p.Judged h R P Q seen m)
    (rest : ∀ value seen' m', Q (.ok value) seen' m' → (f value).Judged h R P Q' seen' m')
    (failed : ∀ why seen' m', Q (.error why) seen' m' → Q' (.error why) seen' m') :
    (p >>= f).Judged h R P Q' seen m := by
  induction p generalizing seen m with
  | done value => exact rest _ _ _ first
  | fail why => exact failed _ _ _ first
  | read next ih => exact fun s relied => ih s (first s relied)
  | exec stmt next ih =>
      intro s relied
      obtain ⟨allowed, told⟩ := first s relied
      refine ⟨allowed, ?_⟩
      cases replied : h stmt s with
      | ok result =>
          rw [replied] at told
          exact ih result.1 told
      | error why =>
          rw [replied] at told
          exact failed _ _ _ told

theorem Proc.judged_mono {R' : S → S → Prop} {P' : List S → Event I S → Prop} {Q Q' : Except E A → List S → S → Prop}
    {p : Proc I S E A} {seen : List S} {m : S} (judged : p.Judged h R P Q seen m) (relied : ∀ s t, R' s t → R s t)
    (allowed : ∀ seen' e, P seen' e → P' seen' e) (ended : ∀ r seen' m', Q r seen' m' → Q' r seen' m') :
    p.Judged h R' P' Q' seen m := by
  induction p generalizing seen m with
  | done value => exact ended _ _ _ judged
  | fail why => exact ended _ _ _ judged
  | read next ih => exact fun s moved => ih s (judged s (relied m s moved))
  | exec stmt next ih =>
      intro s moved
      obtain ⟨permitted, told⟩ := judged s (relied m s moved)
      refine ⟨allowed _ _ permitted, ?_⟩
      cases replied : h stmt s with
      | ok result =>
          rw [replied] at told
          exact ih result.1 told
      | error why =>
          rw [replied] at told
          exact ended _ _ _ told

/-- A procedure forgets nothing that it has read. -/
theorem Proc.judged_grows {Q : Except E A → List S → S → Prop} {p : Proc I S E A} {seen : List S} {m : S}
    (judged : p.Judged h R P Q seen m) :
    p.Judged h R (fun seen' e => seen ⊆ seen' ∧ P seen' e) (fun r seen' m' => seen ⊆ seen' ∧ Q r seen' m') seen m := by
  induction p generalizing seen m with
  | done value => exact ⟨List.Subset.refl _, judged⟩
  | fail why => exact ⟨List.Subset.refl _, judged⟩
  | read next ih =>
      intro s relied
      have more {seen' : List S} (grown : s :: seen ⊆ seen') : seen ⊆ seen' := (List.cons_subset.mp grown).2
      exact judged_mono (ih s (judged s relied)) (fun _ _ moved => moved) (fun _ _ both => ⟨more both.1, both.2⟩)
        (fun _ _ _ both => ⟨more both.1, both.2⟩)
  | exec stmt next ih =>
      intro s relied
      obtain ⟨permitted, told⟩ := judged s relied
      refine ⟨⟨List.Subset.refl _, permitted⟩, ?_⟩
      cases replied : h stmt s with
      | ok result =>
          rw [replied] at told
          exact ih result.1 told
      | error why =>
          rw [replied] at told
          exact ⟨List.Subset.refl _, told⟩

theorem Proc.judged_issues {F : I.Stmt → Prop} {p : Proc I S E A} (issues : p.Issues F) (seen : List S) (m : S) :
    p.Judged h R (fun _ e => F e.stmt) (fun _ _ _ => True) seen m := by
  induction p generalizing seen m with
  | done value => trivial
  | fail why => trivial
  | read next ih => exact fun s _ => ih s (issues s) (s :: seen) s
  | exec stmt next ih =>
      intro s _
      refine ⟨issues.1, ?_⟩
      cases h stmt s with
      | ok result => exact ih result.1 (issues.2 result.1) seen result.2
      | error why => trivial

/-- `R` leads from a store to another one, and to whatever has been read besides `seen`. -/
def Relied (R : S → S → Prop) (seen : List S) (m : S) (seen' : List S) (m' : S) : Prop :=
  R m m' ∧ ∀ s ∈ seen', s ∈ seen ∨ R m s

/-- Wherever a procedure stands, `R` leads there from the store it began with. -/
theorem Proc.judged_relies (refl : ∀ s, R s s) (trans : ∀ s t u, R s t → R t u → R s u)
    (moves : ∀ seen stmt s, P seen (h.event stmt s) → R s (h.after stmt s)) {Q : Except E A → List S → S → Prop}
    {p : Proc I S E A} {seen : List S} {m : S} (judged : p.Judged h R P Q seen m) :
    p.Judged h R (fun seen' e => Relied R seen m seen' e.before ∧ P seen' e)
      (fun r seen' m' => Relied R seen m seen' m' ∧ Q r seen' m') seen m := by
  -- The induction moves what was read and the store that was last seen; the origins stay.
  suffices general : ∀ seen₀ origin, Relied R seen₀ origin seen m →
      p.Judged h R (fun seen' e => Relied R seen₀ origin seen' e.before ∧ P seen' e)
        (fun r seen' m' => Relied R seen₀ origin seen' m' ∧ Q r seen' m') seen m from
    general seen m ⟨refl m, fun _ => .inl⟩
  induction p generalizing seen m with
  | done value => exact fun seen₀ origin reached => ⟨reached, judged⟩
  | fail why => exact fun seen₀ origin reached => ⟨reached, judged⟩
  | read next ih =>
      intro seen₀ origin reached s relied
      have further := trans _ _ _ reached.1 relied
      exact ih s (judged s relied) seen₀ origin ⟨further, List.forall_mem_cons.mpr ⟨.inr further, reached.2⟩⟩
  | exec stmt next ih =>
      intro seen₀ origin reached s relied
      have further := trans _ _ _ reached.1 relied
      obtain ⟨permitted, told⟩ := judged s relied
      refine ⟨⟨⟨further, reached.2⟩, permitted⟩, ?_⟩
      cases replied : h stmt s with
      | ok result =>
          have moved := moves seen stmt s permitted
          rw [h.after_ok replied] at moved
          rw [replied] at told
          exact ih result.1 told seen₀ origin ⟨trans _ _ _ further moved, reached.2⟩
      | error why =>
          rw [replied] at told
          exact ⟨⟨further, reached.2⟩, told⟩

end Rules

/-! ## Plays -/

/-- The store, after some first turns of the schedule. -/
def Pool.Visits {ι : Type} [DecidableEq ι] (h : Handler I S E) (schedule : List ι) (pool : Pool ι I S E A)
    (s : S) : Prop :=
  ∃ front back, schedule = front ++ back ∧ (pool.play h front).2.store = s

section Play

variable {ι : Type} [DecidableEq ι] {h : Handler I S E} {R : S → S → Prop}
  {P : ι → List S → Event I S → Prop} {Q : ι → Except E A → List S → S → Prop}

theorem Pool.visits_now (schedule : List ι) (pool : Pool ι I S E A) :
    pool.Visits h schedule (pool.play h schedule).2.store := ⟨schedule, [], (List.append_nil _).symm, rfl⟩

theorem Pool.Visits.snoc {schedule : List ι} {pool : Pool ι I S E A} {s : S}
    (visited : pool.Visits h schedule s) (i : ι) : pool.Visits h (schedule ++ [i]) s := by
  obtain ⟨front, back, rfl, reached⟩ := visited
  exact ⟨front, back ++ [i], List.append_assoc .., reached⟩

/-- Each call goes on being judged, for stores that the pool has visited. -/
def Pool.Judges (h : Handler I S E) (R : S → S → Prop) (P : ι → List S → Event I S → Prop)
    (Q : ι → Except E A → List S → S → Prop) (pool : Pool ι I S E A) (visited : S → Prop) : Prop :=
  ∀ i, ∃ seen m, R m pool.store ∧ (∀ s ∈ seen, visited s) ∧ (pool.procs i).Judged h R (P i) (Q i) seen m

variable (refl : ∀ s, R s s) (trans : ∀ s t u, R s t → R t u → R s u)
  (moves : ∀ i seen stmt s, P i seen (h.event stmt s) → R s (h.after stmt s))

include refl trans moves

theorem Pool.turn_judges {pool : Pool ι I S E A} {visited visited' : S → Prop}
    (judges : pool.Judges h R P Q visited) (now : visited pool.store) (more : ∀ s, visited s → visited' s) (i : ι) :
    (∀ e ∈ (pool.turn h i).1, ∃ seen, (∀ s ∈ seen, visited s) ∧ P e.1 seen e.2) ∧
      (pool.turn h i).2.Judges h R P Q visited' := by
  obtain ⟨seen, m, relied, known, moving⟩ := judges i
  have updated (p : Proc I S E A) (seen' : List S) (t : S) (moved : R pool.store t) (known' : ∀ s ∈ seen', visited s)
      (judged : p.Judged h R (P i) (Q i) seen' t) :
      Pool.Judges h R P Q ⟨t, Function.update pool.procs i p⟩ visited' := by
    intro j
    by_cases same : j = i
    · subst same
      exact ⟨seen', t, refl t, fun s member => more s (known' s member), by simpa using judged⟩
    · obtain ⟨seen'', m'', relied'', known'', judged''⟩ := judges j
      exact ⟨seen'', m'', trans _ _ _ relied'' moved, fun s member => more s (known'' s member),
        by simpa [same] using judged''⟩
  obtain same | ⟨next, shape, same⟩ | ⟨stmt, next, reply, t, shape, replied, same⟩ |
    ⟨stmt, next, why, shape, failed, same⟩ := pool.turn_cases h i <;> rw [same] <;> try rw [shape] at moving
  · refine ⟨fun e member => absurd member List.not_mem_nil, fun j => ?_⟩
    obtain ⟨seen', m', relied', known', judged'⟩ := judges j
    exact ⟨seen', m', relied', fun s member => more s (known' s member), judged'⟩
  · refine ⟨fun e member => absurd member List.not_mem_nil,
      updated _ (pool.store :: seen) _ (refl _) ?_ (moving _ relied)⟩
    exact List.forall_mem_cons.mpr ⟨now, known⟩
  · obtain ⟨allowed, rest⟩ := moving _ relied
    -- What the call guarantees of its statement, the others rely on.
    have moved := moves i seen stmt pool.store allowed
    rw [replied] at rest
    rw [h.after_ok replied] at moved
    exact ⟨fun e member => List.mem_singleton.mp member ▸ ⟨seen, known, allowed⟩, updated _ seen _ moved known rest⟩
  · obtain ⟨allowed, rest⟩ := moving _ relied
    rw [failed] at rest
    exact ⟨fun e member => List.mem_singleton.mp member ▸ ⟨seen, known, allowed⟩,
      updated (.fail why) seen _ (refl _) known rest⟩

theorem Pool.play_judges {pool : Pool ι I S E A} (judged : ∀ i, (pool.procs i).Judged h R (P i) (Q i) [] pool.store)
    (schedule : List ι) : (pool.play h schedule).2.Judges h R P Q (pool.Visits h schedule) := by
  induction schedule using List.reverseRecOn with
  | nil => exact fun i => ⟨[], pool.store, refl _, fun _ member => absurd member List.not_mem_nil, judged i⟩
  | append_singleton front i ih =>
      rw [play_snoc]
      exact (turn_judges refl trans moves ih (visits_now front pool) (fun _ visited => visited.snoc i) i).2

/-- If every call is judged, a statement is executed only where it is allowed for
stores that the play has visited before. -/
theorem Pool.play_judged {pool : Pool ι I S E A} (judged : ∀ i, (pool.procs i).Judged h R (P i) (Q i) [] pool.store)
    (front : List ι) (i : ι) :
    ∀ e ∈ ((pool.play h front).2.turn h i).1, ∃ seen, (∀ s ∈ seen, pool.Visits h front s) ∧ P e.1 seen e.2 :=
  (turn_judges refl trans moves (play_judges refl trans moves judged front) (visits_now front pool)
    (fun _ visited => visited) i).1

end Play

/-! ## Parts of the store -/

/-- What a part answers, put back into the whole. -/
def inPart {B : Type} (put : T → S) (wrap : F → E) : Except F (B × T) → Except E (B × S)
  | .ok (answer, t) => .ok (answer, put t)
  | .error why => .error (wrap why)

theorem inPart_ok {B : Type} {put : T → S} {wrap : F → E} {result : Except F (B × T)} {answer : B} {s : S} :
    inPart put wrap result = .ok (answer, s) ↔ ∃ t, result = .ok (answer, t) ∧ put t = s := by
  cases result <;> simp [inPart, Prod.ext_iff]

theorem inPart_error {B : Type} {put : T → S} {wrap : F → E} {result : Except F (B × T)} {why : E} :
    inPart put wrap result = .error why ↔ ∃ why', result = .error why' ∧ why = wrap why' := by
  cases result <;> simp [inPart, eq_comm]

/-- A store `T` with statements of its own inside the store `S`: the whole answers
each of them as the part does. -/
structure Part (h : Handler I S E) (k : Handler J T F) where
  stmt : J.Stmt → I.Stmt
  reply : (own : J.Stmt) → I.Reply (stmt own) → J.Reply own
  look : S → T
  wrap : F → E
  replied : ∀ {own s answer t}, h (stmt own) s = .ok (answer, t) → k own (look s) = .ok (reply own answer, look t)
  failed : ∀ {own s why}, h (stmt own) s = .error why → ∃ why', k own (look s) = .error why' ∧ why = wrap why'

/-- The procedure of a part, run in the whole store. -/
def Proc.within {h : Handler I S E} {k : Handler J T F} (part : Part h k) : Proc J T F A → Proc I S E A
  | .done value => .done value
  | .fail why => .fail (part.wrap why)
  | .read next => .read fun s => (next (part.look s)).within part
  | .exec own next => .exec (part.stmt own) fun answer => (next (part.reply own answer)).within part

section Within

variable {h : Handler I S E} {k : Handler J T F} (part : Part h k)

/-- What a procedure does in its part is judged there, by what it has read of the part. -/
theorem Proc.within_judged {R : S → S → Prop} {R' : T → T → Prop} {P : List S → Event I S → Prop}
    {P' : List T → Event J T → Prop} (moved : ∀ s t, R s t → R' (part.look s) (part.look t))
    (allowed : ∀ seen own s, P' (seen.map part.look) (k.event own (part.look s)) →
      P seen (h.event (part.stmt own) s))
    {Q : Except E A → List S → S → Prop} {Q' : Except F A → List T → T → Prop}
    (returned : ∀ value seen s, Q' (.ok value) (seen.map part.look) (part.look s) → Q (.ok value) seen s)
    (refused : ∀ why seen s, Q' (.error why) (seen.map part.look) (part.look s) → Q (.error (part.wrap why)) seen s)
    {p : Proc J T F A} {seen : List S} {m : S}
    (judged : p.Judged k R' P' Q' (seen.map part.look) (part.look m)) : (p.within part).Judged h R P Q seen m := by
  induction p generalizing seen m with
  | done value => exact returned value seen m judged
  | fail why => exact refused why seen m judged
  | read next ih => exact fun s relied => ih _ (judged (part.look s) (moved m s relied))
  | exec own next ih =>
      intro s relied
      obtain ⟨permitted, rest⟩ := judged (part.look s) (moved m s relied)
      refine ⟨allowed seen own s permitted, ?_⟩
      cases result : h (part.stmt own) s with
      | ok both =>
          rw [part.replied result] at rest
          exact ih _ rest
      | error why =>
          obtain ⟨why', failed, rfl⟩ := part.failed result
          rw [failed] at rest
          exact refused why' seen s rest

end Within

end AccreditationBackend.Foundation
