import Mathlib.Data.List.Chain

/-! Procedures over a store whose statements are atomic.

A procedure is a finite tree: it reads the store, executes a statement of an
interface, returns or fails. The same tree has a sequential meaning (`run`) and,
in `Interleaving`, a concurrent one. A statement that fails leaves the store as
it was, and ends the procedure.
-/

set_option autoImplicit false

namespace AccreditationBackend.Foundation

/-- The statements that write a store, each with the type of its reply. -/
structure Interface where
  Stmt : Type
  Reply : Stmt → Type

/-- A read continues with the store it saw; a statement continues with its reply. -/
inductive Proc (I : Interface) (S E A : Type) where
  | done (value : A)
  | fail (why : E)
  | read (next : S → Proc I S E A)
  | exec (stmt : I.Stmt) (next : I.Reply stmt → Proc I S E A)

variable {I : Interface} {S E A B : Type}

def Proc.bind : Proc I S E A → (A → Proc I S E B) → Proc I S E B
  | .done value, f => f value
  | .fail why, _ => .fail why
  | .read next, f => .read fun s => (next s).bind f
  | .exec stmt next, f => .exec stmt fun reply => (next reply).bind f

instance : Monad (Proc I S E) where
  pure := .done
  bind := .bind

def Proc.query (look : S → A) : Proc I S E A := .read fun s => .done (look s)

def Proc.command (stmt : I.Stmt) : Proc I S E (I.Reply stmt) := .exec stmt .done

@[simp] theorem Proc.pure_eq (value : A) : (pure value : Proc I S E A) = .done value := rfl

@[simp] theorem Proc.done_bind (value : A) (f : A → Proc I S E B) :
    (Proc.done value >>= f) = f value := rfl

@[simp] theorem Proc.fail_bind (why : E) (f : A → Proc I S E B) :
    ((Proc.fail why : Proc I S E A) >>= f) = .fail why := rfl

@[simp] theorem Proc.read_bind (next : S → Proc I S E A) (f : A → Proc I S E B) :
    (Proc.read next >>= f) = .read fun s => next s >>= f := rfl

@[simp] theorem Proc.exec_bind (stmt : I.Stmt) (next : I.Reply stmt → Proc I S E A)
    (f : A → Proc I S E B) :
    (Proc.exec stmt next >>= f) = .exec stmt fun reply => next reply >>= f := rfl

@[simp] theorem Proc.query_bind (look : S → A) (f : A → Proc I S E B) :
    (Proc.query look >>= f) = .read fun s => f (look s) := rfl

@[simp] theorem Proc.command_bind (stmt : I.Stmt) (f : I.Reply stmt → Proc I S E B) :
    (Proc.command stmt >>= f) = .exec stmt f := rfl

/-- A procedure is its own first part. -/
theorem Proc.bind_done (p : Proc I S E A) : (p >>= fun value => .done value) = p := by
  induction p with
  | done value => rfl
  | fail why => rfl
  | read next ih =>
      simp only [read_bind]
      exact congrArg Proc.read (funext ih)
  | exec stmt next ih =>
      simp only [exec_bind]
      exact congrArg (Proc.exec stmt) (funext ih)

theorem Proc.bind_assoc {C : Type} (p : Proc I S E A) (f : A → Proc I S E B) (f' : B → Proc I S E C) :
    (p >>= f) >>= f' = p >>= fun value => f value >>= f' := by
  induction p with
  | done value => rfl
  | fail why => rfl
  | read next ih =>
      simp only [read_bind]
      exact congrArg Proc.read (funext ih)
  | exec stmt next ih =>
      simp only [exec_bind]
      exact congrArg (Proc.exec stmt) (funext ih)

/-- What one statement does: it fails, or replies and leaves a new store. -/
abbrev Handler (I : Interface) (S E : Type) := (stmt : I.Stmt) → S → Except E (I.Reply stmt × S)

def Handler.after (h : Handler I S E) (stmt : I.Stmt) (s : S) : S :=
  match h stmt s with
  | .ok (_, t) => t
  | .error _ => s

/-- One executed statement with the stores around it. -/
structure Event (I : Interface) (S : Type) where
  stmt : I.Stmt
  before : S
  after : S

def Handler.event (h : Handler I S E) (stmt : I.Stmt) (s : S) : Event I S := ⟨stmt, s, h.after stmt s⟩

@[simp] theorem Handler.event_stmt (h : Handler I S E) (stmt : I.Stmt) (s : S) :
    (h.event stmt s).stmt = stmt := rfl

@[simp] theorem Handler.event_before (h : Handler I S E) (stmt : I.Stmt) (s : S) :
    (h.event stmt s).before = s := rfl

theorem Handler.event_after (h : Handler I S E) (stmt : I.Stmt) (s : S) :
    (h.event stmt s).after = h.after stmt s := rfl

theorem Handler.after_ok (h : Handler I S E) {stmt : I.Stmt} {s t : S} {reply : I.Reply stmt}
    (replied : h stmt s = .ok (reply, t)) : h.after stmt s = t := by
  simp only [Handler.after, replied]

theorem Handler.after_error (h : Handler I S E) {stmt : I.Stmt} {s : S} {why : E}
    (failed : h stmt s = .error why) : h.after stmt s = s := by
  simp only [Handler.after, failed]

/-! ## Sequential meaning -/

def Proc.run (h : Handler I S E) : Proc I S E A → S → Except E A × S
  | .done value, s => (.ok value, s)
  | .fail why, s => (.error why, s)
  | .read next, s => (next s).run h s
  | .exec stmt next, s =>
      match h stmt s with
      | .ok (reply, t) => (next reply).run h t
      | .error why => (.error why, s)

/-- The statements a sequential run executes, in order. -/
def Proc.events (h : Handler I S E) : Proc I S E A → S → List (Event I S)
  | .done _, _ => []
  | .fail _, _ => []
  | .read next, s => (next s).events h s
  | .exec stmt next, s =>
      h.event stmt s ::
        match h stmt s with
        | .ok (reply, t) => (next reply).events h t
        | .error _ => []

/-- The events lead from one store to another, each from where the last one ended. -/
def Linked (s : S) : List (Event I S) → S → Prop
  | [], t => s = t
  | e :: rest, t => e.before = s ∧ Linked e.after rest t

theorem Proc.events_linked (h : Handler I S E) (p : Proc I S E A) (s : S) :
    Linked s (p.events h s) (p.run h s).2 := by
  induction p generalizing s with
  | done value => rfl
  | fail why => rfl
  | read next ih => exact ih s s
  | exec stmt next ih =>
      simp only [events, run]
      cases replied : h stmt s with
      | ok result =>
          refine ⟨rfl, ?_⟩
          rw [h.event_after, h.after_ok replied]
          exact ih result.1 result.2
      | error why => exact ⟨rfl, h.after_error replied⟩

/-- Each event is the handler's own step from the store it met. -/
theorem Proc.events_genuine (h : Handler I S E) (p : Proc I S E A) (s : S) :
    ∀ e ∈ p.events h s, e = h.event e.stmt e.before := by
  induction p generalizing s with
  | done value => simp [events]
  | fail why => simp [events]
  | read next ih => exact ih s s
  | exec stmt next ih =>
      simp only [events, List.mem_cons]
      rintro e (rfl | member)
      · rfl
      · cases replied : h stmt s with
        | ok result =>
            rw [replied] at member
            exact ih result.1 result.2 e member
        | error why =>
            rw [replied] at member
            cases member

theorem Linked.append {front back : List (Event I S)} {s t u : S} (first : Linked s front t)
    (second : Linked t back u) : Linked s (front ++ back) u := by
  induction front generalizing s with
  | nil =>
      obtain rfl : s = t := first
      exact second
  | cons e rest ih => exact ⟨first.1, ih first.2⟩

/-- A preorder that every event respects relates the two ends. -/
theorem Linked.relates {R : S → S → Prop} (refl : ∀ s, R s s) (trans : ∀ s t u, R s t → R t u → R s u)
    {events : List (Event I S)} {s t : S} (linked : Linked s events t)
    (each : ∀ e ∈ events, R e.before e.after) : R s t := by
  induction events generalizing s with
  | nil =>
      obtain rfl : s = t := linked
      exact refl s
  | cons e rest ih =>
      obtain ⟨rfl, later⟩ := linked
      exact trans _ _ _ (each e List.mem_cons_self)
        (ih later fun e member => each e (List.mem_cons_of_mem _ member))

/-- What every event does to a store, read along the whole path of stores. -/
theorem Linked.chain {R : S → S → Prop} {events : List (Event I S)} {s t : S} (linked : Linked s events t)
    (each : ∀ e ∈ events, R e.before e.after) : (s :: events.map (·.after)).IsChain R := by
  induction events generalizing s with
  | nil => exact List.isChain_singleton s
  | cons e rest ih =>
      obtain ⟨rfl, later⟩ := linked
      exact List.isChain_cons_cons.mpr
        ⟨each e List.mem_cons_self, ih later fun e member => each e (List.mem_cons_of_mem _ member)⟩

/-- Every statement of the sequential run satisfies `P` and its outcome satisfies `Q`. -/
def Proc.Leads (h : Handler I S E) (P : Event I S → Prop) (Q : Except E A → S → Prop) :
    Proc I S E A → S → Prop
  | .done value, s => Q (.ok value) s
  | .fail why, s => Q (.error why) s
  | .read next, s => (next s).Leads h P Q s
  | .exec stmt next, s =>
      P (h.event stmt s) ∧
        match h stmt s with
        | .ok (reply, t) => (next reply).Leads h P Q t
        | .error why => Q (.error why) s

theorem Proc.leads_read (h : Handler I S E) (P : Event I S → Prop) (Q : Except E A → S → Prop)
    (next : S → Proc I S E A) (s : S) : (Proc.read next).Leads h P Q s ↔ (next s).Leads h P Q s := Iff.rfl

/-- A statement leads to its continuation, or to its failure. -/
theorem Proc.leads_exec (h : Handler I S E) (P : Event I S → Prop) (Q : Except E A → S → Prop)
    (stmt : I.Stmt) (next : I.Reply stmt → Proc I S E A) (s : S) (now : P (h.event stmt s))
    (replied : ∀ reply t, h stmt s = .ok (reply, t) → (next reply).Leads h P Q t)
    (failed : ∀ why, h stmt s = .error why → Q (.error why) s) : (Proc.exec stmt next).Leads h P Q s := by
  unfold Leads
  refine ⟨now, ?_⟩
  cases result : h stmt s with
  | ok reply => exact replied reply.1 reply.2 result
  | error why => exact failed why result

theorem Proc.leads_iff (h : Handler I S E) (P : Event I S → Prop) (Q : Except E A → S → Prop)
    (p : Proc I S E A) (s : S) :
    p.Leads h P Q s ↔ (∀ e ∈ p.events h s, P e) ∧ Q (p.run h s).1 (p.run h s).2 := by
  induction p generalizing s with
  | done value => simp [Leads, events, run]
  | fail why => simp [Leads, events, run]
  | read next ih => simpa only [Leads, events, run] using ih s s
  | exec stmt next ih =>
      simp only [Leads, events, run, List.forall_mem_cons]
      cases replied : h stmt s with
      | ok result => simp only [ih, and_assoc]
      | error why => simp

theorem Proc.leads_mono (h : Handler I S E) {P P' : Event I S → Prop} {Q Q' : Except E A → S → Prop}
    (p : Proc I S E A) (s : S) (leads : p.Leads h P Q s) (events : ∀ e, P e → P' e)
    (outcome : ∀ r t, Q r t → Q' r t) : p.Leads h P' Q' s := by
  rw [leads_iff] at leads ⊢
  exact ⟨fun e member => events e (leads.1 e member), outcome _ _ leads.2⟩

/-- What follows a failed procedure is its failure. -/
def continued (Q : Except E B → S → Prop) (next : A → S → Prop) : Except E A → S → Prop
  | .ok value, s => next value s
  | .error why, s => Q (.error why) s

theorem Proc.leads_bind (h : Handler I S E) (P : Event I S → Prop) (Q : Except E B → S → Prop)
    (p : Proc I S E A) (f : A → Proc I S E B) (s : S) :
    (p >>= f).Leads h P Q s ↔ p.Leads h P (continued Q fun value => (f value).Leads h P Q) s := by
  induction p generalizing s with
  | done value => rfl
  | fail why => rfl
  | read next ih => exact ih s s
  | exec stmt next ih =>
      simp only [exec_bind, Leads]
      cases replied : h stmt s with
      | ok result => exact and_congr_right fun _ => ih result.1 result.2
      | error why => rfl

theorem Proc.run_bind (h : Handler I S E) (p : Proc I S E A) (f : A → Proc I S E B) (s : S) :
    (p >>= f).run h s =
      match p.run h s with
      | (.ok value, t) => (f value).run h t
      | (.error why, t) => (.error why, t) := by
  induction p generalizing s with
  | done value => rfl
  | fail why => rfl
  | read next ih => exact ih s s
  | exec stmt next ih =>
      simp only [exec_bind, run]
      cases replied : h stmt s with
      | ok result => exact ih result.1 result.2
      | error why => rfl

/-- A procedure that only renames the result of another one ends in the same store. -/
theorem Proc.run_map (h : Handler I S E) (p : Proc I S E A) (f : A → B) (s : S) :
    (p >>= fun value => (.done (f value) : Proc I S E B)).run h s =
      ((p.run h s).1.map f, (p.run h s).2) := by
  rw [run_bind]
  generalize p.run h s = middle
  obtain ⟨outcome, t⟩ := middle
  cases outcome <;> rfl

/-- A bind that returned ran both of its parts. -/
theorem Proc.run_bind_ok (h : Handler I S E) {p : Proc I S E A} {f : A → Proc I S E B} {s t : S}
    {value : B} (ran : (p >>= f).run h s = (.ok value, t)) :
    ∃ first u, p.run h s = (.ok first, u) ∧ (f first).run h u = (.ok value, t) := by
  rw [run_bind] at ran
  generalize p.run h s = middle at ran
  obtain ⟨outcome, u⟩ := middle
  cases outcome with
  | ok first => exact ⟨first, u, rfl, ran⟩
  | error why => cases ran

/-! ## The statements a procedure can issue, whatever the store replies -/

def Proc.Issues (P : I.Stmt → Prop) : Proc I S E A → Prop
  | .done _ => True
  | .fail _ => True
  | .read next => ∀ s, (next s).Issues P
  | .exec stmt next => P stmt ∧ ∀ reply, (next reply).Issues P

theorem Proc.issues_bind (P : I.Stmt → Prop) (p : Proc I S E A) (f : A → Proc I S E B)
    (first : p.Issues P) (rest : ∀ value, (f value).Issues P) : (p >>= f).Issues P := by
  induction p with
  | done value => exact rest value
  | fail why => trivial
  | read next ih => exact fun s => ih s (first s)
  | exec stmt next ih => exact ⟨first.1, fun reply => ih reply (first.2 reply)⟩

/-- What a procedure makes of its result issues nothing more. -/
theorem Proc.issues_return (P : I.Stmt → Prop) {p : Proc I S E A} {f : A → B} (issues : p.Issues P) :
    (p >>= fun value => (.done (f value) : Proc I S E B)).Issues P :=
  issues_bind P p _ issues fun _ => trivial

theorem Proc.issues_mono {P P' : I.Stmt → Prop} (p : Proc I S E A) (issues : p.Issues P)
    (implies : ∀ stmt, P stmt → P' stmt) : p.Issues P' := by
  induction p with
  | done value => trivial
  | fail why => trivial
  | read next ih => exact fun s => ih s (issues s)
  | exec stmt next ih => exact ⟨implies stmt issues.1, fun reply => ih reply (issues.2 reply)⟩

/-- Statements of a frame relation compose along a sequential run. -/
theorem Proc.leads_of_issues (h : Handler I S E) {P : I.Stmt → Prop} {R : S → S → Prop}
    (refl : ∀ s, R s s) (trans : ∀ s t u, R s t → R t u → R s u)
    (keeps : ∀ stmt s, P stmt → R s (h.after stmt s))
    (p : Proc I S E A) (issues : p.Issues P) (s : S) :
    p.Leads h (fun e => P e.stmt) (fun _ t => R s t) s := by
  -- The induction is on the procedure; `origin` stays the store of its start.
  suffices general : ∀ origin, R origin s →
      p.Leads h (fun e => P e.stmt) (fun _ t => R origin t) s from general s (refl s)
  induction p generalizing s with
  | done value => exact fun _ reached => reached
  | fail why => exact fun _ reached => reached
  | read next ih => exact fun origin reached => ih s (issues s) s origin reached
  | exec stmt next ih =>
      intro origin reached
      simp only [Leads]
      refine ⟨issues.1, ?_⟩
      cases replied : h stmt s with
      | ok result =>
          have kept := keeps stmt s issues.1
          rw [h.after_ok replied] at kept
          exact ih result.1 (issues.2 result.1) result.2 origin (trans _ _ _ reached kept)
      | error why => exact reached

/-- A run ends in a store related to its first one. -/
theorem Proc.run_frame (h : Handler I S E) {P : I.Stmt → Prop} {R : S → S → Prop} (refl : ∀ s, R s s)
    (trans : ∀ s t u, R s t → R t u → R s u) (keeps : ∀ stmt s, P stmt → R s (h.after stmt s))
    (p : Proc I S E A) (issues : p.Issues P) (s : S) : R s (p.run h s).2 :=
  ((p.leads_iff h _ _ s).mp (p.leads_of_issues h refl trans keeps issues s)).2

theorem Proc.events_issued (h : Handler I S E) {P : I.Stmt → Prop} (p : Proc I S E A)
    (issues : p.Issues P) (s : S) : ∀ e ∈ p.events h s, P e.stmt :=
  ((p.leads_iff h _ _ s).mp (p.leads_of_issues h (R := fun _ _ => True) (fun _ => trivial)
    (fun _ _ _ _ _ => trivial) (fun _ _ _ => trivial) issues s)).1

/-- What follows a framed procedure finds a store related to the first one. -/
theorem Proc.leads_frame (h : Handler I S E) {P : I.Stmt → Prop} {R : S → S → Prop} (refl : ∀ s, R s s)
    (trans : ∀ s t u, R s t → R t u → R s u) (keeps : ∀ stmt s, P stmt → R s (h.after stmt s))
    {P' : Event I S → Prop} (holds : ∀ e, P e.stmt → P' e) {Q : Except E B → S → Prop} {p : Proc I S E A}
    {f : A → Proc I S E B} {s : S} (issues : p.Issues P) (rest : ∀ value t, R s t →
      (f value).Leads h P' Q t)
    (failed : ∀ why t, R s t → Q (.error why) t) : (p >>= f).Leads h P' Q s := by
  rw [leads_bind]
  refine leads_mono h p s (leads_of_issues h refl trans keeps p issues s) holds fun r t related => ?_
  cases r with
  | ok value => exact rest value t related
  | error why => exact failed why t related

/-- What follows a procedure that only reads finds the store as it was. -/
theorem Proc.leads_silent (h : Handler I S E) {P : Event I S → Prop} {Q : Except E B → S → Prop}
    {p : Proc I S E A} {f : A → Proc I S E B} {s : S} (silent : p.Issues fun _ => False)
    (rest : ∀ value, (f value).Leads h P Q s) (failed : ∀ why, Q (.error why) s) :
    (p >>= f).Leads h P Q s := by
  induction p with
  | done value => exact rest value
  | fail why => exact failed why
  | read next ih => exact ih s (silent s)
  | exec stmt next ih => exact silent.1.elim

/-! ## Procedures with one statement -/

/-- The procedure executes one statement at most, and nothing but returns after it. -/
def Proc.Single : Proc I S E A → Prop
  | .done _ => True
  | .fail _ => True
  | .read next => ∀ s, (next s).Single
  | .exec _ next => ∀ reply, (next reply).Issues fun _ => False

theorem Proc.single_of_silent {p : Proc I S E A} (silent : p.Issues fun _ => False) : p.Single := by
  induction p with
  | done value => trivial
  | fail why => trivial
  | read next ih => exact fun s => ih s (silent s)
  | exec stmt next ih => exact silent.1.elim

theorem Proc.silent_bind {p : Proc I S E A} {f : A → Proc I S E B} (silent : p.Issues fun _ => False)
    (rest : ∀ value, (f value).Single) : (p >>= f).Single := by
  induction p with
  | done value => exact rest value
  | fail why => trivial
  | read next ih => exact fun s => ih s (silent s)
  | exec stmt next ih => exact silent.1.elim

theorem Proc.single_bind {p : Proc I S E A} {f : A → Proc I S E B} (single : p.Single)
    (silent : ∀ value, (f value).Issues fun _ => False) : (p >>= f).Single := by
  induction p with
  | done value => exact single_of_silent (silent value)
  | fail why => trivial
  | read next ih => exact fun s => ih s (single s)
  | exec stmt next ih => exact fun reply => issues_bind _ _ _ (single reply) silent

/-- The one statement meets the store that the run started from. -/
theorem Proc.single_before (h : Handler I S E) {p : Proc I S E A} (single : p.Single) (s : S) :
    ∀ e ∈ p.events h s, e.before = s := by
  induction p with
  | done value => simp [events]
  | fail why => simp [events]
  | read next ih => exact ih s (single s)
  | exec stmt next ih =>
      simp only [events, List.mem_cons]
      rintro e (rfl | member)
      · rfl
      · cases replied : h stmt s with
        | ok result =>
            rw [replied] at member
            exact (events_issued h _ (single result.1) result.2 e member).elim
        | error why =>
            rw [replied] at member
            cases member

end AccreditationBackend.Foundation
