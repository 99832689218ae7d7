import AccreditationBackend.Store.Effects

/-! Procedures of the backend, and what a call draws from outside the database. -/

set_option autoImplicit false

namespace AccreditationBackend

open Foundation (Proc)

abbrev Op (A : Type) := Proc store Database Failure A

/-- The steps of badge generation that can fail outside the database's own rules. -/
inductive GenerationStep where
  | readRequest | lookUpNumber | sign | createBadge | renderQrCode | readZones | renderBadgePdf | putObjects
  deriving DecidableEq, Repr

/-- What one call draws from its surroundings. `clock` and `draw` give the
successive values of `new Date()` and `randomInt`; `choice` settles which row an
unordered `findFirst` returns; `outage` names the step that fails, if any. -/
structure Ambient where
  clock : Nat → Time := fun _ => 0
  year : Nat := 2026
  freshId : Uuid := ""
  draw : Nat → Nat := fun _ => 0
  choice : Nat := 0
  rawToken : String := "token"
  outage : Option GenerationStep := none

variable {A : Type}

def throw (why : DomainError) : Op A := .fail (.domain why)

def orThrow (found : Option A) (why : DomainError) : Op A :=
  match found with
  | some value => .done value
  | none => throw why

def lift (result : Except DomainError A) : Op A :=
  match result with
  | .ok value => .done value
  | .error why => throw why

def Ambient.attempt (ambient : Ambient) (step : GenerationStep) : Op Unit :=
  if ambient.outage = some step then .fail .external else .done ()

def issue (stmt : Statement) : Op stmt.Reply := Proc.command (I := store) stmt

def publish (event : DomainEvent) : Op Unit := issue (.publish event)

variable {B : Type} {f : A → Op B}

@[simp] theorem throw_bind (why : DomainError) : ((throw why : Op A) >>= f) = .fail (.domain why) := rfl

@[simp] theorem orThrow_some_bind (value : A) (why : DomainError) :
    (orThrow (some value) why >>= f) = f value := rfl

@[simp] theorem orThrow_none_bind (why : DomainError) :
    (orThrow none why >>= f) = .fail (.domain why) := rfl

@[simp] theorem lift_ok_bind (value : A) : (lift (.ok value) >>= f) = f value := rfl

@[simp] theorem lift_error_bind (why : DomainError) :
    (lift (.error why : Except DomainError A) >>= f) = .fail (.domain why) := rfl

@[simp] theorem issue_bind (stmt : Statement) (g : stmt.Reply → Op B) :
    (issue stmt >>= g) = .exec stmt g := rfl

@[simp] theorem publish_bind (event : DomainEvent) (g : Unit → Op B) :
    (publish event >>= g) = .exec (Statement.publish event) g := rfl

/-! ## Statements that a procedure without writes of its own cannot issue -/

section Issues

variable {P : Statement → Prop}

theorem query_issues (look : Database → A) : (Proc.query look : Op A).Issues P := fun _ => trivial

theorem orThrow_issues (found : Option A) (why : DomainError) : (orThrow found why).Issues P := by
  cases found <;> trivial

theorem lift_issues (result : Except DomainError A) : (lift result).Issues P := by
  cases result <;> trivial

theorem attempt_issues (ambient : Ambient) (step : GenerationStep) : (ambient.attempt step).Issues P := by
  unfold Ambient.attempt
  split <;> trivial

theorem issue_issues {stmt : Statement} (allowed : P stmt) : (issue stmt).Issues P :=
  ⟨allowed, fun _ => trivial⟩

end Issues

theorem issue_single (stmt : Statement) : (issue stmt).Single := fun _ => trivial

end AccreditationBackend
