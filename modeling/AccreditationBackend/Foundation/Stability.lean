import AccreditationBackend.Foundation.Interleaving

/-! Calls that respect one invariant of the store.

No call keeps a ghost of its own here. Each executes, from stores of the invariant,
only statements that keep it.
-/

set_option autoImplicit false

namespace AccreditationBackend.Foundation

variable {I : Interface} {S E A B : Type} {J : S → Prop}

/-- Every statement keeps `J`. -/
def keeping (J : S → Prop) : Discipline I S Unit where
  Knows _ s := J s
  Grants _ := True
  Commits _ e _ := J e.after

/-- The call keeps the invariant whatever the others do, and ends in `Q`. -/
abbrev Proc.Respects (h : Handler I S E) (J : S → Prop) (Q : Except E A → Prop) (p : Proc I S E A) : Prop :=
  p.Outline h (keeping J) (fun r _ => Q r) ()

/-- A procedure all of whose statements keep the invariant respects it. -/
theorem Proc.respects_issues {h : Handler I S E} {P : I.Stmt → Prop}
    (keeps : ∀ stmt s, P stmt → J s → J (h.after stmt s)) {p : Proc I S E A} (issues : p.Issues P) :
    p.Respects h J fun _ => True :=
  Proc.outline_mono h _ p () (Proc.outline_of_issues h (keeping J) () keeps p issues) fun _ _ _ => trivial

/-- A first procedure keeps the invariant, and so does whatever follows it. -/
theorem Proc.respects_frame {h : Handler I S E} {P : I.Stmt → Prop}
    (keeps : ∀ stmt s, P stmt → J s → J (h.after stmt s)) {Q : Except E B → Prop} {p : Proc I S E A}
    {f : A → Proc I S E B} (issues : p.Issues P) (rest : ∀ value, (f value).Respects h J Q)
    (failed : ∀ why, Q (.error why)) : (p >>= f).Respects h J Q := by
  refine Proc.outline_seq (respects_issues keeps issues) fun r _ _ => ?_
  cases r with
  | ok value => exact rest value
  | error why => exact failed why

/-- One statement keeps the invariant, and so does whatever follows its reply. -/
theorem Proc.respects_exec {h : Handler I S E} {Q : Except E A → Prop} {stmt : I.Stmt}
    {next : I.Reply stmt → Proc I S E A} (keeps : ∀ s, J s → J (h.after stmt s))
    (replied : ∀ reply, (next reply).Respects h J Q) (failed : ∀ why, Q (.error why)) :
    (Proc.exec stmt next).Respects h J Q := by
  refine fun s holds _ => ⟨(), keeps s holds, ?_⟩
  cases h stmt s with
  | ok result => exact replied result.1
  | error why => exact failed why

/-- If every call keeps the invariant, every play does, and every call that has ended ended in its `Q`. -/
theorem Pool.play_respects {ι : Type} [DecidableEq ι] (h : Handler I S E) {Q : ι → Except E A → Prop}
    (schedule : List ι) (pool : Pool ι I S E A) (start : J pool.store)
    (respects : ∀ i, (pool.procs i).Respects h J (Q i)) :
    J (pool.play h schedule).2.store ∧
      ∀ i r, ((pool.play h schedule).2.procs i).ended = some r → Q i r := by
  obtain ⟨g, holds, outlines⟩ := pool.play_outline h (keeping J)
    (J := fun _ s _ => J s) (F := fun _ _ _ => True) (fun _ _ _ _ held => held) (fun _ _ _ _ => trivial)
    (fun _ _ _ _ _ _ _ _ kept => kept) schedule [] (fun _ => ()) start respects
    fun _ _ _ _ _ => trivial
  exact ⟨holds, fun i r ended => Proc.outline_ended h _ (outlines i) ended⟩

end AccreditationBackend.Foundation
