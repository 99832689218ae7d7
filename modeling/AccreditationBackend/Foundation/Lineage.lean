import Mathlib.Data.List.Nodup
import Mathlib.Logic.Relation

/-! Lineages: items that are each exchanged for another one, once at most.

A list records the exchanges made, in any order. As long as no item is given
away twice, the descendants of an item form a chain, and only its tip is still
held.
-/

set_option autoImplicit false

namespace AccreditationBackend.Foundation

variable {α : Type}

/-- `root` itself, and what it was exchanged for in any number of exchanges. -/
def Lineage (exchanges : List (α × α)) (root item : α) : Prop :=
  Relation.ReflTransGen (fun a b => (a, b) ∈ exchanges) root item

variable {exchanges more : List (α × α)} {root a b : α}

/-- What has descendants of its own has been given away. -/
theorem Lineage.given (descends : Lineage exchanges a b) (apart : a ≠ b) :
    a ∈ exchanges.map Prod.fst := by
  rcases Relation.ReflTransGen.cases_head descends with same | ⟨c, exchanged, _⟩
  · exact absurd same apart
  · exact List.mem_map.mpr ⟨(a, c), exchanged, rfl⟩

theorem Lineage.total (once : (exchanges.map Prod.fst).Nodup) (left : Lineage exchanges root a)
    (right : Lineage exchanges root b) : Lineage exchanges a b ∨ Lineage exchanges b a := by
  refine Relation.ReflTransGen.total_of_right_unique (fun c d e first second => ?_) left right
  have same := List.inj_on_of_nodup_map once first second rfl
  exact congrArg Prod.snd same

/-- A lineage has one item at most that has not been given away. -/
theorem Lineage.tip (once : (exchanges.map Prod.fst).Nodup) (left : Lineage exchanges root a)
    (right : Lineage exchanges root b) (held : a ∉ exchanges.map Prod.fst)
    (held' : b ∉ exchanges.map Prod.fst) :
    a = b := by
  by_contra apart
  rcases Lineage.total once left right with descends | descends
  · exact held (descends.given apart)
  · exact held' (descends.given (Ne.symm apart))

/-- What one exchange passes on, a lineage passes on. -/
theorem Lineage.along {P : α → Prop} (descends : Lineage exchanges root a) (start : P root)
    (each : ∀ b c, (b, c) ∈ exchanges → P b → P c) : P a := by
  induction descends with
  | refl => exact start
  | tail _ exchanged ih => exact each _ _ exchanged ih

/-- Later exchanges add nothing to a lineage when they give away none of its items. -/
theorem Lineage.closed (descends : Lineage (exchanges ++ more) root a)
    (kept : ∀ b, Lineage exchanges root b → b ∉ more.map Prod.fst) : Lineage exchanges root a := by
  refine Lineage.along descends .refl fun b c exchanged before => ?_
  rcases List.mem_append.mp exchanged with old | new
  · exact before.tail old
  · exact absurd (List.mem_map.mpr ⟨(b, c), new, rfl⟩) (kept b before)

end AccreditationBackend.Foundation
