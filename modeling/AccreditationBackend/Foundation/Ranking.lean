import Mathlib.Data.List.Sort

/-! Orders by a key, the greatest first, that leave elements of one key in any order. -/

set_option autoImplicit false

namespace AccreditationBackend.Foundation

variable {α κ : Type} [LinearOrder κ]

/-- `ys` are the elements of `xs`, the greatest keys first. -/
structure Ranked (key : α → κ) (xs ys : List α) : Prop where
  perm : ys.Perm xs
  descending : ys.Pairwise fun a b => key b ≤ key a

/-- One way to rank every list. -/
structure Ranking (key : α → κ) where
  rank : List α → List α
  ranks : ∀ xs, Ranked key xs (rank xs)

/-- Elements of one key stay in the order in which they stood. -/
def ranked (key : α → κ) (xs : List α) : List α := xs.insertionSort fun a b => key b ≤ key a

section Ranked

variable {key : α → κ} {xs ys : List α}

theorem ranked_ranks (key : α → κ) (xs : List α) : Ranked key xs (ranked key xs) where
  perm := List.perm_insertionSort _ xs
  descending :=
    haveI : Std.Total fun a b : α => key b ≤ key a := ⟨fun a b => le_total (key b) (key a)⟩
    haveI : IsTrans α fun a b : α => key b ≤ key a := ⟨fun _ _ _ first second => second.trans first⟩
    List.pairwise_insertionSort _ xs

/-- The keys stand in one order, whatever becomes of the elements that share one. -/
theorem Ranked.keys {β : Type} {key' : β → κ} {xs' zs : List β} (first : Ranked key xs ys)
    (second : Ranked key' xs' zs) (same : (xs.map key).Perm (xs'.map key')) : ys.map key = zs.map key' :=
  List.Perm.eq_of_pairwise (fun _ _ _ _ below above => le_antisymm above below)
    (List.pairwise_map.mpr first.descending) (List.pairwise_map.mpr second.descending)
    (((first.perm.map key).trans same).trans (second.perm.map key').symm)

end Ranked

def Ranking.earliest (key : α → κ) : Ranking key := ⟨ranked key, ranked_ranks key⟩

/-- Of the elements with one key, the last one first. -/
def Ranking.latest (key : α → κ) : Ranking key where
  rank xs := ranked key xs.reverse
  ranks xs := ⟨(ranked_ranks key xs.reverse).perm.trans xs.reverse_perm, (ranked_ranks key xs.reverse).descending⟩

end AccreditationBackend.Foundation
