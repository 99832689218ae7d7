import Mathlib.Data.List.Basic
import Mathlib.Logic.Function.Basic

/-! Encodings that tell where they end.

Values are written as words one behind the other. An encoding is delimited when
a word that starts with a value determines the value and the rest.
-/

set_option autoImplicit false

namespace AccreditationBackend.Foundation

variable {γ α β : Type}

/-- `stop` is what must follow the word of a value. -/
def Delimited (stop : List γ → Prop) (e : α → List γ) : Prop :=
  ∀ a b s t, stop s → stop t → e a ++ s = e b ++ t → a = b ∧ s = t

/-- Words one after another, with a mark at the end. -/
def upTo (mark : γ) (e : α → List γ) (l : List α) : List γ := l.flatMap e ++ [mark]

/-- Words between two brackets, with commas between them. -/
def enclosed (opening comma closing : γ) (e : α → List γ) : List α → List γ
  | [] => [opening, closing]
  | a :: rest => opening :: (e a ++ upTo closing (fun b => comma :: e b) rest)

theorem upTo_nil (mark : γ) (e : α → List γ) (s : List γ) : upTo mark e [] ++ s = mark :: s := rfl

theorem upTo_cons (mark : γ) (e : α → List γ) (a : α) (rest : List α) (s : List γ) :
    upTo mark e (a :: rest) ++ s = e a ++ (upTo mark e rest ++ s) := by
  rw [upTo, upTo, List.flatMap_cons, List.append_assoc, List.append_assoc, List.append_assoc]

theorem enclosed_cons (opening comma closing : γ) (e : α → List γ) (a : α) (rest : List α)
    (s : List γ) :
    enclosed opening comma closing e (a :: rest) ++ s =
      opening :: (e a ++ (upTo closing (fun b => comma :: e b) rest ++ s)) := by
  rw [enclosed, List.cons_append, List.append_assoc]

theorem enclosed_map (opening comma closing : γ) (e : α → List γ) (f : β → α) (l : List β) :
    enclosed opening comma closing e (l.map f) =
      enclosed opening comma closing (fun b => e (f b)) l := by
  cases l with
  | nil => rfl
  | cons b rest => rw [List.map_cons, enclosed, enclosed, upTo, upTo, List.flatMap_map]

namespace Delimited

variable {stop after : List γ → Prop} {e : α → List γ}

theorem injective (delimited : Delimited stop e) (nothing : stop []) : Function.Injective e := by
  intro a b same
  exact (delimited a b [] [] nothing nothing (by rw [same])).1

theorem comp (delimited : Delimited stop e) {f : β → α} (injective : Function.Injective f) :
    Delimited stop fun b => e (f b) := by
  intro a b s t first second same
  obtain ⟨values, rests⟩ := delimited _ _ s t first second same
  exact ⟨injective values, rests⟩

theorem cons (delimited : Delimited stop e) (c : γ) : Delimited stop fun a => c :: e a := by
  intro a b s t first second same
  rw [List.cons_append, List.cons_append, List.cons_inj_right] at same
  exact delimited a b s t first second same

/-- The second word is what follows the first one. -/
theorem pair {f : β → List γ} (front : Delimited after e) (back : Delimited stop f)
    (meets : ∀ b s, stop s → after (f b ++ s)) : Delimited stop fun p : α × β => e p.1 ++ f p.2 := by
  rintro ⟨a, b⟩ ⟨a', b'⟩ s t first second same
  rw [List.append_assoc, List.append_assoc] at same
  obtain ⟨rfl, rest⟩ := front a a' _ _ (meets b s first) (meets b' t second) same
  obtain ⟨rfl, rfl⟩ := back b b' s t first second rest
  exact ⟨rfl, rfl⟩

theorem of_prefixFree (free : ∀ a b, e a <+: e b → a = b) : Delimited stop e := by
  intro a b s t _ _ same
  have equal : a = b := by
    rcases List.prefix_or_prefix_of_prefix (List.prefix_append (e a) s)
      (same ▸ List.prefix_append (e b) t) with
      shorter | longer
    · exact free a b shorter
    · exact (free b a longer).symm
  subst equal
  exact ⟨rfl, List.append_cancel_left same⟩

/-- Words of one length end by themselves. -/
theorem of_length {n : Nat} (injective : Function.Injective e) (length : ∀ a, (e a).length = n) :
    Delimited stop e := by
  refine of_prefixFree fun a b shorter => injective ?_
  exact shorter.eq_of_length ((length a).trans (length b).symm)

/-- A word over an alphabet ends at the first letter outside it. -/
theorem of_alphabet {letters : γ → Bool} (injective : Function.Injective e)
    (within : ∀ a, ∀ c ∈ e a, letters c = true) :
    Delimited (fun s => ∀ c ∈ s.head?, letters c = false) e := by
  have word (a : α) (s : List γ) (ends : ∀ c ∈ s.head?, letters c = false) :
      (e a ++ s).takeWhile letters = e a := by
    rw [List.takeWhile_append_of_pos (within a)]
    cases s with
    | nil => simp
    | cons c rest => simp [ends c rfl]
  intro a b s t first second same
  have words := congrArg (List.takeWhile letters) same
  rw [word a s first, word b t second] at words
  obtain rfl := injective words
  exact ⟨rfl, List.append_cancel_left same⟩

/-- A sequence ends with the mark, where no word starts with it. -/
theorem upTo (delimited : Delimited after e) {mark : γ} (marked : ∀ s, after (mark :: s))
    (again : ∀ a s, after (e a ++ s)) (apart : ∀ a s, (e a ++ s).head? ≠ some mark) :
    Delimited stop (upTo mark e) := by
  have follows (l : List α) (s : List γ) : after (Foundation.upTo mark e l ++ s) := by
    cases l with
    | nil => exact marked s
    | cons a rest =>
        rw [upTo_cons]
        exact again a _
  intro l
  induction l with
  | nil =>
      intro m s t _ _ same
      cases m with
      | nil =>
          rw [upTo_nil, upTo_nil, List.cons_inj_right] at same
          exact ⟨rfl, same⟩
      | cons b others =>
          rw [upTo_nil, upTo_cons] at same
          exact absurd (congrArg List.head? same).symm (apart b _)
  | cons a rest ih =>
      intro m s t first second same
      cases m with
      | nil =>
          rw [upTo_nil, upTo_cons] at same
          exact absurd (congrArg List.head? same) (apart a _)
      | cons b others =>
          rw [upTo_cons, upTo_cons] at same
          obtain ⟨rfl, tails⟩ := delimited a b _ _ (follows rest s) (follows others t) same
          obtain ⟨rfl, rfl⟩ := ih others s t first second tails
          exact ⟨rfl, rfl⟩

/-- A list between brackets ends with its closing one. -/
theorem enclosed (delimited : Delimited after e) {opening comma closing : γ}
    (afterComma : ∀ s, after (comma :: s)) (afterClosing : ∀ s, after (closing :: s))
    (apart : ∀ a s, (e a ++ s).head? ≠ some closing) (distinct : comma ≠ closing) :
    Delimited stop (enclosed opening comma closing e) := by
  have others : Delimited stop (Foundation.upTo closing fun b => comma :: e b) :=
    (delimited.cons comma).upTo afterClosing (fun _ _ => afterComma _)
      fun _ _ same => distinct (Option.some.inj same)
  have follows (l : List α) (s : List γ) :
      after (Foundation.upTo closing (fun b => comma :: e b) l ++ s) := by
    cases l with
    | nil => exact afterClosing s
    | cons _ _ => exact afterComma _
  intro l m s t first second same
  cases l with
  | nil =>
      cases m with
      | nil => simpa [Foundation.enclosed] using same
      | cons b rest' =>
          rw [enclosed_cons, Foundation.enclosed, List.cons_append, List.cons_inj_right] at same
          exact absurd (congrArg List.head? same).symm (apart b _)
  | cons a rest =>
      cases m with
      | nil =>
          rw [enclosed_cons, Foundation.enclosed, List.cons_append, List.cons_inj_right] at same
          exact absurd (congrArg List.head? same) (apart a _)
      | cons b rest' =>
          rw [enclosed_cons, enclosed_cons, List.cons_inj_right] at same
          obtain ⟨rfl, tails⟩ := delimited a b _ _ (follows rest s) (follows rest' t) same
          obtain ⟨rfl, rfl⟩ := others rest rest' s t first second tails
          exact ⟨rfl, rfl⟩

end Delimited

end AccreditationBackend.Foundation
