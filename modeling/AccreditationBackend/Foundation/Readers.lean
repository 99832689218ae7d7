import AccreditationBackend.Foundation.Delimited

/-! Readers of words that stand one behind the other, with blanks between them. -/

set_option autoImplicit false

namespace AccreditationBackend.Foundation

variable {γ α β : Type}

/-- What a text begins with, and what is left of it. -/
abbrev Reader (γ α : Type) := List γ → Option (α × List γ)

namespace Reader

def map (f : α → β) (read : Reader γ α) : Reader γ β :=
  fun s => (read s).map fun found => (f found.1, found.2)

def pair (first : Reader γ α) (second : Reader γ β) : Reader γ (α × β) := fun s => do
  let (a, rest) ← first s
  let (b, rest) ← second rest
  return ((a, b), rest)

/-- With blanks allowed in front. -/
def past (skip : List γ → List γ) (read : Reader γ α) : Reader γ α := fun s => read (skip s)

/-- With blanks allowed on both sides. -/
def lexeme (skip : List γ → List γ) (read : Reader γ α) : Reader γ α := fun s => do
  let (a, rest) ← past skip read s
  return (a, skip rest)

variable [DecidableEq γ]

def after (c : γ) (read : Reader γ α) : Reader γ α
  | [] => none
  | d :: rest => if d = c then read rest else none

/-- Items up to a mark; the first argument bounds their number. -/
def within (mark : γ) (read : Reader γ α) : Nat → Reader γ (List α)
  | 0, _ => none
  | bound + 1, s =>
      if s.head? = some mark then some ([], s.tail)
      else do
        let (a, rest) ← read s
        let (others, rest) ← within mark read bound rest
        return (a :: others, rest)

/-- No item is empty, so there are no more of them than letters. -/
def upTo (mark : γ) (read : Reader γ α) : Reader γ (List α) := fun s => within mark read s.length s

def enclosed (skip : List γ → List γ) (opening comma closing : γ) (read : Reader γ α) :
    Reader γ (List α) :=
  after opening fun s =>
    if (skip s).head? = some closing then some ([], (skip s).tail)
    else do
      let (a, rest) ← lexeme skip read s
      let (others, rest) ← upTo closing (after comma (lexeme skip read)) rest
      return (a :: others, rest)

end Reader

/-- The reader reads the word of every value, before anything that may follow it;
`view` is what it makes of the value. -/
def Reads (stop : List γ → Prop) (read : Reader γ β) (e : α → List γ) (view : α → β) : Prop :=
  ∀ a s, stop s → read (e a ++ s) = some (view a, s)

namespace Reads

variable {stop next : List γ → Prop} {read : Reader γ β} {e : α → List γ} {view : α → β}

theorem comp {δ : Type} (reads : Reads stop read e view) (f : δ → α) :
    Reads stop read (fun d => e (f d)) fun d => view (f d) :=
  fun d => reads (f d)

theorem map {δ : Type} (reads : Reads stop read e view) (f : β → δ) :
    Reads stop (read.map f) e fun a => f (view a) := by
  intro a s follows
  rw [Reader.map, reads a s follows, Option.map_some]

/-- The second word is what follows the first one. -/
theorem pair {α' β' : Type} {read' : Reader γ β'} {e' : α' → List γ} {view' : α' → β'}
    (front : Reads next read e view) (back : Reads stop read' e' view')
    (meets : ∀ b s, stop s → next (e' b ++ s)) :
    Reads stop (read.pair read') (fun p : α × α' => e p.1 ++ e' p.2) fun p =>
      (view p.1, view' p.2) := by
  intro p s follows
  rw [Reader.pair, List.append_assoc, front p.1 _ (meets p.2 s follows)]
  simp only [Option.bind_eq_bind, Option.bind_some, back p.2 s follows, Option.pure_def]

theorem past {skip : List γ → List γ} (reads : Reads stop read e view)
    (solid : ∀ a s, skip (e a ++ s) = e a ++ s) : Reads stop (Reader.past skip read) e view := by
  intro a s follows
  rw [Reader.past, solid, reads a s follows]

theorem lexeme {skip : List γ → List γ} (reads : Reads stop read e view)
    (solid : ∀ a s, skip (e a ++ s) = e a ++ s) (solidNext : ∀ s, stop s → skip s = s) :
    Reads stop (Reader.lexeme skip read) e view := by
  intro a s follows
  rw [Reader.lexeme, reads.past solid a s follows]
  simp only [Option.bind_eq_bind, Option.bind_some, solidNext s follows, Option.pure_def]

variable [DecidableEq γ]

theorem cons (reads : Reads stop read e view) (c : γ) :
    Reads stop (Reader.after c read) (fun a => c :: e a) view := by
  intro a s follows
  rw [List.cons_append, Reader.after, if_pos rfl, reads a s follows]

/-- Every item takes a letter, so the bound is not reached. -/
theorem within (reads : Reads next read e view) {mark : γ} (marked : ∀ s, next (mark :: s))
    (again : ∀ a s, next (e a ++ s)) (apart : ∀ a s, (e a ++ s).head? ≠ some mark) (l : List α)
    (s : List γ) {bound : Nat} (enough : l.length < bound) :
    Reader.within mark read bound (upTo mark e l ++ s) = some (l.map view, s) := by
  induction l generalizing bound with
  | nil =>
      cases bound with
      | zero => cases enough
      | succ bound =>
          rw [upTo_nil, Reader.within, List.head?_cons, if_pos rfl, List.tail_cons, List.map_nil]
  | cons a rest ih =>
      cases bound with
      | zero => cases enough
      | succ bound =>
          have follows : next (upTo mark e rest ++ s) := by
            cases rest with
            | nil => exact marked s
            | cons b others =>
                rw [upTo_cons]
                exact again b _
          rw [upTo_cons, Reader.within, if_neg (apart a _), reads a _ follows]
          simp only [Option.bind_eq_bind, Option.bind_some, ih (Nat.lt_of_succ_lt_succ enough),
            Option.pure_def, List.map_cons]

theorem upTo (reads : Reads next read e view) {mark : γ} (marked : ∀ s, next (mark :: s))
    (again : ∀ a s, next (e a ++ s)) (apart : ∀ a s, (e a ++ s).head? ≠ some mark) :
    Reads stop (Reader.upTo mark read) (Foundation.upTo mark e) (List.map view) := by
  intro l s _
  have letters (l : List α) : l.length < (Foundation.upTo mark e l ++ s).length := by
    induction l with
    | nil => rw [upTo_nil]; exact Nat.zero_lt_succ _
    | cons a rest ih =>
        have letter : 0 < (e a).length := by
          refine List.length_pos_iff.mpr fun empty => apart a [mark] ?_
          rw [empty, List.nil_append, List.head?_cons]
        rw [upTo_cons, List.length_append, List.length_cons]
        omega
  exact reads.within marked again apart l s (letters l)

/-- A list between brackets is read back. -/
theorem enclosed {skip : List γ → List γ} (reads : Reads next read e view) {opening comma closing : γ}
    (afterComma : ∀ s, next (comma :: s)) (afterClosing : ∀ s, next (closing :: s))
    (apart : ∀ a s, (e a ++ s).head? ≠ some closing) (distinct : comma ≠ closing)
    (solid : ∀ a s, skip (e a ++ s) = e a ++ s) (solidNext : ∀ s, next s → skip s = s) :
    Reads stop (Reader.enclosed skip opening comma closing read) (enclosed opening comma closing e)
      (List.map view) := by
  have word : Reads next (Reader.lexeme skip read) e view := reads.lexeme solid solidNext
  have others :
      Reads (fun _ => True) (Reader.upTo closing (Reader.after comma (Reader.lexeme skip read)))
      (Foundation.upTo closing fun a => comma :: e a) (List.map view) :=
    (word.cons comma).upTo afterClosing (fun _ _ => afterComma _)
      fun _ _ same => distinct (Option.some.inj same)
  intro l s _
  cases l with
  | nil =>
      rw [Foundation.enclosed, List.cons_append, Reader.enclosed, Reader.after, if_pos rfl,
        List.cons_append, List.nil_append, solidNext _ (afterClosing s), List.head?_cons,
        if_pos rfl, List.tail_cons, List.map_nil]
  | cons a rest =>
      have follows : next (Foundation.upTo closing (fun b => comma :: e b) rest ++ s) := by
        cases rest with
        | nil => exact afterClosing s
        | cons _ _ => exact afterComma _
      rw [enclosed_cons, Reader.enclosed, Reader.after, if_pos rfl, solid, if_neg (apart a _),
        word a _ follows]
      simp only [Option.bind_eq_bind, Option.bind_some, others rest s trivial, Option.pure_def,
        List.map_cons]

end Reads

end AccreditationBackend.Foundation
