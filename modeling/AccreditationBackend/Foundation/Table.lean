import Mathlib.Data.List.Basic
import Mathlib.Data.List.MinMax
import Mathlib.Data.List.Pairwise

/-! Tables of rows under unique constraints.

The constraint is part of the type: an insertion that would break it yields no
table, and an update may not touch the constrained columns.
-/

set_option autoImplicit false

namespace AccreditationBackend.Foundation

/-- The columns of a row that a unique constraint covers, and when two of them clash. -/
class Keyed (ρ : Type) where
  Key : Type
  key : ρ → Key
  Clash : Key → Key → Prop
  symm : ∀ a b, Clash a b → Clash b a
  decide : DecidableRel Clash

instance {ρ : Type} [Keyed ρ] : DecidableRel (Keyed.Clash (ρ := ρ)) := Keyed.decide

structure Table (ρ : Type) [Keyed ρ] where
  rows : List ρ
  unique : rows.Pairwise fun a b => ¬ Keyed.Clash (Keyed.key a) (Keyed.key b)

namespace Table

variable {ρ β : Type} [Keyed ρ]

def empty : Table ρ := ⟨[], .nil⟩

instance : Inhabited (Table ρ) := ⟨empty⟩

def find (t : Table ρ) (q : ρ → Bool) : Option ρ := t.rows.find? q

/-- Some row that satisfies `q`: the order of an unordered query is the caller's `choice`. -/
def pick (t : Table ρ) (choice : Nat) (q : ρ → Bool) : Option ρ :=
  let hits := t.rows.filter q
  hits[choice % hits.length]?

/-- A row of the highest rank among those that satisfy `q`; `choice` settles which of several. -/
def highest (t : Table ρ) (choice : Nat) (q : ρ → Bool) (rank : ρ → Nat) : Option ρ :=
  t.pick choice fun r => q r && t.rows.all fun other => !q other || decide (rank other ≤ rank r)

def count (t : Table ρ) (q : ρ → Bool) : Nat := t.rows.countP q

def column (t : Table ρ) (c : ρ → β) : List β := t.rows.map c

def insert (t : Table ρ) (row : ρ) : Option (Table ρ) :=
  if fresh : ∀ a ∈ t.rows, ¬ Keyed.Clash (Keyed.key a) (Keyed.key row) then
    some ⟨t.rows ++ [row], List.pairwise_append.mpr
      ⟨t.unique, List.pairwise_singleton _ _, fun a member _ last => List.mem_singleton.mp last ▸ fresh a member⟩⟩
  else none

/-- Insert rows one after another; one clash refuses them all. -/
def insertAll (t : Table ρ) : List ρ → Option (Table ρ)
  | [] => some t
  -- Each row is also checked against the ones inserted just before it.
  | row :: rest => (t.insert row).bind fun t => t.insertAll rest

def update (t : Table ρ) (q : ρ → Bool) (f : ρ → ρ) (same : ∀ r, Keyed.key (f r) = Keyed.key r) :
    Table ρ where
  rows := t.rows.map fun r => if q r then f r else r
  unique := by
    refine List.pairwise_map.mpr (t.unique.imp fun {a b} apart => ?_)
    -- The constraint is on keys, and no key moves.
    have kept (r : ρ) : Keyed.key (if q r then f r else r) = Keyed.key r := by split <;> simp [same]
    rwa [kept, kept]

/-- Delete the rows that satisfy `q`. -/
def delete (t : Table ρ) (q : ρ → Bool) : Table ρ := ⟨t.rows.filter (! q ·), t.unique.filter _⟩

/-- At most one row can satisfy `q`. -/
def Selects (q : ρ → Bool) : Prop :=
  ∀ a b : ρ, q a = true → q b = true → Keyed.Clash (Keyed.key a) (Keyed.key b)

/-- `q` reads the constrained columns alone. -/
def OnKey (q : ρ → Bool) : Prop := ∀ a b : ρ, Keyed.key a = Keyed.key b → q a = q b

/-! ## Lookups -/

theorem find_some_mem {t : Table ρ} {q : ρ → Bool} {r : ρ} (found : t.find q = some r) :
    r ∈ t.rows ∧ q r = true :=
  ⟨List.mem_of_find?_eq_some found, List.find?_some found⟩

theorem find_eq_none {t : Table ρ} {q : ρ → Bool} : t.find q = none ↔ ∀ r ∈ t.rows, q r = false := by
  simp [find]

theorem eq_of_clash {t : Table ρ} {a b : ρ} (left : a ∈ t.rows) (right : b ∈ t.rows)
    (clash : Keyed.Clash (Keyed.key a) (Keyed.key b)) : a = b := by
  by_contra different
  have symmetric : Std.Symm fun a b : ρ => ¬ Keyed.Clash (Keyed.key a) (Keyed.key b) :=
    ⟨fun a b apart back => apart (Keyed.symm _ _ back)⟩
  exact t.unique.forall left right different clash

theorem find_some_iff {t : Table ρ} {q : ρ → Bool} (selects : Selects q) {r : ρ} :
    t.find q = some r ↔ r ∈ t.rows ∧ q r = true := by
  constructor
  · exact find_some_mem
  · rintro ⟨member, holds⟩
    cases found : t.find q with
    | none => simp [find_eq_none.mp found r member] at holds
    | some other =>
        obtain ⟨otherMember, otherHolds⟩ := find_some_mem found
        rw [eq_of_clash otherMember member (selects _ _ otherHolds holds)]

theorem Selects.and {q : ρ → Bool} (selects : Selects q) (p : ρ → Bool) : Selects fun r => q r && p r :=
  fun a b left right => selects a b (Bool.and_eq_true_iff.mp left).1 (Bool.and_eq_true_iff.mp right).1

/-- A further condition keeps the row that a unique column selects, or drops it. -/
theorem find_and {t : Table ρ} {q : ρ → Bool} (selects : Selects q) (p : ρ → Bool) :
    (t.find fun r => q r && p r) = (t.find q).filter p := by
  ext r
  rw [Option.filter_eq_some_iff, find_some_iff (selects.and p), find_some_iff selects, Bool.and_eq_true,
    and_assoc]

/-- A value of a column leads to a row that holds it. -/
theorem find_of_column [DecidableEq β] {t : Table ρ} {c : ρ → β} {value : β}
    (member : value ∈ t.column c) :
    ∃ r, t.find (c · == value) = some r := by
  obtain ⟨r, inside, same⟩ := List.mem_map.mp member
  cases found : t.find (c · == value) with
  | some r => exact ⟨r, rfl⟩
  | none => simpa [same] using find_eq_none.mp found r inside

theorem pick_some_mem {t : Table ρ} {choice : Nat} {q : ρ → Bool} {r : ρ}
    (picked : t.pick choice q = some r) : r ∈ t.rows ∧ q r = true :=
  List.mem_filter.mp (List.mem_of_getElem? picked)

theorem pick_eq_none {t : Table ρ} {choice : Nat} {q : ρ → Bool} :
    t.pick choice q = none ↔ ∀ r ∈ t.rows, q r = false := by
  simp only [pick, List.getElem?_eq_none_iff]
  constructor
  · intro short r member
    by_contra holds
    -- With a hit left, `choice` modulo the number of hits is in range.
    have positive : 0 < (t.rows.filter q).length :=
      List.length_pos_of_mem (List.mem_filter.mpr ⟨member, by simpa using holds⟩)
    exact absurd (Nat.mod_lt choice positive) (by omega)
  · intro missing
    have nothing : t.rows.filter q = [] :=
      List.filter_eq_nil_iff.mpr fun r member => by simp [missing r member]
    simp [nothing]

theorem highest_some {t : Table ρ} {choice : Nat} {q : ρ → Bool} {rank : ρ → Nat} {r : ρ}
    (found : t.highest choice q rank = some r) :
    r ∈ t.rows ∧ q r = true ∧ ∀ other ∈ t.rows, q other = true → rank other ≤ rank r := by
  obtain ⟨member, holds⟩ := pick_some_mem found
  simp only [Bool.and_eq_true, List.all_eq_true, Bool.or_eq_true, Bool.not_eq_eq_eq_not,
    Bool.not_true, decide_eq_true_eq]
    at holds
  refine ⟨member, holds.1, fun other inside hit => (holds.2 other inside).resolve_left ?_⟩
  simp [hit]

theorem highest_none {t : Table ρ} {choice : Nat} {q : ρ → Bool} {rank : ρ → Nat}
    (missing : t.highest choice q rank = none) : ∀ r ∈ t.rows, q r = false := by
  intro r member
  by_contra hit
  -- Among the hits, one has the highest rank.
  cases top : (t.rows.filter q).argmax rank with
  | none =>
      have none_ := List.argmax_eq_none.mp top
      rw [List.filter_eq_nil_iff] at none_
      exact none_ r member (by simpa using hit)
  | some best =>
      obtain ⟨inside, holds⟩ := List.mem_filter.mp (List.argmax_mem top)
      have unpicked := pick_eq_none.mp missing best inside
      simp only [holds, Bool.true_and, List.all_eq_false, Bool.not_eq_true, Bool.or_eq_false_iff,
        Bool.not_eq_false', decide_eq_false_iff_not] at unpicked
      obtain ⟨other, member', hit', above⟩ := unpicked
      exact above (List.le_of_mem_argmax (List.mem_filter.mpr ⟨member', hit'⟩) top)

/-! ## Insertions -/

theorem insert_rows {t t' : Table ρ} {row : ρ} (inserted : t.insert row = some t') :
    t'.rows = t.rows ++ [row] := by
  unfold insert at inserted
  split at inserted
  · cases inserted; rfl
  · cases inserted

/-- A row is accepted when it clashes with none that is there. -/
theorem insert_accepted {t : Table ρ} {row : ρ} :
    (∃ t', t.insert row = some t') ↔ ∀ a ∈ t.rows, ¬ Keyed.Clash (Keyed.key a) (Keyed.key row) := by
  unfold insert
  split
  next fresh => exact iff_of_true ⟨_, rfl⟩ fresh
  next stale => exact iff_of_false (fun ⟨_, accepted⟩ => by cases accepted) stale

theorem insertAll_accepted {t : Table ρ} {rows : List ρ} :
    (∃ t', t.insertAll rows = some t') ↔
      (∀ a ∈ t.rows, ∀ b ∈ rows, ¬ Keyed.Clash (Keyed.key a) (Keyed.key b)) ∧
        rows.Pairwise fun a b => ¬ Keyed.Clash (Keyed.key a) (Keyed.key b) := by
  induction rows generalizing t with
  | nil => simp [insertAll]
  | cons row rest ih =>
      simp only [insertAll, Option.bind_eq_some_iff, List.forall_mem_cons, List.pairwise_cons]
      constructor
      · rintro ⟨t', middle, first, others⟩
        obtain ⟨apart, distinct⟩ := ih.mp ⟨t', others⟩
        simp only [insert_rows first, List.mem_append, List.mem_singleton] at apart
        exact ⟨fun a stored => ⟨insert_accepted.mp ⟨middle, first⟩ a stored, apart a (.inl stored)⟩,
          apart row (.inr rfl), distinct⟩
      · rintro ⟨apart, ahead, distinct⟩
        obtain ⟨middle, first⟩ := insert_accepted.mpr fun a stored => (apart a stored).1
        have later : ∀ a ∈ middle.rows, ∀ b ∈ rest, ¬ Keyed.Clash (Keyed.key a) (Keyed.key b) := by
          intro a stored
          rw [insert_rows first, List.mem_append, List.mem_singleton] at stored
          rcases stored with old | rfl
          · exact (apart a old).2
          · exact ahead
        obtain ⟨t', others⟩ := ih.mpr ⟨later, distinct⟩
        exact ⟨t', middle, first, others⟩

theorem insertAll_rows {t t' : Table ρ} {rows : List ρ} (inserted : t.insertAll rows = some t') :
    t'.rows = t.rows ++ rows := by
  induction rows generalizing t with
  | nil => cases inserted; simp
  | cons row rest ih =>
      obtain ⟨middle, first, others⟩ := Option.bind_eq_some_iff.mp inserted
      rw [ih others, insert_rows first, List.append_assoc, List.singleton_append]

/-- The tables that an insertion of many rows can leave. -/
theorem insertAll_iff {t t' : Table ρ} {rows : List ρ} :
    t.insertAll rows = some t' ↔ t'.rows = t.rows ++ rows := by
  constructor
  · exact insertAll_rows
  · intro appended
    have apart := t'.unique
    rw [appended, List.pairwise_append] at apart
    -- The rows are in a table already, so none of them clashes.
    obtain ⟨other, inserted⟩ := insertAll_accepted.mpr ⟨apart.2.2, apart.2.1⟩
    have same : other.rows = t'.rows := (insertAll_rows inserted).trans appended.symm
    rw [inserted]
    cases other
    cases t'
    cases same
    rfl

theorem column_insert {t t' : Table ρ} {row : ρ} (inserted : t.insert row = some t') (c : ρ → β) :
    t'.column c = t.column c ++ [c row] := by
  simp [column, insert_rows inserted]

theorem column_insertAll {t t' : Table ρ} {rows : List ρ} (inserted : t.insertAll rows = some t')
    (c : ρ → β) :
    t'.column c = t.column c ++ rows.map c := by
  simp [column, insertAll_rows inserted]

theorem find_insert {t t' : Table ρ} {row : ρ} (inserted : t.insert row = some t') (q : ρ → Bool) :
    t'.find q = (t.find q).or (if q row then some row else none) := by
  simp only [find, insert_rows inserted, List.find?_append, List.find?_singleton]

/-- An accepted row is the first that its unique columns select. -/
theorem find_insert_fresh {t t' : Table ρ} {row : ρ} (inserted : t.insert row = some t') {q : ρ → Bool}
    (selects : Selects q) (selected : q row = true) : t.find q = none := by
  rw [find_eq_none]
  intro r member
  by_contra holds
  -- The accepted row and an earlier hit would clash in the new table.
  have apart := t'.unique
  rw [insert_rows inserted] at apart
  exact (List.pairwise_append.mp apart).2.2 r member row (List.mem_singleton_self _)
    (selects _ _ (by simpa using holds) selected)

theorem count_insert {t t' : Table ρ} {row : ρ} (inserted : t.insert row = some t') (q : ρ → Bool) :
    t'.count q = t.count q + if q row then 1 else 0 := by
  simp [count, insert_rows inserted, List.countP_append, List.countP_singleton]

/-! ## Updates -/

omit [Keyed ρ] in
/-- What the rewriting of some rows leaves alone. -/
theorem comp_rewrite {q : ρ → Bool} {f : ρ → ρ} (p : ρ → Bool) (kept : ∀ r, p (f r) = p r) :
    (p ∘ fun r => if q r then f r else r) = p := by
  funext r
  simp only [Function.comp_apply]
  split <;> simp [kept]

section Update

variable (t : Table ρ) (q : ρ → Bool) (f : ρ → ρ) (same : ∀ r, Keyed.key (f r) = Keyed.key r)

theorem mem_update {r : ρ} :
    r ∈ (t.update q f same).rows ↔ ∃ a ∈ t.rows, (if q a then f a else a) = r := by
  simp [update]

/-- An update of rows that are up to date. -/
theorem update_fixed (fixed : ∀ r ∈ t.rows, q r = true → f r = r) : t.update q f same = t := by
  obtain ⟨rows, apart⟩ := t
  simp only [update, mk.injEq]
  refine (List.map_congr_left fun r member => ?_).trans (List.map_id rows)
  split
  next hit => exact fixed r member hit
  next => rfl

/-- Two conditions that agree on the rows make for the same update. -/
theorem update_congr {q' : ρ → Bool} (agree : ∀ r ∈ t.rows, q r = q' r) :
    t.update q f same = t.update q' f same := by
  obtain ⟨rows, apart⟩ := t
  simp only [update, mk.injEq]
  exact List.map_congr_left fun r member => by rw [agree r member]

/-- Two updates to one effect are an update of the rows of either. -/
theorem update_update (idempotent : ∀ r, f (f r) = f r) (q' : ρ → Bool) (kept : ∀ r, q' (f r) = q' r) :
    (t.update q f same).update q' f same = t.update (fun r => q r || q' r) f same := by
  obtain ⟨rows, apart⟩ := t
  simp only [update, mk.injEq, List.map_map]
  refine List.map_congr_left fun r _ => ?_
  simp only [Function.comp_apply]
  by_cases first : q r = true <;> by_cases second : q' r = true <;> simp [first, second, kept, idempotent]

/-- An update of no row. -/
theorem update_missing (missing : t.find q = none) : t.update q f same = t :=
  update_fixed t q f same fun r member hit => by simp [find_eq_none.mp missing r member] at hit

theorem column_update (c : ρ → β) (kept : ∀ r, c (f r) = c r) :
    (t.update q f same).column c = t.column c := by
  simp only [column, update, List.map_map]
  refine List.map_congr_left fun r _ => ?_
  simp only [Function.comp_apply]
  split <;> simp [kept]

/-- The rows that satisfy `p` are none of those that the update rewrites. -/
theorem filter_update (p : ρ → Bool)
    (outside : ∀ r ∈ t.rows, q r = true → p r = false ∧ p (f r) = false) :
    (t.update q f same).rows.filter p = t.rows.filter p := by
  have untouched : t.rows.filter (p ∘ fun r => if q r then f r else r) = t.rows.filter p := by
    refine List.filter_congr fun r member => ?_
    simp only [Function.comp_apply]
    split
    next hit => rw [(outside r member hit).1, (outside r member hit).2]
    next => rfl
  simp only [update, List.filter_map, untouched]
  refine (List.map_congr_left fun r member => ?_).trans (List.map_id _)
  obtain ⟨inside, holds⟩ := List.mem_filter.mp member
  refine if_neg fun hit => ?_
  cases holds.symm.trans (outside r inside hit).1

/-- The rows that satisfy `p` are rewritten among themselves. -/
theorem filter_update_kept (p : ρ → Bool) (kept : ∀ r, p (f r) = p r) :
    (t.update q f same).rows.filter p = (t.rows.filter p).map fun r => if q r then f r else r := by
  simp only [update, List.filter_map, comp_rewrite p kept]

/-- A lookup by columns that the update leaves alone finds the updated row. -/
theorem find_update (p : ρ → Bool) (kept : ∀ r, p (f r) = p r) :
    (t.update q f same).find p = (t.find p).map fun r => if q r then f r else r := by
  simp only [find, update, List.find?_map, comp_rewrite p kept]

/-- Such a lookup finds a row that the update rewrote, or what it found before. -/
theorem find_update_cases (p : ρ → Bool) (kept : ∀ r, p (f r) = p r) :
    (∃ r, t.find p = some r ∧ q r = true ∧ (t.update q f same).find p = some (f r)) ∨
      (t.update q f same).find p = t.find p := by
  rw [find_update _ _ _ _ _ kept]
  cases found : t.find p with
  | none => exact .inr rfl
  | some r =>
      by_cases hit : q r = true
      · exact .inl ⟨r, rfl, hit, by simp [hit]⟩
      · exact .inr (by simp [hit])

variable {t q}

/-- An update of the row just inserted leaves the others alone. -/
theorem update_inserted {t' : Table ρ} {row : ρ} (inserted : t.insert row = some t') (selects : Selects q)
    (selected : q row = true) : (t'.update q f same).rows = t.rows ++ [f row] := by
  have others := find_eq_none.mp (find_insert_fresh inserted selects selected)
  simp only [update, insert_rows inserted, List.map_append, List.map_singleton, selected, if_true]
  congr 1
  refine (List.map_congr_left fun r member => ?_).trans (List.map_id _)
  rw [others r member]
  rfl

/-- The one selected row leaves the count of its old form and enters that of its new one. -/
theorem count_update (selects : Selects q) {r : ρ} (found : t.find q = some r) (p : ρ → Bool) :
    (t.update q f same).count p + (if p r then 1 else 0) = t.count p + if p (f r) then 1 else 0 := by
  obtain ⟨rows, apart⟩ := t
  simp only [find, count, update] at found ⊢
  induction rows with
  | nil => simp at found
  | cons a rest ih =>
      obtain ⟨first, others⟩ := List.pairwise_cons.mp apart
      by_cases hit : q a = true
      -- The head is the selected row: the update leaves the tail alone.
      · have only : ∀ b ∈ rest, ¬ q b = true :=
          fun b member holds => first b member (selects a b hit holds)
        have rest_same : (rest.map fun r => if q r then f r else r) = rest := by
          refine (List.map_congr_left fun b member => ?_).trans (List.map_id rest)
          simp [only b member]
        simp only [List.find?_cons, hit, Option.some.injEq] at found
        subst found
        simp only [List.map_cons, hit, if_true, rest_same, List.countP_cons]
        omega
      · simp only [List.find?_cons, hit] at found
        -- The head is not selected, and counts the same on both sides.
        have step := ih others found
        simp only [List.map_cons, hit, List.countP_cons]
        simp only [Bool.false_eq_true, if_false]
        omega

end Update

/-- A lookup that none of the deleted rows satisfies. -/
theorem find_delete (t : Table ρ) {gone q : ρ → Bool} (apart : ∀ r, q r = true → gone r = false) :
    (t.delete gone).find q = t.find q := by
  simp only [find, delete, List.find?_filter]
  congr 1
  funext r
  by_cases hit : q r = true
  · simp [apart r hit]
  · simp [hit]

/-- A unique column selects the row that a lookup by it finds, and no other. -/
theorem filter_selects {t : Table ρ} {q : ρ → Bool} (selects : Selects q) :
    t.rows.filter q = (t.find q).toList := by
  obtain ⟨rows, apart⟩ := t
  simp only [find]
  induction rows with
  | nil => rfl
  | cons a rest ih =>
      obtain ⟨first, others⟩ := List.pairwise_cons.mp apart
      by_cases hit : q a = true
      · have only : rest.filter q = [] :=
          List.filter_eq_nil_iff.mpr fun b member holds => first b member (selects a b hit holds)
        simp [hit, only]
      · simpa [List.find?_cons, hit] using ih others

theorem count_selects {t : Table ρ} {q : ρ → Bool} (selects : Selects q) :
    t.count q = if (t.find q).isSome then 1 else 0 := by
  rw [count, List.countP_eq_length_filter, filter_selects selects]
  cases t.find q <;> rfl

end Table

end AccreditationBackend.Foundation
