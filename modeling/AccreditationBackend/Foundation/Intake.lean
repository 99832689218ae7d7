import Mathlib.Data.List.Nodup

/-! Keys taken in one after another, each of them once. -/

set_option autoImplicit false

namespace AccreditationBackend.Foundation

variable {κ : Type} [DecidableEq κ]

/-- The keys that are new when their turn comes, in the order of their arrival. -/
def admitted : List κ → List κ → List κ
  | _, [] => []
  | seen, k :: rest => if k ∈ seen then admitted seen rest else k :: admitted (seen ++ [k]) rest

variable {seen keys keys' : List κ} {k : κ}

theorem mem_admitted : k ∈ admitted seen keys ↔ k ∈ keys ∧ k ∉ seen := by
  induction keys generalizing seen with
  | nil => simp [admitted]
  | cons first rest ih =>
      unfold admitted
      split
      next known =>
        rw [ih, List.mem_cons]
        refine ⟨fun ⟨later, new⟩ => ⟨.inr later, new⟩, fun ⟨arrived, new⟩ => ⟨?_, new⟩⟩
        exact arrived.resolve_left fun same => new (same ▸ known)
      next new =>
        rw [List.mem_cons, ih, List.mem_append, List.mem_singleton, List.mem_cons]
        by_cases same : k = first
        · subst same
          simp [new]
        · simp [same]

theorem nodup_admitted : (admitted seen keys).Nodup := by
  induction keys generalizing seen with
  | nil => simp [admitted]
  | cons first rest ih =>
      unfold admitted
      split
      next known => exact ih
      next new =>
        refine List.nodup_cons.mpr ⟨fun again => ?_, ih⟩
        exact (mem_admitted.mp again).2 (by simp)

/-- A second batch is judged after what the first one left. -/
theorem admitted_append :
    admitted seen (keys ++ keys') = admitted seen keys ++
      admitted (seen ++ admitted seen keys) keys' := by
  induction keys generalizing seen with
  | nil => simp [admitted]
  | cons first rest ih =>
      simp only [List.cons_append, admitted]
      split
      next known => exact ih
      next new => rw [ih, List.cons_append, List.append_assoc, List.singleton_append]

theorem count_admitted [BEq κ] [LawfulBEq κ] :
    (admitted seen keys).count k = if k ∈ keys ∧ k ∉ seen then 1 else 0 := by
  rw [List.Nodup.count nodup_admitted]
  simp only [mem_admitted]

/-- What is taken in depends on the keys that arrive, not on their order or repetition. -/
theorem admitted_perm (same : ∀ k, k ∈ keys ↔ k ∈ keys') :
    (admitted seen keys).Perm (admitted seen keys') := by
  refine (List.perm_ext_iff_of_nodup nodup_admitted nodup_admitted).mpr fun k => ?_
  rw [mem_admitted, mem_admitted, same]

/-! ## Items that stop the intake -/

section Stopping

variable {ι : Type} (key : ι → κ) (fits : ι → Prop)

/-- The keys taken in, up to the first item that is neither known nor fits. -/
def admittedUntil [DecidablePred fits] : List κ → List ι → List κ
  | _, [] => []
  | seen, item :: rest =>
      if key item ∈ seen then admittedUntil seen rest
      else if fits item then key item :: admittedUntil (seen ++ [key item]) rest
      else []

/-- The key was there before the items in front, or a fitting one of them brings it. -/
def Known (seen : List κ) (front : List ι) (k : κ) : Prop :=
  k ∈ seen ∨ ∃ earlier ∈ front, fits earlier ∧ key earlier = k

/-- No fitting item with a new key comes after an item that is new and does not fit. -/
def NoneBehind (seen : List κ) (items : List ι) : Prop :=
  ∀ front item back, items = front ++ item :: back →
    ¬ Known key fits seen front (key item) → ¬ fits item →
    ∀ later ∈ back, fits later → Known key fits seen front (key later)

variable {key fits}

section Known

omit [DecidableEq κ]

variable {seen seen' : List κ} {item : ι} {rest : List ι}

theorem known_of_key (known : key item ∈ seen) (front : List ι) (k : κ) :
    Known key fits seen (item :: front) k ↔ Known key fits seen front k := by
  unfold Known
  rw [List.exists_mem_cons_iff]
  refine ⟨?_, Or.imp_right .inr⟩
  rintro (before | ⟨_, rfl⟩ | brought)
  · exact .inl before
  · exact .inl known
  · exact .inr brought

theorem known_of_fits (fit : fits item) (front : List ι) (k : κ) :
    Known key fits seen (item :: front) k ↔ Known key fits (seen ++ [key item]) front k := by
  unfold Known
  rw [List.exists_mem_cons_iff, List.mem_append, List.mem_singleton, or_assoc]
  simp only [fit, true_and, eq_comm]

/-- An item that does not stop the intake moves from the list into what is known. -/
theorem noneBehind_cons
    (moved : ∀ front k, Known key fits seen (item :: front) k ↔ Known key fits seen' front k)
    (passes : Known key fits seen [] (key item) ∨ fits item) :
    NoneBehind key fits seen (item :: rest) ↔ NoneBehind key fits seen' rest := by
  constructor
  · intro clear front stop back split new unfit later member fit
    exact (moved front _).mp (clear (item :: front) stop back (by rw [split]; rfl)
      (fun known => new ((moved front _).mp known)) unfit later member fit)
  · intro clear front stop back split new unfit later member fit
    cases front with
    | nil =>
        cases split
        exact absurd (passes.resolve_left new) unfit
    | cons first front =>
        cases split
        exact (moved front _).mpr (clear front stop back rfl
          (fun known => new ((moved front _).mpr known)) unfit later member fit)

/-- Behind an item that stops the intake everything is to be known already. -/
theorem noneBehind_stop (new : key item ∉ seen) (unfit : ¬ fits item) :
    NoneBehind key fits seen (item :: rest) ↔ ∀ later ∈ rest, fits later → key later ∈ seen := by
  constructor
  · intro clear later member fit
    simpa [Known] using clear [] item rest rfl (by simpa [Known] using new) unfit later member fit
  · intro all front stop back split _ _ later member fit
    refine .inl (all later ?_ fit)
    cases front with
    | nil =>
        cases split
        exact member
    | cons first front =>
        cases split
        exact List.mem_append_right front (List.mem_cons_of_mem stop member)

end Known

variable [DecidablePred fits] {items : List ι}

/-- Every fitting item is taken in exactly when none is behind one that stops the intake. -/
theorem admittedUntil_complete :
    (∀ item ∈ items, fits item → key item ∈ seen ++ admittedUntil key fits seen items) ↔
      NoneBehind key fits seen items := by
  induction items generalizing seen with
  | nil => simp [NoneBehind]
  | cons item rest ih =>
      unfold admittedUntil
      rw [List.forall_mem_cons]
      by_cases known : key item ∈ seen
      · rw [if_pos known, noneBehind_cons (known_of_key known) (.inl (.inl known)), ← ih]
        exact and_iff_right fun _ => List.mem_append_left _ known
      · rw [if_neg known]
        by_cases fit : fits item
        · rw [if_pos fit, noneBehind_cons (known_of_fits fit) (.inr fit), ← ih, List.append_assoc,
            List.singleton_append]
          exact and_iff_right fun _ => by simp
        · rw [if_neg fit, noneBehind_stop known fit, List.append_nil]
          exact and_iff_right fun held => absurd held fit

/-- The intake of the same items after what it has taken in takes in nothing. -/
theorem admittedUntil_again :
    admittedUntil key fits (seen ++ admittedUntil key fits seen items) items = [] := by
  induction items generalizing seen with
  | nil => rfl
  | cons item rest ih =>
      by_cases known : key item ∈ seen
      · have taken :
            admittedUntil key fits seen (item :: rest) = admittedUntil key fits seen rest := by
          rw [admittedUntil, if_pos known]
        rw [taken, admittedUntil, if_pos (List.mem_append_left _ known), ih]
      · by_cases fit : fits item
        · have taken : admittedUntil key fits seen (item :: rest) =
              key item :: admittedUntil key fits (seen ++ [key item]) rest := by
            rw [admittedUntil, if_neg known, if_pos fit]
          rw [taken, List.append_cons, admittedUntil, if_pos (by simp), ih]
        · have taken : admittedUntil key fits seen (item :: rest) = [] := by
            rw [admittedUntil, if_neg known, if_neg fit]
          rw [taken, List.append_nil, taken]

end Stopping

end AccreditationBackend.Foundation
