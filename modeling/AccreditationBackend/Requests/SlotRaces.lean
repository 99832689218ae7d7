import Mathlib.Algebra.Order.BigOperators.Group.Finset
import AccreditationBackend.Requests.SlotCalls
import AccreditationBackend.Requests.StaleWrites

/-! Decisions and cancellations among each other.

The slack of a pair is the sum of what the calls in flight owe. It is settled
when all have ended, provided that no call wrote over a status whose slot it
misjudged.
-/

set_option autoImplicit false

namespace AccreditationBackend

open Foundation

/-- Each counter says how many requests hold a slot of its pair. -/
def Balanced (t : Tables) : Prop := ∀ q ∈ t.quotas.rows, q.consumed = t.holding q.matchId q.categoryId

instance (t : Tables) : Decidable (Balanced t) :=
  inferInstanceAs (Decidable (∀ q ∈ t.quotas.rows, q.consumed = t.holding q.matchId q.categoryId))

theorem quotaRow_stored {t : Tables} {q : MatchCategoryQuota} (stored : q ∈ t.quotas.rows) :
    t.quotaRow q.matchId q.categoryId = some q :=
  (Table.find_some_iff (selects_quotaOf q.matchId q.categoryId)).mpr ⟨stored, by simp [quotaOf]⟩

theorem consumedOf_stored {t : Tables} {q : MatchCategoryQuota} (stored : q ∈ t.quotas.rows) :
    t.consumedOf q.matchId q.categoryId = q.consumed := by
  rw [Tables.consumedOf, quotaRow_stored stored]
  rfl

variable {pairs : Uuid → Option (Uuid × Uuid)} {quota : Option (Uuid × Nat)}
  {matchId categoryId : Uuid} {ι : Type}

theorem standing_kept (services : Services) {start : Database}
    (standing : Standing pairs quota matchId categoryId start) [DecidableEq ι]
    (calls : ι → Operation) (moves : ∀ i, (calls i).movesSlots = true) (schedule : List ι) :
    Standing pairs quota matchId categoryId
      ((operationPool services start calls).play handle schedule).2.store :=
  Pool.play_frame handle (P := fun stmt : Statement => stmt.calm = true)
    (R := fun s t => Standing pairs quota matchId categoryId s →
      Standing pairs quota matchId categoryId t)
    (fun _ held => held) (fun _ _ _ first second held => second (first held))
    (fun _ _ calm held => standing_step calm held) schedule (operationPool services start calls)
    (fun i => Proc.issues_mono _ (execute_footprint services (calls i)) fun _ => footprint_calm (moves i)) standing

variable [Fintype ι]

structure Owed (pairs : Uuid → Option (Uuid × Uuid)) (quota : Option (Uuid × Nat)) (matchId categoryId : Uuid)
    (db : Database) (debts : ι → Int) : Prop where
  standing : Standing pairs quota matchId categoryId db
  positive : ∀ i, 0 ≤ debts i
  shared : db.slack matchId categoryId = ∑ i, debts i

theorem Owed.knows {db : Database} {debts : ι → Int}
    (owed : Owed pairs quota matchId categoryId db debts) (i : ι) :
    (slotDiscipline pairs quota matchId categoryId).Knows (debts i) db := by
  refine ⟨owed.standing, owed.positive i, ?_⟩
  rw [owed.shared]
  exact Finset.single_le_sum (fun j _ => owed.positive j) (Finset.mem_univ i)

variable [DecidableEq ι]

theorem Owed.step {stmt : Statement} {db : Database} {debts : ι → Int} {i : ι} {debt : Int}
    (owed : Owed pairs quota matchId categoryId db debts)
    (commits : (slotDiscipline pairs quota matchId categoryId).Commits (debts i) (handle.event stmt db) debt) :
    Owed pairs quota matchId categoryId (handle.after stmt db) (Function.update debts i debt) where
  standing := standing_step commits.1 owed.standing
  positive j := by
    by_cases this : j = i
    · subst this
      simpa using commits.2.1
    · simpa [this] using owed.positive j
  shared := by
    have moved := commits.2.2.1
    rw [Handler.event_after, Handler.event_before, owed.shared,
      ← Finset.add_sum_erase Finset.univ debts (Finset.mem_univ i)] at moved
    rw [← Finset.add_sum_erase Finset.univ (Function.update debts i debt) (Finset.mem_univ i),
      Function.update_self]
    have others :
        ∑ j ∈ Finset.univ.erase i, Function.update debts i debt j = ∑ j ∈ Finset.univ.erase i, debts j :=
      Finset.sum_congr rfl fun j member => Function.update_of_ne
        (Finset.ne_of_mem_erase member) debt debts
    omega

/-- Once all calls have ended, nothing is owed. -/
theorem slack_settled (services : Services) {start : Database}
    (standing : Standing pairs quota matchId categoryId start)
    (settled : start.slack matchId categoryId = 0) (calls : ι → Operation)
    (moves : ∀ i, (calls i).movesSlots = true) (schedule : List ι)
    (sees : ∀ e ∈ ((operationPool services start calls).play handle schedule).1, seesSlot e.2 = true)
    (ended : ((operationPool services start calls).play handle schedule).2.Ended) :
    ((operationPool services start calls).play handle schedule).2.store.slack matchId categoryId = 0 := by
  have owed₀ : Owed pairs quota matchId categoryId start (fun _ : ι => 0) :=
    ⟨standing, fun _ => le_refl 0, by simpa using settled⟩
  obtain ⟨debts, owed, outlines⟩ :=
    Pool.play_outline handle (slotDiscipline pairs quota matchId categoryId)
      (J := fun _ => Owed pairs quota matchId categoryId) (F := fun _ _ e => seesSlot e = true)
      (Q := fun _ _ debt => debt = 0)
      (fun _ _ _ i owed => owed.knows i) (fun _ _ _ fair => fair)
      (fun _ _ _ _ _ _ owed _ commits => owed.step commits)
      schedule (operationPool services start calls) [] (fun _ => 0) owed₀
      (fun i => execute_outline services (moves i))
      (fun front i e back split => sees (i, e) (by rw [split]; simp))
  rw [owed.shared]
  refine Finset.sum_eq_zero fun i _ => ?_
  obtain ⟨r, returned⟩ := Option.isSome_iff_exists.mp (ended i)
  exact Proc.outline_ended handle _ (outlines i) returned

/-- No interleaving of decisions and cancellations unbalances a counter, as long
as each status is written over one that holds a slot exactly if the call thinks so. -/
theorem slots_settled (services : Services) (start : Database) (calls : ι → Operation)
    (moves : ∀ i, (calls i).movesSlots = true) (balanced : Balanced start.toTables) (schedule : List ι)
    (sees : ∀ e ∈ ((operationPool services start calls).play handle schedule).1, seesSlot e.2 = true)
    (ended : ((operationPool services start calls).play handle schedule).2.Ended) :
    Balanced ((operationPool services start calls).play handle schedule).2.store.toTables := by
  intro q stored
  have standing : Standing start.pairOf
      ((start.quotaRow q.matchId q.categoryId).map fun q => (q.id, q.quotaTotal)) q.matchId
      q.categoryId start :=
    ⟨fun _ => rfl, rfl⟩
  -- No call creates or removes a quota row, so the row at the end was there at the start.
  have kept := (standing_kept services standing calls moves schedule).quota
  rw [quotaRow_stored stored] at kept
  obtain ⟨q₀, row, _⟩ := Option.map_eq_some_iff.mp kept.symm
  have settled : start.slack q.matchId q.categoryId = 0 := by
    obtain ⟨stored₀, pair⟩ := Table.find_some_mem row
    simp only [quotaOf, Bool.and_eq_true, beq_iff_eq] at pair
    rw [Tables.slack, ← pair.1, ← pair.2, consumedOf_stored stored₀, balanced q₀ stored₀]
    omega
  have still := slack_settled services standing settled calls moves schedule sees ended
  rw [Tables.slack, consumedOf_stored stored] at still
  omega

/-! ## A slot reserved twice -/

def dossierComplete : List Operation :=
  dossierUnderReview ++ [.transition ⟨"dossier", .complete, "agent", none⟩]

/-- A dossier ready for its decision, with two slots free. -/
def awaitingDecision : Database := runFrom (perform sampleServices) (sampleDatabase 2) dossierComplete

def validate (badge : Uuid) : Operation :=
  .decide { freshId := badge, rawToken := badge }
    { requestId := "dossier", actorId := "agent", status := .validated, zoneIds := ["stand"] }

/-- A double click on the decision. -/
def validateTwice : Fin 2 → Operation
  | 0 => validate "badge"
  | 1 => validate "second"

def alternating : List (Fin 2) := (List.replicate 16 [0, 1]).flatten

/-- Both clicks read COMPLETE and reserve; the request ends with one badge and two slots. -/
theorem validated_twice :
    (∀ i, (validateTwice i).movesSlots = true) ∧ Balanced awaitingDecision.toTables ∧
      ((operationPool sampleServices awaitingDecision validateTwice).play handle alternating).2.Ended ∧
      ¬ Balanced ((operationPool sampleServices awaitingDecision validateTwice).play handle
        alternating).2.store.toTables := by
  refine ⟨by decide, by decide, fun i => ?_, by decide⟩
  revert i
  decide

def validateAndCancel : Fin 2 → Operation
  | 0 => validate "badge"
  | 1 => .cancel { requestId := "dossier", actorId := "user", requesterId := some "reporter" }

/-- The cancellation reads VALIDATED and finds BADGE_GENERATED: stale, but right about the slot. -/
theorem slots_settled_stale :
    Balanced ((operationPool sampleServices awaitingDecision validateAndCancel).play handle
      (List.replicate 6 0 ++ 1 :: List.replicate 10 0 ++ List.replicate 6 1)).2.store.toTables :=
  slots_settled sampleServices awaitingDecision validateAndCancel (by decide) (by decide) _ (by decide)
    (fun i => by revert i; decide)

end AccreditationBackend
