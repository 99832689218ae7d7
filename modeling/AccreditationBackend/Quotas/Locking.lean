import Mathlib.Data.Fintype.Card
import Mathlib.Data.Fintype.BigOperators
import AccreditationBackend.Foundation.Interleaving
import AccreditationBackend.Quotas.Service

/-! The lock on the slots of a quota, under every interleaving of calls.

A call compares with the total it read at its start. As long as nobody moves the
total, that comparison is as good as one with the stored total.
-/

set_option autoImplicit false

namespace AccreditationBackend

open Foundation

inductive SlotCall where
  | reserve (matchId categoryId : Uuid)
  | release (matchId categoryId : Uuid)
  deriving DecidableEq, Repr

def SlotCall.execute : SlotCall → Op (Option ReservationResult)
  | .reserve matchId categoryId => return some (← reserveSlot matchId categoryId)
  | .release matchId categoryId => do
      releaseSlot matchId categoryId
      return none

/-- A guarded update that matched the row. -/
def matched (quotaId : Uuid) (e : Event store Database) : Bool :=
  match e.stmt with
  | .reserve id limit => id == quotaId && e.before.quotas.count (reservable id limit) == 1
  | _ => false

/-- A decrement of the row. -/
def decremented (quotaId : Uuid) (e : Event store Database) : Bool :=
  match e.stmt with
  | .release id => id == quotaId
  | _ => false

/-- How far a call has come with the row under scrutiny. -/
inductive Progress where
  | waiting | got | full
  deriving DecidableEq, Repr

/-- The row is the one it was, but for its counter and its policy. -/
structure SameRow (q row : MatchCategoryQuota) : Prop where
  id : row.id = q.id
  matchId : row.matchId = q.matchId
  categoryId : row.categoryId = q.categoryId
  quotaTotal : row.quotaTotal = q.quotaTotal

def Targets (q : MatchCategoryQuota) (matchId categoryId : Uuid) : Prop :=
  matchId = q.matchId ∧ categoryId = q.categoryId

instance (q : MatchCategoryQuota) (matchId categoryId : Uuid) :
    Decidable (Targets q matchId categoryId) :=
  inferInstanceAs (Decidable (_ ∧ _))

section Row

variable (q : MatchCategoryQuota)

/-- The row stands, and every guarded update on it carries its total. -/
def lockDiscipline : Discipline store Database Progress where
  Knows _ db := ∃ row, db.quotas.find (·.id == q.id) = some row ∧ SameRow q row
  Grants _ := True
  Commits g e g' :=
    match e.stmt with
    | .reserve id limit =>
        if id = q.id then
          limit = q.quotaTotal ∧ g = .waiting ∧
            g' = if e.before.quotas.count (reservable id limit) = 1 then .got else .full
        else g' = g
    | .release _ => g' = g
    | _ => False

variable {q} {db : Database} {matchId categoryId : Uuid}

theorem selects_id_onKey (id : Uuid) : Table.OnKey (ρ := MatchCategoryQuota) (·.id == id) := by
  intro a b same
  have ids : a.id = b.id := congrArg Prod.fst same
  simp only [ids]

theorem read_row {row quota : MatchCategoryQuota} (found : db.quotas.find (·.id == q.id) = some row)
    (same : SameRow q row) (looked : db.quotaRow matchId categoryId = some quota) :
    (Targets q matchId categoryId ∧ quota = row) ∨
    (¬ Targets q matchId categoryId ∧ quota.id ≠ q.id) := by
  obtain ⟨inside, pair⟩ := Table.find_some_mem looked
  obtain ⟨rowInside, _⟩ := Table.find_some_mem found
  simp only [quotaOf, Bool.and_eq_true, beq_iff_eq] at pair
  by_cases target : Targets q matchId categoryId
  · refine .inl ⟨target, Table.eq_of_clash inside rowInside (.inr ?_)⟩
    exact Prod.ext (pair.1.trans (target.1.trans same.matchId.symm))
      (pair.2.trans (target.2.trans same.categoryId.symm))
  · refine .inr ⟨target, fun named => target ?_⟩
    have one : quota = row := Table.eq_of_clash inside rowInside (.inl (named.trans same.id.symm))
    subst one
    exact ⟨pair.1.symm.trans same.matchId, pair.2.symm.trans same.categoryId⟩

theorem read_missing {row : MatchCategoryQuota} (found : db.quotas.find (·.id == q.id) = some row)
    (same : SameRow q row) (looked : db.quotaRow matchId categoryId = none) :
    ¬ Targets q matchId categoryId := by
  rintro ⟨rfl, rfl⟩
  have missed := Table.find_eq_none.mp looked row (Table.find_some_mem found).1
  simp [quotaOf, same.matchId, same.categoryId] at missed

/-- The end of a reservation: on the row it targets it returned, and knows whether it got a slot. -/
def ReserveEnds (q : MatchCategoryQuota) (matchId categoryId : Uuid)
    (r : Except Failure ReservationResult) (g : Progress) : Prop :=
  if Targets q matchId categoryId then
    ∃ result, r = .ok result ∧ g ≠ .waiting ∧ (result.reserved = true ↔ g = .got)
  else g = .waiting

theorem count_reservable_le (db : Database) (id : Uuid) (limit : Nat) :
    db.quotas.count (reservable id limit) = 0 ∨ db.quotas.count (reservable id limit) = 1 := by
  rw [Table.count_selects (selects_reservable id limit)]
  split
  · exact .inr rfl
  · exact .inl rfl

theorem count_reservable {row : MatchCategoryQuota} {id : Uuid}
    (found : db.quotas.find (·.id == id) = some row) (limit : Nat) :
    db.quotas.count (reservable id limit) = if row.consumed < limit then 1 else 0 := by
  obtain ⟨member, named⟩ := Table.find_some_mem found
  rw [Table.count_selects (selects_reservable id limit)]
  by_cases room : row.consumed < limit
  · have hit : db.quotas.find (reservable id limit) = some row :=
      (Table.find_some_iff (selects_reservable id limit)).mpr
      ⟨member, by simp [reservable, beq_iff_eq.mp named, room]⟩
    simp [hit, room]
  · have missed : db.quotas.find (reservable id limit) = none := by
      rw [Table.find_eq_none]
      intro other inside
      by_contra holds
      simp only [reservable, Bool.not_eq_false, Bool.and_eq_true, decide_eq_true_eq] at holds
      have one : other = row := Table.eq_of_clash inside member (selects_quotaId id _ _ holds.1 named)
      exact room (one ▸ holds.2)
    simp [missed, room]

theorem reserveSlot_outline :
    (reserveSlot matchId categoryId).Outline handle (lockDiscipline q)
      (ReserveEnds q matchId categoryId) .waiting := by
  unfold reserveSlot
  simp only [getQuotaRow_bind, Proc.Outline]
  rintro db ⟨row, found, same⟩
  cases looked : db.quotaRow matchId categoryId with
  | none =>
      have other := read_missing found same looked
      simp only [orThrow_none_bind, Proc.Outline, ReserveEnds, if_neg other]
  | some quota =>
      simp only [orThrow_some_bind]
      intro s _ _
      refine ⟨if quota.id = q.id then
          if s.quotas.count (reservable quota.id quota.quotaTotal) = 1 then .got else .full
          else .waiting, ?_, ?_⟩
      -- The row read is the row under scrutiny exactly when the call targets it.
      · simp only [lockDiscipline, Handler.event_stmt, Handler.event_before]
        obtain ⟨_, rfl⟩ | ⟨_, other⟩ := read_row found same looked
        · simp [same.id, same.quotaTotal]
        · simp [other]
      · simp only [handle_reserve]
        rintro later ⟨last, lastFound, lastSame⟩
        cases again : later.quotaRow matchId categoryId with
        | none =>
            have other := read_missing lastFound lastSame again
            have apart : quota.id ≠ q.id := by
              obtain ⟨target, _⟩ | ⟨_, apart⟩ := read_row found same looked
              · exact absurd target other
              · exact apart
            simp only [again, orThrow_none_bind, Proc.Outline, ReserveEnds, if_neg other, if_neg apart]
        | some fresh =>
            simp only [again, orThrow_some_bind, Proc.pure_eq, Proc.Outline, ReserveEnds]
            obtain ⟨target, rfl⟩ | ⟨other, apart⟩ := read_row found same looked
            · rw [if_pos target, if_pos same.id]
              refine ⟨_, rfl, ?_, ?_⟩
              · split <;> simp
              · obtain zero | one := count_reservable_le s quota.id quota.quotaTotal
                · simp [zero]
                · simp [one]
            · rw [if_neg other, if_neg apart]

/-- What a call leaves behind: a reservation as above, and a release with nothing in hand. -/
def SlotCall.Ends (q : MatchCategoryQuota) :
    SlotCall → Except Failure (Option ReservationResult) → Progress → Prop
  | .reserve matchId categoryId, r, g =>
      if Targets q matchId categoryId then
        ∃ result, r = .ok (some result) ∧ g ≠ .waiting ∧ (result.reserved = true ↔ g = .got)
      else g = .waiting
  | .release _ _, _, g => g = .waiting

theorem SlotCall.execute_outline (call : SlotCall) :
    call.execute.Outline handle (lockDiscipline q) (call.Ends q) .waiting := by
  cases call with
  | reserve matchId categoryId =>
      refine Proc.outline_seq reserveSlot_outline fun r g ends => ?_
      unfold ReserveEnds at ends
      by_cases target : Targets q matchId categoryId
      · rw [if_pos target] at ends
        obtain ⟨result, rfl, moved, reserved⟩ := ends
        simpa [outlined, Proc.Outline, SlotCall.Ends, target] using ⟨moved, reserved⟩
      · rw [if_neg target] at ends
        cases r <;> simpa [outlined, Proc.Outline, SlotCall.Ends, target] using ends
  | release matchId categoryId =>
      have quiet : ∀ stmt s, (∃ id, stmt = Statement.release id) → (lockDiscipline q).Knows .waiting s →
          (lockDiscipline q).Commits .waiting (handle.event stmt s) .waiting := by
        rintro _ s ⟨id, rfl⟩ _
        rfl
      refine Proc.outline_seq
        (Proc.outline_of_issues _ _ _ quiet _ (releaseSlot_issues fun id => ⟨id, rfl⟩)) fun r g same => ?_
      cases r <;> exact same

/-! ## The counter -/

theorem SameRow.consume {row : MatchCategoryQuota} (same : SameRow q row) : SameRow q (consume row) :=
  ⟨same.id, same.matchId, same.categoryId, same.quotaTotal⟩

theorem SameRow.giveBack {row : MatchCategoryQuota} (same : SameRow q row) : SameRow q (giveBack row) :=
  ⟨same.id, same.matchId, same.categoryId, same.quotaTotal⟩

theorem lock_step {row : MatchCategoryQuota} (found : db.quotas.find (·.id == q.id) = some row)
    (same : SameRow q row) {stmt : Statement} {g g' : Progress}
    (commits : (lockDiscipline q).Commits g (handle.event stmt db) g') :
    (matched q.id (handle.event stmt db) = true ∧ decremented q.id (handle.event stmt db) = false ∧
        row.consumed < q.quotaTotal ∧ g = .waiting ∧ g' = .got ∧
        (handle.after stmt db).quotas.find (·.id == q.id) = some (consume row)) ∨
    (matched q.id (handle.event stmt db) = false ∧ decremented q.id (handle.event stmt db) = false ∧
        (g' = g ∨ g = .waiting ∧ g' = .full ∧ q.quotaTotal ≤ row.consumed) ∧
        (handle.after stmt db).quotas.find (·.id == q.id) = some row) ∨
    (matched q.id (handle.event stmt db) = false ∧ decremented q.id (handle.event stmt db) = true ∧ g' = g ∧
        (handle.after stmt db).quotas.find (·.id == q.id) = some (giveBack row)) := by
  cases stmt <;> simp only [lockDiscipline, Handler.event_stmt, Handler.event_before] at commits
  case reserve id limit =>
    have rewritten := find_reserve id limit db (selects_id_onKey q.id)
    rw [found, Option.map_some] at rewritten
    by_cases named : id = q.id
    · subst named
      simp only [if_true] at commits
      obtain ⟨rfl, waiting, moved⟩ := commits
      have counted := count_reservable found q.quotaTotal
      have hit : reservable q.id q.quotaTotal row = decide (row.consumed < q.quotaTotal) := by
        simp [reservable, same.id]
      by_cases room : row.consumed < q.quotaTotal
      · simp only [counted, hit, room, if_true, decide_true] at moved rewritten
        exact .inl ⟨by simp [matched, counted, room], rfl, room, waiting, moved, rewritten⟩
      · simp only [counted, hit, room, if_false, decide_false, zero_ne_one, Bool.false_eq_true] at moved rewritten
        refine .inr (.inl ⟨by simp [matched, counted, room], rfl, .inr ⟨waiting, moved, by omega⟩, rewritten⟩)
    · rw [if_neg named] at commits
      have missed : reservable id limit row = false := by simp [reservable, same.id, Ne.symm named]
      simp only [missed, Bool.false_eq_true, if_false] at rewritten
      exact .inr (.inl ⟨by simp [matched, named], rfl, .inl commits, rewritten⟩)
  case release id =>
    by_cases named : id = q.id
    · subst named
      have rewritten := find_release found (selects_id_onKey q.id)
      rw [found, Option.map_some, same.id] at rewritten
      exact .inr (.inr ⟨rfl, by simp [decremented], commits, by simpa using rewritten⟩)
    · refine .inr (.inl ⟨rfl, by simp [decremented, named], .inl commits, ?_⟩)
      have step := quota_step (selects_quotaId q.id) (selects_id_onKey q.id) (.release id) db
      rw [found] at step
      generalize (handle.after (.release id) db).quotas.find (·.id == q.id) = last at step
      cases step with
      | released other => exact absurd (other.symm.trans same.id) named
      | unchanged => rfl

variable {ι : Type} [DecidableEq ι]

/-- The counter is its first value plus the matches minus the decrements, and within the total. -/
def Counted (q : MatchCategoryQuota) (past : History ι store Database) (db : Database)
    (_ : ι → Progress) : Prop :=
  ∃ row, db.quotas.find (·.id == q.id) = some row ∧ SameRow q row ∧ row.consumed ≤ q.quotaTotal ∧
    row.consumed = q.consumed + past.countP (matched q.id ·.2) - past.countP (decremented q.id ·.2)

theorem counted_step {past : History ι store Database} {g : ι → Progress} {i : ι} {stmt : Statement}
    {g' : Progress} (counted : Counted q past db g)
    (commits : (lockDiscipline q).Commits (g i) (handle.event stmt db) g') :
    Counted q (past ++ [(i, handle.event stmt db)]) (handle.after stmt db) (Function.update g i g') := by
  obtain ⟨row, found, same, bounded, counter⟩ := counted
  simp only [Counted, List.countP_append, List.countP_singleton]
  obtain ⟨hit, kept, room, _, _, after⟩ | ⟨missed, kept, _, after⟩ | ⟨missed, back, _, after⟩ :=
    lock_step found same commits
  · refine ⟨_, after, same.consume, ?_, ?_⟩
    · simp only [consume]
      omega
    · simp only [consume, hit, kept, if_true, Bool.false_eq_true, if_false]
      omega
  · refine ⟨row, after, same, bounded, ?_⟩
    simp only [missed, kept, Bool.false_eq_true, if_false]
    omega
  · refine ⟨_, after, same.giveBack, ?_, ?_⟩
    · simp only [giveBack]
      omega
    · simp only [giveBack, missed, back, if_true, Bool.false_eq_true, if_false]
      omega

variable [Fintype ι]

/-- Without releases the counter has grown by one for each call that got a
slot, and a call was turned away only when it stood at the total for good. -/
def Shared (q : MatchCategoryQuota) (_ : History ι store Database) (db : Database)
    (g : ι → Progress) : Prop :=
  ∃ row, db.quotas.find (·.id == q.id) = some row ∧ SameRow q row ∧ row.consumed ≤ q.quotaTotal ∧
    row.consumed = q.consumed + (Finset.univ.filter fun i => g i = .got).card ∧
    ∀ i, g i = .full → row.consumed = q.quotaTotal

theorem shared_step {past : History ι store Database} {g : ι → Progress} {i : ι} {stmt : Statement}
    {g' : Progress} (shared : Shared q past db g) (reserves : ∀ id, stmt ≠ .release id)
    (commits : (lockDiscipline q).Commits (g i) (handle.event stmt db) g') :
    Shared q (past ++ [(i, handle.event stmt db)]) (handle.after stmt db) (Function.update g i g') := by
  obtain ⟨row, found, same, bounded, counter, turned⟩ := shared
  obtain ⟨_, _, room, waiting, rfl, after⟩ | ⟨_, _, moved, after⟩ | ⟨_, back, _, _⟩ :=
    lock_step found same commits
  · have grown : (Finset.univ.filter fun j => Function.update g i .got j = .got) =
        insert i (Finset.univ.filter fun j => g j = .got) := by
      ext j
      by_cases this : j = i
      · simp [this]
      · simp [this]
    -- One call more has a slot, and the counter has moved by one.
    have absent : i ∉ Finset.univ.filter fun j => g j = .got := by simp [waiting]
    refine ⟨_, after, same.consume, ?_, ?_, fun j full => ?_⟩
    · simp only [consume]
      omega
    · rw [grown, Finset.card_insert_of_notMem absent]
      simp only [consume]
      omega
    · by_cases this : j = i
      · simp [this] at full
      · rw [Function.update_of_ne this] at full
        exact absurd (turned j full) (by omega)
  · have kept : (Finset.univ.filter fun j => Function.update g i g' j = .got) =
        Finset.univ.filter fun j => g j = .got := by
      ext j
      by_cases this : j = i
      · obtain rfl | ⟨waiting, rfl, _⟩ := moved
        · simp [this]
        · simp [this, waiting]
      · simp [this]
    refine ⟨row, after, same, bounded, by rw [kept]; exact counter, fun j full => ?_⟩
    -- Who is turned away now has met a full row.
    by_cases this : j = i
    · subst this
      rw [Function.update_self] at full
      obtain rfl | ⟨_, _, reached⟩ := moved
      · exact turned j full
      · omega
    · rw [Function.update_of_ne this] at full
      exact turned j full
  · cases stmt <;> simp only [decremented, Handler.event_stmt, Bool.false_eq_true] at back
    exact absurd rfl (reserves _)

omit [DecidableEq ι] in
theorem Shared.handed_out {past : History ι store Database} {g : ι → Progress}
    (shared : Shared q past db g) :
    ((Finset.univ.filter fun i => g i = .got).card : Int) =
      min ((Finset.univ.filter fun i => g i ≠ .waiting).card : Int) (q.quotaTotal - q.consumed) := by
  obtain ⟨row, _, _, bounded, counter, turned⟩ := shared
  by_cases refused : ∃ i, g i = .full
  · obtain ⟨i, full⟩ := refused
    have fewer :
        (Finset.univ.filter fun i => g i = .got).card ≤
        (Finset.univ.filter fun i => g i ≠ .waiting).card :=
      Finset.card_le_card fun j member => by
        simp only [Finset.mem_filter, Finset.mem_univ, true_and] at member ⊢
        simp [member]
    have reached := turned i full
    omega
  · -- Nobody was turned away, so whoever came for a slot got one.
    have all : (Finset.univ.filter fun i => g i ≠ .waiting) = Finset.univ.filter fun i => g i = .got := by
      ext j
      simp only [Finset.mem_filter, Finset.mem_univ, true_and]
      cases at_ : g j with
      | waiting => simp
      | got => simp
      | full => exact absurd ⟨j, at_⟩ refused
    rw [all]
    omega

end Row

/-! ## Pools of calls -/

section Pools

variable {ι : Type} [DecidableEq ι]

def slotPool (start : Database) (calls : ι → SlotCall) :
    Pool ι store Database Failure (Option ReservationResult) :=
  ⟨start, fun i => (calls i).execute⟩

/-- The call has returned a slot. -/
def hasSlot (p : Op (Option ReservationResult)) : Bool :=
  match p.ended with
  | some (.ok (some result)) => result.reserved
  | _ => false

theorem slotPool_counted (start : Database) (calls : ι → SlotCall) {q : MatchCategoryQuota}
    (stored : q ∈ start.quotas.rows) (room : q.consumed ≤ q.quotaTotal) (schedule : List ι) :
    ∃ g, Counted q ((slotPool start calls).play handle schedule).1
      ((slotPool start calls).play handle schedule).2.store g := by
  have found : start.quotas.find (·.id == q.id) = some q := quotaById_stored stored
  obtain ⟨g, counted, _⟩ :=
    Pool.play_outline handle (lockDiscipline q) (J := Counted q) (F := fun _ _ _ => True)
      (Q := fun i => (calls i).Ends q)
      (fun _ _ _ _ ⟨row, found, same, _⟩ => ⟨row, found, same⟩) (fun _ _ _ _ => trivial)
      (fun _ _ _ _ _ _ counted _ commits => counted_step counted commits)
      schedule (slotPool start calls) [] (fun _ => .waiting)
      ⟨q, found, ⟨rfl, rfl, rfl, rfl⟩, room, by simp⟩ (fun i => (calls i).execute_outline)
      (fun _ _ _ _ _ => trivial)
  exact ⟨g, counted⟩

variable [Fintype ι]

theorem slotPool_shared (start : Database) (calls : ι → SlotCall) {q : MatchCategoryQuota}
    (stored : q ∈ start.quotas.rows) (room : q.consumed ≤ q.quotaTotal)
    (reserves : ∀ i, ∃ matchId categoryId, calls i = .reserve matchId categoryId) (schedule : List ι) :
    ∃ g, Shared q ((slotPool start calls).play handle schedule).1
        ((slotPool start calls).play handle schedule).2.store g ∧
      ∀ i, (((slotPool start calls).play handle schedule).2.procs i).Outline handle (lockDiscipline q)
        ((calls i).Ends q) (g i) := by
  have found : start.quotas.find (·.id == q.id) = some q := quotaById_stored stored
  have quiet (i : ι) :
      ((slotPool start calls).procs i).Issues fun stmt : Statement => ∀ id, stmt ≠ .release id := by
    obtain ⟨matchId, categoryId, same⟩ := reserves i
    simp only [slotPool, same, SlotCall.execute]
    exact Proc.issues_bind _ _ _ (reserveSlot_issues fun _ _ _ => Statement.noConfusion) fun _ => trivial
  have issued := Pool.play_issues handle schedule (slotPool start calls) quiet
  exact Pool.play_outline handle (lockDiscipline q) (J := Shared q)
    (F := fun _ _ e => ∀ id, e.stmt ≠ Statement.release id) (Q := fun i => (calls i).Ends q)
    (fun _ _ _ _ ⟨row, found, same, _⟩ => ⟨row, found, same⟩) (fun _ _ _ _ => trivial)
    (fun _ _ _ _ _ _ shared fair commits => shared_step shared fair commits)
    schedule (slotPool start calls) [] (fun _ => .waiting)
    ⟨q, found, ⟨rfl, rfl, rfl, rfl⟩, room, by simp, by simp⟩ (fun i => (calls i).execute_outline)
    (fun front i e back split => issued (i, e) (by rw [split]; simp))

omit [DecidableEq ι] [Fintype ι] in
/-- A reservation knows at its end whether it got a slot; one on another row never touched this one. -/
theorem slotCall_known {q : MatchCategoryQuota} {call : SlotCall}
    {p : Op (Option ReservationResult)} {g : Progress}
    (reserves : ∃ matchId categoryId, call = .reserve matchId categoryId)
    (outline : p.Outline handle (lockDiscipline q) (call.Ends q) g)
    (ended : p.ended.isSome = true) :
    (call = .reserve q.matchId q.categoryId ↔ g ≠ .waiting) ∧
      (call = .reserve q.matchId q.categoryId → (hasSlot p = true ↔ g = .got)) := by
  obtain ⟨r, returned⟩ := Option.isSome_iff_exists.mp ended
  have ends := Proc.outline_ended handle _ outline returned
  obtain ⟨matchId, categoryId, rfl⟩ := reserves
  simp only [SlotCall.Ends] at ends
  by_cases target : Targets q matchId categoryId
  · rw [if_pos target] at ends
    obtain ⟨result, rfl, moved, slot⟩ := ends
    obtain ⟨rfl, rfl⟩ := target
    simp only [hasSlot, returned, true_iff, forall_const]
    exact ⟨moved, slot⟩
  · rw [if_neg target] at ends
    simp only [Targets] at target
    simp only [ends, SlotCall.reserve.injEq, target, ne_eq, not_true_eq_false, false_implies, and_self]

/-- Once every reservation has returned, the slots handed out are all that were
left, or as many as were asked for. -/
theorem slotPool_ended (start : Database) (calls : ι → SlotCall) {q : MatchCategoryQuota}
    (stored : q ∈ start.quotas.rows) (room : q.consumed ≤ q.quotaTotal)
    (reserves : ∀ i, ∃ matchId categoryId, calls i = .reserve matchId categoryId) (schedule : List ι)
    (ended : ((slotPool start calls).play handle schedule).2.Ended) :
    ((Finset.univ.filter fun i =>
        calls i = .reserve q.matchId q.categoryId ∧
          hasSlot (((slotPool start calls).play handle schedule).2.procs i) = true).card : Int) =
      min ((Finset.univ.filter fun i => calls i = .reserve q.matchId q.categoryId).card : Int)
        (q.quotaTotal - q.consumed) := by
  obtain ⟨g, shared, outlines⟩ := slotPool_shared start calls stored room reserves schedule
  have known (i : ι) := slotCall_known (reserves i) (outlines i) (ended i)
  have asked : (Finset.univ.filter fun i => calls i = .reserve q.matchId q.categoryId) =
      Finset.univ.filter fun i => g i ≠ .waiting := by
    ext i
    simp [(known i).1]
  have granted : (Finset.univ.filter fun i => calls i = .reserve q.matchId q.categoryId ∧
      hasSlot (((slotPool start calls).play handle schedule).2.procs i) = true) =
      Finset.univ.filter fun i => g i = .got := by
    ext i
    simp only [Finset.mem_filter, Finset.mem_univ, true_and]
    constructor
    · exact fun ⟨asks, slot⟩ => ((known i).2 asks).mp slot
    · intro got
      have asks := (known i).1.mpr (by simp [got])
      exact ⟨asks, ((known i).2 asks).mpr got⟩
  rw [asked, granted]
  exact shared.handed_out

/-- The lock on a quota: no interleaving of reservations and releases takes the
counter past the total or loses count of it, and reservations alone share out
exactly the slots that are left. -/
theorem quota_lock (start : Database) (calls : ι → SlotCall) (q : MatchCategoryQuota)
    (stored : q ∈ start.quotas.rows) (room : q.consumed ≤ q.quotaTotal) :
    (∀ schedule, ∃ row,
      ((slotPool start calls).play handle schedule).2.store.quotas.find (·.id == q.id) = some row ∧
      row.quotaTotal = q.quotaTotal ∧ row.consumed ≤ row.quotaTotal ∧
      row.consumed = q.consumed + ((slotPool start calls).play handle schedule).1.countP
        (matched q.id ·.2) -
        ((slotPool start calls).play handle schedule).1.countP (decremented q.id ·.2)) ∧
    ∀ schedule, (∀ i, ∃ matchId categoryId, calls i = .reserve matchId categoryId) →
      ((slotPool start calls).play handle schedule).2.Ended →
      ((Finset.univ.filter fun i =>
          calls i = .reserve q.matchId q.categoryId ∧
            hasSlot (((slotPool start calls).play handle schedule).2.procs i) = true).card : Int) =
        min ((Finset.univ.filter fun i => calls i = .reserve q.matchId q.categoryId).card : Int)
          (q.quotaTotal - q.consumed) := by
  refine ⟨fun schedule => ?_,
    fun schedule reserves ended => slotPool_ended start calls stored room reserves schedule ended⟩
  obtain ⟨_, row, found, same, bounded, counter⟩ := slotPool_counted start calls stored room schedule
  exact ⟨row, found, same.quotaTotal, by rw [same.quotaTotal]; exact bounded, counter⟩

/-- Two calls race for the one slot of the sample. -/
theorem quota_lock_race :
    ((Finset.univ.filter fun i : Fin 2 => (SlotCall.reserve "final" "press" = .reserve "final" "press") ∧
      hasSlot (((slotPool (sampleDatabase 1) fun _ : Fin 2 => .reserve "final" "press").play handle
        [0, 1, 1, 0, 0, 1]).2.procs i) = true).card : Int) = 1 :=
  (quota_lock (sampleDatabase 1) (fun _ : Fin 2 => .reserve "final" "press")
    { id := "quota", matchId := "final", categoryId := "press", quotaTotal := 1 }
    (by simp [sampleDatabase]) (by decide)).2 [0, 1, 1, 0, 0, 1] (fun _ => ⟨_, _, rfl⟩)
    (fun i => by revert i; decide)

end Pools

end AccreditationBackend
