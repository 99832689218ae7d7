import AccreditationBackend.Foundation.Staged
import AccreditationBackend.Quotas.Locking

/-! The floor of the counter, under every interleaving of releases.

A release looks at the counter first and decrements in a later statement, which
has no guard of its own. So the counter stays at zero or above only as long as
there are no more releases than slots taken, or no slot can be taken at all.
-/

set_option autoImplicit false

namespace AccreditationBackend

open Foundation

/-- Where a call stands with the row: before its first read, before its update, or past both. -/
inductive Errand where
  | waiting | reserving | releasing | past
  deriving DecidableEq, Repr

/-- Statements that reach no slot of the row. -/
def Spares (quotaId : Uuid) : Statement → Prop
  | .reserve id _ => id ≠ quotaId
  | .release id => id ≠ quotaId
  | _ => False

section Turns

variable (q : MatchCategoryQuota)

/-- What is left of a call at its stage. -/
inductive Stands : SlotCall × Errand → Op (Option ReservationResult) → Prop
  | waiting (call : SlotCall) : Stands (call, .waiting) call.execute
  | reserving {next : Nat → Op (Option ReservationResult)}
      (silent : ∀ count, (next count).Issues (Spares q.id)) :
      Stands (.reserve q.matchId q.categoryId, .reserving) (.exec (.reserve q.id q.quotaTotal) next)
  | releasing : Stands (.release q.matchId q.categoryId, .releasing)
      (.exec (.release q.id) fun _ => .done none)
  | past (call : SlotCall) {p : Op (Option ReservationResult)} (spares : p.Issues (Spares q.id)) :
      Stands (call, .past) p

/-- What one turn of a call does to its stage and to the counter. -/
inductive SlotTurn : SlotCall × Errand → Int → SlotCall × Errand → Int → Prop
  | stays (at_ : SlotCall × Errand) (consumed : Int) : SlotTurn at_ consumed at_ consumed
  | dismissed (call : SlotCall) (consumed : Int) : SlotTurn (call, .waiting) consumed
      (call, .past) consumed
  | asks (consumed : Int) : SlotTurn (.reserve q.matchId q.categoryId, .waiting) consumed
      (.reserve q.matchId q.categoryId, .reserving) consumed
  | arms {consumed : Int} (positive : 0 < consumed) : SlotTurn (.release q.matchId q.categoryId, .waiting)
      consumed (.release q.matchId q.categoryId, .releasing) consumed
  | refused {consumed : Int} (full : q.quotaTotal ≤ consumed) :
      SlotTurn (.reserve q.matchId q.categoryId, .reserving) consumed
        (.reserve q.matchId q.categoryId, .past) consumed
  | takes {consumed : Int} (room : consumed < q.quotaTotal) :
      SlotTurn (.reserve q.matchId q.categoryId, .reserving) consumed
        (.reserve q.matchId q.categoryId, .past) (consumed + 1)
  | givesBack (consumed : Int) : SlotTurn (.release q.matchId q.categoryId, .releasing) consumed
      (.release q.matchId q.categoryId, .past) (consumed - 1)

variable {q} {db : Database} {row : MatchCategoryQuota}

theorem row_spared {stmt : Statement} (spares : Spares q.id stmt)
    (found : db.quotas.find (·.id == q.id) = some row) :
    (handle.after stmt db).quotas.find (·.id == q.id) = some row := by
  have step := quota_step (selects_quotaId q.id) (selects_id_onKey q.id) stmt db
  have named : row.id = q.id := beq_iff_eq.mp (Table.find_some_mem found).2
  rw [found] at step
  generalize (handle.after stmt db).quotas.find (·.id == q.id) = last at step
  cases step with
  | edited _ => exact spares.elim
  | reserved room =>
      simp only [reservable, Bool.and_eq_true, beq_iff_eq] at room
      exact absurd (room.1.symm.trans named) spares
  | released same => exact absurd (same.symm.trans named) spares
  | unchanged => rfl

variable {ι : Type} [DecidableEq ι]
  {pool : Pool ι store Database Failure (Option ReservationResult)} {i : ι}

/-- The spec of a turn: the row is still there, and the call has taken one of its steps. -/
def Turned (q row : MatchCategoryQuota) (at_ : SlotCall × Errand)
    (pool : Pool ι store Database Failure (Option ReservationResult)) (i : ι) : Prop :=
  ∃ at' row', pool.store.quotas.find (·.id == q.id) = some row' ∧ SameRow q row' ∧
    Stands q at' (pool.procs i) ∧ SlotTurn q at_ row.consumed at' row'.consumed

theorem past_turned (found : pool.store.quotas.find (·.id == q.id) = some row) (same : SameRow q row)
    {call : SlotCall} (spares : (pool.procs i).Issues (Spares q.id)) :
    Turned q row (call, .past) (pool.turn handle i).2 i := by
  obtain turned | ⟨next, shape, turned⟩ | ⟨stmt, next, reply, t, shape, replied, turned⟩ |
    ⟨stmt, next, why, shape, _, turned⟩ := pool.turn_cases handle i <;> rw [turned]
  · exact ⟨_, row, found, same, .past call spares, .stays _ _⟩
  · rw [shape] at spares
    exact ⟨_, row, found, same, .past call (by simpa using spares pool.store), .stays _ _⟩
  · rw [shape] at spares
    have kept := row_spared spares.1 found
    rw [handle.after_ok replied] at kept
    exact ⟨_, row, kept, same, .past call (by simpa using spares.2 reply), .stays _ _⟩
  · exact ⟨_, row, found, same, .past call (by simp [Proc.Issues]), .stays _ _⟩

theorem row_decremented (found : db.quotas.find (·.id == q.id) = some row) (same : SameRow q row) :
    handle (.release q.id) db = .ok ((), handle.after (.release q.id) db) ∧
      (handle.after (.release q.id) db).quotas.find (·.id == q.id) = some (giveBack row) := by
  refine ⟨handle_replies rfl (by rw [Tables.apply, found]; rfl), ?_⟩
  simpa only [found, Option.map_some, same.id, beq_self_eq_true, if_true] using
    find_release found (selects_id_onKey q.id)

theorem releasing_turned (found : pool.store.quotas.find (·.id == q.id) = some row) (same : SameRow q row)
    (stands : pool.procs i = .exec (.release q.id) fun _ => .done none) :
    Turned q row (.release q.matchId q.categoryId, .releasing) (pool.turn handle i).2 i := by
  obtain ⟨replied, after⟩ := row_decremented found same
  rw [Pool.turn_exec handle pool stands replied]
  exact ⟨_, giveBack row, after, same.giveBack, .past _ (by simp [Proc.Issues]), .givesBack _⟩

theorem reserving_turned (found : pool.store.quotas.find (·.id == q.id) = some row) (same : SameRow q row)
    {next : Nat → Op (Option ReservationResult)} (silent : ∀ count, (next count).Issues (Spares q.id))
    (stands : pool.procs i = .exec (.reserve q.id q.quotaTotal) next) :
    Turned q row (.reserve q.matchId q.categoryId, .reserving) (pool.turn handle i).2 i := by
  have after := find_reserve q.id q.quotaTotal pool.store (selects_id_onKey q.id)
  have hit : reservable q.id q.quotaTotal row = decide (row.consumed < q.quotaTotal) := by
    simp [reservable, same.id]
  simp only [found, Option.map_some, hit, decide_eq_true_eq] at after
  rw [Pool.turn_exec handle pool stands (handle_reserve _ _ _)]
  by_cases room : row.consumed < q.quotaTotal
  · rw [if_pos room] at after
    exact ⟨_, consume row, after, same.consume, .past _ (by simpa using silent _), .takes room⟩
  · rw [if_neg room] at after
    exact ⟨_, row, after, same, .past _ (by simpa using silent _), .refused (by omega)⟩

/-- What a reservation does after its update: it reads the row again. -/
def reserved (matchId categoryId : Uuid) (updated : Nat) : Op (Option ReservationResult) := do
  let fresh ← getQuotaRow matchId categoryId
  return some {
    reserved := updated == 1
    overflowPolicy := fresh.overflowPolicy
    quotaTotal := fresh.quotaTotal
    consumed := fresh.consumed }

theorem reserved_issues {P : Statement → Prop} (matchId categoryId : Uuid) (updated : Nat) :
    (reserved matchId categoryId updated).Issues P :=
  Proc.issues_bind _ _ _ (getQuotaRow_issues _ _) fun _ => trivial

/-- What it does once it has read the row: one guarded update, and then that. -/
def reserving (matchId categoryId : Uuid) (quota : MatchCategoryQuota) : Op (Option ReservationResult) :=
  .exec (.reserve quota.id quota.quotaTotal) (reserved matchId categoryId)

theorem reserve_reads (matchId categoryId : Uuid) :
    (SlotCall.reserve matchId categoryId).execute =
      .read fun db => orThrow (db.quotaRow matchId categoryId) quotaNotConfigured >>=
        reserving matchId categoryId := by
  have whole : (SlotCall.reserve matchId categoryId).execute =
      getQuotaRow matchId categoryId >>= reserving matchId categoryId := by
    simp only [SlotCall.execute, reserveSlot, Proc.bind_assoc]
    rfl
  rw [whole, getQuotaRow_bind]

theorem release_reads (matchId categoryId : Uuid) :
    (SlotCall.release matchId categoryId).execute =
      .read fun db => orThrow (db.quotaRow matchId categoryId) quotaNotConfigured >>= fun quota =>
        if quota.consumed ≤ 0 then .done none else .exec (.release quota.id) fun _ => .done none := by
  have whole : (SlotCall.release matchId categoryId).execute =
      getQuotaRow matchId categoryId >>= fun quota =>
        (if quota.consumed ≤ 0 then return else issue (.release quota.id) : Op Unit) >>=
        fun _ => .done none := by
    simp only [SlotCall.execute, releaseSlot, Proc.bind_assoc]
    rfl
  rw [whole, getQuotaRow_bind]
  congr 1
  funext db
  congr 1
  funext quota
  split <;> rfl

theorem waiting_turned (found : pool.store.quotas.find (·.id == q.id) = some row) (same : SameRow q row)
    {call : SlotCall} (stands : pool.procs i = call.execute) :
    Turned q row (call, .waiting) (pool.turn handle i).2 i := by
  cases call with
  | reserve matchId categoryId =>
      rw [reserve_reads] at stands
      rw [Pool.turn_read handle pool stands]
      cases looked : pool.store.quotaRow matchId categoryId with
      | none =>
          refine ⟨_, row, found, same, .past _ ?_, .dismissed _ _⟩
          simp [Proc.Issues]
      | some quota =>
          simp only [Turned, orThrow_some_bind, Function.update_self]
          obtain ⟨⟨rfl, rfl⟩, rfl⟩ | ⟨_, apart⟩ := read_row found same looked
          · refine ⟨_, quota, found, same, ?_, .asks _⟩
            rw [reserving, same.id, same.quotaTotal]
            exact .reserving (reserved_issues _ _)
          · exact ⟨_, row, found, same, .past _ ⟨apart, reserved_issues _ _⟩, .dismissed _ _⟩
  | release matchId categoryId =>
      rw [release_reads] at stands
      rw [Pool.turn_read handle pool stands]
      cases looked : pool.store.quotaRow matchId categoryId with
      | none =>
          refine ⟨_, row, found, same, .past _ ?_, .dismissed _ _⟩
          simp [Proc.Issues]
      | some quota =>
          simp only [Turned, orThrow_some_bind, Function.update_self]
          by_cases empty : quota.consumed ≤ 0
          · rw [if_pos empty]
            exact ⟨_, row, found, same, .past _ trivial, .dismissed _ _⟩
          · rw [if_neg empty]
            obtain ⟨⟨rfl, rfl⟩, rfl⟩ | ⟨_, apart⟩ := read_row found same looked
            · refine ⟨_, quota, found, same, ?_, .arms (by omega)⟩
              rw [same.id]
              exact .releasing
            · exact ⟨_, row, found, same, .past _ ⟨apart, fun _ => trivial⟩, .dismissed _ _⟩

theorem slot_turned (found : pool.store.quotas.find (·.id == q.id) = some row) (same : SameRow q row)
    {at_ : SlotCall × Errand} (stands : Stands q at_ (pool.procs i)) :
    Turned q row at_ (pool.turn handle i).2 i := by
  generalize shape : pool.procs i = p at stands
  cases stands with
  | waiting call => exact waiting_turned found same shape
  | reserving silent => exact reserving_turned found same silent shape
  | releasing => exact releasing_turned found same shape
  | past call spares => exact past_turned found same (shape ▸ spares)

end Turns

/-! ## What every turn keeps -/

section Kept

variable {ι : Type} [DecidableEq ι] {q : MatchCategoryQuota}

/-- The release may still decrement the row. -/
def owes (q : MatchCategoryQuota) : SlotCall × Errand → Bool
  | (.reserve _ _, _) => false
  | (.release matchId categoryId, errand) =>
      decide (Targets q matchId categoryId) && (errand == .waiting || errand == .releasing)

theorem owes_past (call : SlotCall) : owes q (call, .past) = false := by cases call <;> simp [owes]

theorem owes_target {errand : Errand} (open_ : errand = .waiting ∨ errand = .releasing) :
    owes q (.release q.matchId q.categoryId, errand) = true := by
  rcases open_ with rfl | rfl <;> simp [owes, Targets]

theorem SlotTurn.owed {at_ at' : SlotCall × Errand} {consumed consumed' : Int}
    (turn : SlotTurn q at_ consumed at' consumed') (owed : owes q at' = true) : owes q at_ = true := by
  cases turn with
  | stays => exact owed
  | dismissed call => simp [owes_past] at owed
  | asks => exact owed
  | arms => exact owes_target (.inl rfl)
  | refused => exact owed
  | takes => exact owed
  | givesBack => exact owes_target (.inr rfl)

/-- A law on the counter and the stages that every turn keeps holds of every state. -/
theorem slotPool_keeps {K : Int → (ι → SlotCall × Errand) → Prop} (start : Database) (calls : ι → SlotCall)
    (stored : q ∈ start.quotas.rows) (initial : K q.consumed fun i => (calls i, .waiting))
    (keeps : ∀ consumed g i consumed' at', K consumed g → SlotTurn q (g i) consumed at' consumed' →
      K consumed' (Function.update g i at'))
    (schedule : List ι) :
    ∃ row g, ((slotPool start calls).play handle schedule).2.store.quotas.find (·.id == q.id) = some row ∧
      K row.consumed g := by
  have found : start.quotas.find (·.id == q.id) = some q := quotaById_stored stored
  obtain ⟨⟨g, ⟨row, last, _, held⟩, _⟩, _⟩ :=
    Pool.play_placed handle (L := fun _ at_ p => Stands q at_ p) (P := fun _ => True)
      (J := fun s g => ∃ row, s.quotas.find (·.id == q.id) = some row ∧ SameRow q row ∧ K row.consumed g)
      (by
        rintro pool g i ⟨row, found, same, held⟩ placed
        obtain ⟨at', row', found', same', stands, turn⟩ := slot_turned found same (placed i)
        exact ⟨⟨at', ⟨row', found', same', keeps _ _ _ _ _ held turn⟩, stands⟩, fun _ _ => trivial⟩)
      schedule (slotPool start calls) (g := fun i => (calls i, .waiting))
      ⟨q, found, ⟨rfl, rfl, rfl, rfl⟩, initial⟩ fun i => .waiting (calls i)
  exact ⟨row, g, last, held⟩

variable [Fintype ι]

/-- A release that is over owes nothing; who owed nothing before owes nothing now. -/
theorem standing_over (call : SlotCall) {g : ι → SlotCall × Errand} {i : ι} {errand : Errand}
    (here : g i = (call, errand)) :
    standing (owes q) (Function.update g i (call, .past)) + (if owes q (call, errand) then 1 else 0) =
      standing (owes q) g := by
  by_cases owed : owes q (call, errand) = true
  · rw [if_pos owed, standing_left (by rw [here, owed]) (owes_past call)]
  · rw [if_neg owed, standing_kept (by rw [here, owes_past]; simpa using owed), Nat.add_zero]

/-- With a slot taken for each release to come, none of them finds the counter at zero. -/
theorem standing_covered_step {consumed consumed' : Int} {g : ι → SlotCall × Errand} {i : ι}
    {at' : SlotCall × Errand} (covered : (standing (owes q) g : Int) ≤ consumed)
    (turn : SlotTurn q (g i) consumed at' consumed') :
    (standing (owes q) (Function.update g i at') : Int) ≤ consumed' := by
  generalize here : g i = at_ at turn
  cases turn with
  | stays =>
      rw [← here, Function.update_eq_self]
      exact covered
  | dismissed call =>
      have left := standing_over (q := q) call here
      omega
  | asks =>
      rw [standing_kept (by rw [here]; rfl)]
      exact covered
  | arms =>
      rw [standing_kept (by rw [here, owes_target (.inl rfl), owes_target (.inr rfl)])]
      exact covered
  | refused =>
      have left := standing_over (q := q) _ here
      omega
  | takes =>
      have left := standing_over (q := q) _ here
      omega
  | givesBack =>
      have left := standing_over (q := q) _ here
      rw [owes_target (.inr rfl), if_pos rfl] at left
      omega

/-- A release on its own decrements only a counter that it has seen above zero. -/
structure Lone (q : MatchCategoryQuota) (consumed : Int) (g : ι → SlotCall × Errand) : Prop where
  one : ∀ i j, owes q (g i) = true → owes q (g j) = true → i = j
  floor : 0 ≤ consumed
  armed : ∀ i, g i = (.release q.matchId q.categoryId, .releasing) → 0 < consumed

omit [Fintype ι] in
theorem lone_step {consumed consumed' : Int} {g : ι → SlotCall × Errand} {i : ι} {at' : SlotCall × Errand}
    (lone : Lone q consumed g) (turn : SlotTurn q (g i) consumed at' consumed') :
    Lone q consumed' (Function.update g i at') := by
  have before (j : ι) (owed : owes q (Function.update g i at' j) = true) : owes q (g j) = true := by
    by_cases same : j = i
    · subst same
      rw [Function.update_self] at owed
      exact turn.owed owed
    · rwa [Function.update_of_ne same] at owed
  refine ⟨fun j k left right => lone.one j k (before j left) (before k right), ?_, fun j armed => ?_⟩
  · have floor := lone.floor
    have armed := lone.armed i
    generalize g i = at_ at turn armed
    cases turn with
    | takes => omega
    | givesBack =>
        have positive := armed rfl
        omega
    | _ => exact floor
  · by_cases same : j = i
    · subst same
      rw [Function.update_self] at armed
      have already := lone.armed j
      generalize g j = at_ at turn already
      subst armed
      cases turn with
      | stays => exact already rfl
      | arms positive => exact positive
    · rw [Function.update_of_ne same] at armed
      have positive := lone.armed j armed
      -- Were it `i` that decrements, there would be two releases.
      have alone : owes q (g i) = true → False := fun owed =>
        same (lone.one j i (by rw [armed]; exact owes_target (.inr rfl)) owed)
      generalize g i = at_ at turn alone
      cases turn with
      | takes => omega
      | givesBack => exact (alone (owes_target (.inr rfl))).elim
      | _ => exact positive

/-- Where no slot can be taken, none is given back. -/
structure Untouched (q : MatchCategoryQuota) (calls : ι → SlotCall) (consumed : Int)
    (g : ι → SlotCall × Errand) : Prop where
  zero : consumed = 0
  placed : ∀ i, (g i).1 = calls i
  unarmed : ∀ i, g i ≠ (.release q.matchId q.categoryId, .releasing)

omit [Fintype ι] in
theorem untouched_step {calls : ι → SlotCall} {consumed consumed' : Int} {g : ι → SlotCall × Errand}
    {i : ι} {at' : SlotCall × Errand}
    (full : q.quotaTotal = 0 ∨ ∀ i, calls i ≠ .reserve q.matchId q.categoryId)
    (untouched : Untouched q calls consumed g) (turn : SlotTurn q (g i) consumed at' consumed') :
    Untouched q calls consumed' (Function.update g i at') := by
  obtain ⟨rfl, placed, unarmed⟩ := untouched
  have called := placed i
  have calm := unarmed i
  generalize here : g i = at_ at turn called calm
  have kept (call : at'.1 = calls i) (quiet : at' ≠ (.release q.matchId q.categoryId, .releasing)) :
      Untouched q calls 0 (Function.update g i at') := by
    refine ⟨rfl, fun j => ?_, fun j => ?_⟩ <;> by_cases same : j = i
    · subst same
      simpa using call
    · simpa [same] using placed j
    · subst same
      simpa using quiet
    · simpa [same] using unarmed j
  cases turn with
  | stays => exact kept called calm
  | dismissed call => exact kept called (by simp)
  | asks => exact kept called (by simp)
  | arms positive => exact absurd positive (by decide)
  | refused => exact kept called (by simp)
  | takes room =>
      rcases full with none_ | nobody
      · simp [none_] at room
      · exact absurd called.symm (nobody i)
  | givesBack => exact absurd rfl calm

end Kept

/-! ## Schedules that overdraw the counter -/

section Overdrawn

variable {ι : Type} [DecidableEq ι] {q row : MatchCategoryQuota}
  {pool : Pool ι store Database Failure (Option ReservationResult)}

theorem targeted_row {db : Database} (found : db.quotas.find (·.id == q.id) = some row)
    (same : SameRow q row) : db.quotaRow q.matchId q.categoryId = some row := by
  refine (Table.find_some_iff (selects_quotaOf _ _)).mpr ⟨(Table.find_some_mem found).1, ?_⟩
  simp [quotaOf, same.matchId, same.categoryId]

theorem play_armed {schedule : List ι} (distinct : schedule.Nodup)
    (found : pool.store.quotas.find (·.id == q.id) = some row) (same : SameRow q row)
    (armed : ∀ i ∈ schedule, pool.procs i = .exec (.release q.id) fun _ => .done none) :
    ∃ row', (pool.play handle schedule).2.store.quotas.find (·.id == q.id) = some row' ∧
      row'.consumed = row.consumed - schedule.length := by
  induction schedule generalizing pool row with
  | nil => exact ⟨row, found, by simp⟩
  | cons i rest ih =>
      obtain ⟨apart, distinct⟩ := List.nodup_cons.mp distinct
      obtain ⟨replied, after⟩ := row_decremented found same
      have turned := Pool.turn_exec handle pool (armed i (by simp)) replied
      have later :
          ∀ j ∈ rest, (pool.turn handle i).2.procs j = .exec (.release q.id) fun _ => .done none := by
        intro j member
        have other : j ≠ i := fun same => apart (same ▸ member)
        rw [Pool.turn_other handle pool other]
        exact armed j (by simp [member])
      have found' : (pool.turn handle i).2.store.quotas.find (·.id == q.id) = some (giveBack row) := by
        rw [turned]
        exact after
      obtain ⟨row', last, counted⟩ := ih distinct found' same.giveBack later
      refine ⟨row', last, ?_⟩
      rw [counted]
      simp only [giveBack, List.length_cons]
      omega

/-- Releases that all look at a counter above zero all decrement it. -/
theorem play_releases {schedule : List ι} (distinct : schedule.Nodup)
    (found : pool.store.quotas.find (·.id == q.id) = some row) (same : SameRow q row)
    (positive : 0 < row.consumed)
    (waiting : ∀ i ∈ schedule, pool.procs i = (SlotCall.release q.matchId q.categoryId).execute) :
    ∃ row', (pool.play handle (schedule ++ schedule)).2.store.quotas.find (·.id == q.id) = some row' ∧
      row'.consumed = row.consumed - schedule.length := by
  have reading (i : ι) (member : i ∈ schedule) := (waiting i member).trans (release_reads _ _)
  obtain ⟨kept, moved⟩ := Pool.play_reads handle distinct pool reading
  rw [Pool.play_append]
  refine play_armed distinct (by rw [kept]; exact found) same fun i member => ?_
  rw [moved i member, targeted_row found same, orThrow_some_bind, if_neg (by omega), same.id]

theorem play_reserve {i : ι} (found : pool.store.quotas.find (·.id == q.id) = some row)
    (same : SameRow q row) (room : row.consumed < q.quotaTotal)
    (waiting : pool.procs i = (SlotCall.reserve q.matchId q.categoryId).execute) :
    (pool.play handle [i, i]).2.store.quotas.find (·.id == q.id) = some (consume row) := by
  have first := Pool.turn_read handle pool (waiting.trans (reserve_reads _ _))
  have standing : (pool.turn handle i).2.procs i = reserving q.matchId q.categoryId row := by
    rw [first]
    simp [targeted_row found same]
  have second := Pool.turn_exec handle (pool.turn handle i).2 standing (handle_reserve _ _ _)
  have hit : reservable row.id row.quotaTotal row = true := by simp [reservable, same.quotaTotal, room]
  simp only [Pool.play, second]
  rw [first]
  simpa [found, hit] using find_reserve row.id row.quotaTotal pool.store (selects_id_onKey q.id)

end Overdrawn

/-! ## The floor -/

section Floor

variable {ι : Type} [DecidableEq ι] [Fintype ι] {q : MatchCategoryQuota} {start : Database}
  {calls : ι → SlotCall}

/-- How many of the calls are this one. -/
def timesCalled (calls : ι → SlotCall) (call : SlotCall) : Nat :=
  (Finset.univ.filter fun i => calls i = call).card

omit [DecidableEq ι] [Fintype ι] in
theorem owes_start (call : SlotCall) :
    owes q (call, .waiting) = true ↔ call = .release q.matchId q.categoryId := by
  cases call with
  | reserve matchId categoryId => simp [owes]
  | release matchId categoryId =>
      simp only [owes, beq_self_eq_true, Bool.true_or, Bool.and_true, decide_eq_true_eq,
        SlotCall.release.injEq]
      rfl

omit [DecidableEq ι] in
theorem standing_start (calls : ι → SlotCall) :
    standing (owes q) (fun i => (calls i, .waiting)) =
      timesCalled calls (.release q.matchId q.categoryId) := by
  simp only [standing, timesCalled, owes_start]

theorem floor_kept (stored : q ∈ start.quotas.rows)
    (safe : (timesCalled calls (.release q.matchId q.categoryId) : Int) ≤ q.consumed ∨
      q.consumed = 0 ∧ (timesCalled calls (.release q.matchId q.categoryId) ≤ 1 ∨
        timesCalled calls (.reserve q.matchId q.categoryId) = 0 ∨ q.quotaTotal = 0))
    (schedule : List ι) :
    ∃ row, ((slotPool start calls).play handle schedule).2.store.quotas.find (·.id == q.id) = some row ∧
      0 ≤ row.consumed := by
  rcases safe with covered | ⟨zero, few | rest⟩
  · obtain ⟨row, g, found, held⟩ :=
      slotPool_keeps (K := fun consumed g => (standing (owes q) g : Int) ≤ consumed) start calls stored
        (by rw [standing_start]; exact covered) (fun _ _ _ _ _ => standing_covered_step) schedule
    exact ⟨row, found, by omega⟩
  · obtain ⟨row, g, found, held⟩ := slotPool_keeps (K := Lone q) start calls stored
      ⟨fun i j left right => Finset.card_le_one.mp few i (by simpa [owes_start] using left) j
        (by simpa [owes_start] using right), zero.ge, fun _ armed => by simp at armed⟩
      (fun _ _ _ _ _ => lone_step) schedule
    exact ⟨row, found, held.floor⟩
  · have full : q.quotaTotal = 0 ∨ ∀ i, calls i ≠ .reserve q.matchId q.categoryId := by
      rcases rest with nobody | none_
      · refine .inr fun i called => ?_
        simp only [timesCalled, Finset.card_eq_zero, Finset.filter_eq_empty_iff] at nobody
        exact nobody (Finset.mem_univ i) called
      · exact .inl none_
    obtain ⟨row, g, found, held⟩ := slotPool_keeps (K := Untouched q calls) start calls stored
      ⟨zero, fun _ => rfl, fun _ => by simp⟩ (fun _ _ _ _ _ => untouched_step full) schedule
    exact ⟨row, found, held.zero.ge⟩

theorem floor_broken (stored : q ∈ start.quotas.rows) (nonneg : 0 ≤ q.consumed)
    (more : q.consumed < timesCalled calls (.release q.matchId q.categoryId))
    (takes : q.consumed = 0 → 1 < timesCalled calls (.release q.matchId q.categoryId) ∧
      timesCalled calls (.reserve q.matchId q.categoryId) ≠ 0 ∧ q.quotaTotal ≠ 0) :
    ∃ schedule row, ((slotPool start calls).play handle schedule).2.store.quotas.find (·.id == q.id) =
      some row ∧ row.consumed < 0 := by
  have found : start.quotas.find (·.id == q.id) = some q := quotaById_stored stored
  have releases : (Finset.univ.filter fun i => calls i = .release q.matchId q.categoryId).toList.Nodup :=
    Finset.nodup_toList _
  have released (i : ι)
      (member : i ∈ (Finset.univ.filter fun i => calls i = .release q.matchId q.categoryId).toList) :
      calls i = .release q.matchId q.categoryId := by simpa using member
  by_cases zero : q.consumed = 0
  · -- A reservation takes the first slot, and every release sees it taken.
    obtain ⟨several, some_, room⟩ := takes zero
    obtain ⟨i, member⟩ := Finset.card_ne_zero.mp some_
    have reserves : calls i = .reserve q.matchId q.categoryId := by simpa using member
    have waiting : (slotPool start calls).procs i = (SlotCall.reserve q.matchId q.categoryId).execute :=
      congrArg SlotCall.execute reserves
    have taken := play_reserve found ⟨rfl, rfl, rfl, rfl⟩ (by omega) waiting
    obtain ⟨row, last, counted⟩ := play_releases releases taken (SameRow.consume ⟨rfl, rfl, rfl, rfl⟩)
      (by simp [consume, zero]) fun j member' => by
        have other : j ∉ [i, i] := by
          rintro same
          simp only [List.mem_cons, List.not_mem_nil, or_false, or_self] at same
          cases (released j member').symm.trans (same ▸ reserves)
        rw [Pool.play_untouched handle other]
        exact congrArg SlotCall.execute (released j member')
    refine ⟨_, row, by rw [Pool.play_append]; exact last, ?_⟩
    rw [Finset.length_toList] at counted
    simp only [timesCalled, consume] at several counted
    omega
  · have waiting (j : ι)
        (member : j ∈ (Finset.univ.filter fun i => calls i = .release q.matchId q.categoryId).toList) :
        (slotPool start calls).procs j = (SlotCall.release q.matchId q.categoryId).execute :=
      congrArg SlotCall.execute (released j member)
    obtain ⟨row, last, counted⟩ := play_releases releases found ⟨rfl, rfl, rfl, rfl⟩ (by omega) waiting
    refine ⟨_, row, last, ?_⟩
    rw [Finset.length_toList] at counted
    simp only [timesCalled] at more
    omega

/-- The counter of a row stays at zero or above in every interleaving exactly if
as many slots are taken as there are releases, or none is taken and there is one
release at most or no slot to take. -/
theorem counter_floor (start : Database) (calls : ι → SlotCall) (q : MatchCategoryQuota)
    (stored : q ∈ start.quotas.rows) (nonneg : 0 ≤ q.consumed) :
    (∀ schedule row,
      ((slotPool start calls).play handle schedule).2.store.quotas.find (·.id == q.id) = some row →
        0 ≤ row.consumed) ↔
    (timesCalled calls (.release q.matchId q.categoryId) : Int) ≤ q.consumed ∨
      q.consumed = 0 ∧ (timesCalled calls (.release q.matchId q.categoryId) ≤ 1 ∨
        timesCalled calls (.reserve q.matchId q.categoryId) = 0 ∨ q.quotaTotal = 0) := by
  constructor
  · intro floor
    by_contra unsafe_
    push Not at unsafe_
    obtain ⟨more, takes⟩ := unsafe_
    obtain ⟨schedule, row, found, below⟩ := floor_broken stored nonneg more takes
    exact absurd (floor schedule row found) (by omega)
  · intro safe schedule row found
    obtain ⟨row', found', floor⟩ := floor_kept stored safe schedule
    cases found.symm.trans found'
    exact floor

/-- The sample with its one slot taken. -/
def slotTaken : Database := ((reserveSlot "final" "press").run handle (sampleDatabase 1)).2

/-- One release of it takes the counter no further than zero. -/
theorem counter_floor_one :
    (∀ schedule row, ((slotPool slotTaken fun _ : Fin 1 => .release "final" "press").play handle
      schedule).2.store.quotas.find (·.id == "quota") = some row → 0 ≤ row.consumed) ↔
    (timesCalled (fun _ : Fin 1 => SlotCall.release "final" "press") (.release "final" "press") : Int) ≤ 1 ∨
      (1 : Int) = 0 ∧
        (timesCalled (fun _ : Fin 1 => SlotCall.release "final" "press") (.release "final" "press") ≤ 1 ∨
        timesCalled (fun _ : Fin 1 => SlotCall.release "final" "press")
          (.reserve "final" "press") = 0 ∨ 1 = 0) :=
  counter_floor slotTaken (fun _ : Fin 1 => .release "final" "press")
    ⟨"quota", "final", "press", 1, 1, .manualArbitration⟩ (by decide) (by decide)

/-- Two releases both see the slot taken, and both give it back. -/
theorem counter_below_zero :
    ¬ ∀ q ∈ slotTaken.quotas.rows, 0 ≤ q.consumed → ∀ schedule row,
      ((slotPool slotTaken fun _ : Fin 2 => .release q.matchId q.categoryId).play handle
        schedule).2.store.quotas.find (·.id == q.id) = some row → 0 ≤ row.consumed := by
  intro floor
  have above := floor ⟨"quota", "final", "press", 1, 1, .manualArbitration⟩ (by decide) (by decide)
    [0, 1, 0, 1] ⟨"quota", "final", "press", 1, -1, .manualArbitration⟩ (by decide)
  exact absurd above (by decide)

end Floor

end AccreditationBackend
