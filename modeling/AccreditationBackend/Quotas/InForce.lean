import AccreditationBackend.Quotas.Releases
import AccreditationBackend.Quotas.Replacement

/-! Reservations while the total of their quota is edited.

The documented update compares the counter with the stored total; the one in the
code compares it with a total read before. The two part where an edit lowers the
total between the read and the update.
-/

set_option autoImplicit false

namespace AccreditationBackend

open Foundation

inductive QuotaCall where
  | reserve (matchId categoryId : Uuid)
  | setQuota (ambient : Ambient) (matchId : Uuid) (dto : SetQuotaDto)

def QuotaCall.execute : QuotaCall → Op (Option ReservationResult)
  | .reserve matchId categoryId => return some (← reserveSlot matchId categoryId)
  | .setQuota ambient matchId dto => do
      let _ ← AccreditationBackend.setQuota ambient matchId dto
      return none

/-- The `UPDATE ... SET consumed = consumed + 1 WHERE consumed < quota_total` of the documentation. -/
def documentedUpdate (quotaId : Uuid) (quotas : Table MatchCategoryQuota) : Table MatchCategoryQuota :=
  quotas.update (fun r => r.id == quotaId && decide (r.consumed < r.quotaTotal)) consume consume_key

/-- A slot of the row is taken below the stored total only, as the documented update takes it. -/
def InForce (quotaId : Uuid) (e : Event store Database) : Prop :=
  matched quotaId e = true →
    (∃ row, e.before.quotas.find (·.id == quotaId) = some row ∧ row.consumed < row.quotaTotal) ∧
      e.after.quotas = documentedUpdate quotaId e.before.quotas

section Turns

variable (start : Database) (q : MatchCategoryQuota)

/-- The edit of the row that goes through, with the total it sets. -/
def Edits (total : Nat) : QuotaCall → Prop
  | .reserve _ _ => False
  | .setQuota _ matchId dto => Targets q matchId dto.categoryId ∧ dto.quotaTotal = total ∧
      dto.zoneIds.Nodup ∧ (∀ zoneId ∈ dto.zoneIds, zoneId ∈ start.zones.column (·.id)) ∧
      fitsInteger dto.quotaTotal = true

def QuotaCall.reserves : QuotaCall → Bool
  | .reserve matchId categoryId => decide (Targets q matchId categoryId)
  | .setQuota .. => false

/-- Before its read or its transaction, with a total in hand, or past its update. -/
inductive Reach where
  | waiting | holding (limit : Nat) | past

/-- What is left of a call at its stage. -/
inductive Underway : QuotaCall × Reach → Op (Option ReservationResult) → Prop
  | waiting (matchId categoryId : Uuid) :
      Underway (.reserve matchId categoryId, .waiting) (QuotaCall.reserve matchId categoryId).execute
  | editing (ambient : Ambient) (matchId : Uuid) (dto : SetQuotaDto) {p : Op (Option ReservationResult)}
      (single : p.Single)
      (issues : p.Issues fun stmt => stmt = Statement.setQuota ambient.freshId matchId dto) :
      Underway (.setQuota ambient matchId dto, .waiting) p
  | holding (limit : Nat) {next : Nat → Op (Option ReservationResult)}
      (silent : ∀ count, (next count).Issues (Spares q.id)) :
      Underway (.reserve q.matchId q.categoryId, .holding limit) (.exec (.reserve q.id limit) next)
  | past (call : QuotaCall) {p : Op (Option ReservationResult)} (spares : p.Issues (Spares q.id)) :
      Underway (call, .past) p

/-- What one turn of a call does to its stage, to the stored total and to the counter. -/
inductive EditTurn : QuotaCall × Reach → Nat → Int → QuotaCall × Reach → Nat → Int → Prop
  | stays (at_ : QuotaCall × Reach) (total : Nat) (consumed : Int) :
      EditTurn at_ total consumed at_ total consumed
  | dismissed (call : QuotaCall) (total : Nat) (consumed : Int) :
      EditTurn (call, .waiting) total consumed (call, .past) total consumed
  | reads (total : Nat) (consumed : Int) : EditTurn (.reserve q.matchId q.categoryId, .waiting)
      total consumed (.reserve q.matchId q.categoryId, .holding total) total consumed
  | refused (limit total : Nat) (consumed : Int) :
      EditTurn (.reserve q.matchId q.categoryId, .holding limit) total consumed
        (.reserve q.matchId q.categoryId, .past) total consumed
  | takes {limit total : Nat} {consumed : Int} (room : consumed < limit) :
      EditTurn (.reserve q.matchId q.categoryId, .holding limit) total consumed
        (.reserve q.matchId q.categoryId, .past) total (consumed + 1)
  | edits {call : QuotaCall} {total' : Nat} (edits : Edits start q total' call) (total : Nat)
      (consumed : Int) :
      EditTurn (call, .waiting) total consumed (call, .past) total' consumed

/-- The row is the one it was, but for its total, its counter and its policy. -/
def SamePlace (row : MatchCategoryQuota) : Prop := SameRow { q with quotaTotal := row.quotaTotal } row

variable {start q} {row : MatchCategoryQuota} {ι : Type} [DecidableEq ι]
  {pool : Pool ι store Database Failure (Option ReservationResult)} {i : ι}

/-- A turn that takes a slot is a guarded update on a total read before. -/
def Taking (q row : MatchCategoryQuota) (at_ : QuotaCall × Reach) (s : Database)
    (e : Event store Database) : Prop :=
  matched q.id e = true → ∃ limit : Nat, at_ = (.reserve q.matchId q.categoryId, .holding limit) ∧
    row.consumed < limit ∧ e = handle.event (.reserve q.id limit) s

/-- The spec of a turn. -/
structure Edited (start : Database) (q row : MatchCategoryQuota) (at_ : QuotaCall × Reach)
    (s : Database) (i : ι)
    (moved : History ι store Database × Pool ι store Database Failure (Option ReservationResult)) : Prop where
  zones : moved.2.store.zones = start.zones
  turn : ∃ at' row', moved.2.store.quotas.find (·.id == q.id) = some row' ∧ SamePlace q row' ∧
    Underway q at' (moved.2.procs i) ∧
    EditTurn start q at_ row.quotaTotal row.consumed at' row'.quotaTotal row'.consumed
  takes : ∀ e ∈ moved.1, Taking q row at_ s e.2

theorem zones_after (stmt : Statement) (db : Database) : (handle.after stmt db).zones = db.zones :=
  (reference_kept stmt db).zones

theorem matched_spares {stmt : Statement} (spares : Spares q.id stmt) (s : Database) :
    matched q.id (handle.event stmt s) = false := by
  cases stmt <;> simp only [matched, Handler.event_stmt]
  case reserve id limit =>
    have apart : id ≠ q.id := spares
    simp [apart]

theorem past_edited (zones : pool.store.zones = start.zones)
    (found : pool.store.quotas.find (·.id == q.id) = some row)
    (same : SamePlace q row) {call : QuotaCall} (spares : (pool.procs i).Issues (Spares q.id)) :
    Edited start q row (call, .past) pool.store i (pool.turn handle i) := by
  obtain turned | ⟨next, shape, turned⟩ | ⟨stmt, next, reply, t, shape, replied, turned⟩ |
    ⟨stmt, next, why, shape, _, turned⟩ := pool.turn_cases handle i <;> rw [turned]
  · exact ⟨zones, ⟨_, row, found, same, .past call spares, .stays _ _ _⟩, by simp⟩
  · rw [shape] at spares
    exact ⟨zones, ⟨_, row, found, same, .past call (by simpa using spares pool.store), .stays _ _ _⟩,
      by simp⟩
  · rw [shape] at spares
    have kept := row_spared spares.1 found
    have unmoved := zones_after stmt pool.store
    rw [handle.after_ok replied] at kept unmoved
    refine ⟨unmoved.trans zones,
      ⟨_, row, kept, same, .past call (by simpa using spares.2 reply), .stays _ _ _⟩, ?_⟩
    simp [Taking, matched_spares spares.1]
  · rw [shape] at spares
    refine ⟨zones, ⟨_, row, found, same, .past call (by simp [Proc.Issues]), .stays _ _ _⟩, ?_⟩
    simp [Taking, matched_spares spares.1]

theorem holding_quota_edited (zones : pool.store.zones = start.zones)
    (found : pool.store.quotas.find (·.id == q.id) = some row) (same : SamePlace q row) {limit : Nat}
    {next : Nat → Op (Option ReservationResult)} (silent : ∀ count, (next count).Issues (Spares q.id))
    (stands : pool.procs i = .exec (.reserve q.id limit) next) :
    Edited start q row (.reserve q.matchId q.categoryId, .holding limit) pool.store i
      (pool.turn handle i) := by
  have after := find_reserve q.id limit pool.store (selects_id_onKey q.id)
  have named : row.id = q.id := same.id
  have hit : reservable q.id limit row = decide (row.consumed < limit) := by simp [reservable, named]
  have counted :
      matched q.id (handle.event (.reserve q.id limit) pool.store) = true → row.consumed < limit := by
    intro matches_
    by_contra full
    simp [matched, count_reservable found, full] at matches_
  simp only [found, Option.map_some, hit, decide_eq_true_eq] at after
  rw [Pool.turn_exec handle pool stands (handle_reserve _ _ _)]
  refine ⟨(zones_after _ _).trans zones, ?_, ?_⟩
  · by_cases room : row.consumed < limit
    · rw [if_pos room] at after
      have same' : SamePlace q (consume row) := ⟨same.id, same.matchId, same.categoryId, rfl⟩
      exact ⟨_, consume row, after, same', .past _ (by simpa using silent _), .takes room⟩
    · rw [if_neg room] at after
      exact ⟨_, row, after, same, .past _ (by simpa using silent _), .refused _ _ _⟩
  · simp only [List.mem_singleton, forall_eq]
    exact fun matches_ => ⟨limit, rfl, counted matches_, rfl⟩

theorem waiting_edited (zones : pool.store.zones = start.zones)
    (found : pool.store.quotas.find (·.id == q.id) = some row) (same : SamePlace q row)
    {matchId categoryId : Uuid} (stands : pool.procs i = (QuotaCall.reserve matchId categoryId).execute) :
    Edited start q row (.reserve matchId categoryId, .waiting) pool.store i (pool.turn handle i) := by
  rw [Pool.turn_read handle pool (stands.trans (reserve_reads matchId categoryId))]
  refine ⟨zones, ?_, by simp⟩
  cases looked : pool.store.quotaRow matchId categoryId with
  | none => exact ⟨_, row, found, same, .past _ (by simp [Proc.Issues]), .dismissed _ _ _⟩
  | some quota =>
      simp only [orThrow_some_bind, Function.update_self]
      obtain ⟨⟨rfl, rfl⟩, rfl⟩ | ⟨_, apart⟩ :=
        read_row (q := { q with quotaTotal := row.quotaTotal }) found same looked
      · have named : quota.id = q.id := same.id
        refine ⟨_, quota, found, same, ?_, .reads _ _⟩
        rw [reserving, named]
        exact .holding _ (reserved_issues _ _)
      · exact ⟨_, row, found, same, .past _ ⟨apart, reserved_issues _ _⟩, .dismissed _ _ _⟩

theorem transaction_row {freshId matchId : Uuid} {dto : SetQuotaDto} {reply : MatchCategoryQuota}
    {s t : Database} (zones : s.zones = start.zones)
    (found : s.quotas.find (·.id == q.id) = some row) (same : SamePlace q row)
    (replied : handle (.setQuota freshId matchId dto) s = .ok (reply, t)) :
    ∃ row', t.quotas.find (·.id == q.id) = some row' ∧ SamePlace q row' ∧ row'.consumed = row.consumed ∧
      (row'.quotaTotal = row.quotaTotal ∨
        ∀ ambient, Edits start q row'.quotaTotal (.setQuota ambient matchId dto)) := by
  have step := quota_step (selects_quotaId q.id) (selects_id_onKey q.id) (.setQuota freshId matchId dto) s
  rw [handle.after_ok replied, found] at step
  have applied := handle_ok replied
  simp only [Tables.apply, bind_ok, require_ok, orFail_ok, pure_ok, Prod.exists] at applied
  obtain ⟨_, _, _, _, known, _, inserted, _⟩ := applied
  have distinct : dto.zoneIds.Nodup := by
    have apart := (Table.insertAll_accepted.mp ⟨_, inserted⟩).2
    refine (List.pairwise_map.mp apart).imp fun different same => different ?_
    rw [same]
    rfl
  generalize t.quotas.find (·.id == q.id) = last at step
  cases step with
  | edited pair =>
      simp only [quotaOf, Bool.and_eq_true, beq_iff_eq] at pair
      refine ⟨_, rfl, ⟨same.id, same.matchId, same.categoryId, rfl⟩, rfl, .inr fun _ => ?_⟩
      exact ⟨⟨pair.1.symm.trans same.matchId, pair.2.symm.trans same.categoryId⟩, rfl, distinct,
        zones ▸ known, setQuota_fits freshId matchId dto ▸ handle_fits replied⟩
  | unchanged => exact ⟨row, rfl, same, rfl, .inl rfl⟩

theorem editing_edited (zones : pool.store.zones = start.zones)
    (found : pool.store.quotas.find (·.id == q.id) = some row) (same : SamePlace q row) {ambient : Ambient}
    {matchId : Uuid} {dto : SetQuotaDto} (single : (pool.procs i).Single)
    (issues : (pool.procs i).Issues fun stmt => stmt = Statement.setQuota ambient.freshId matchId dto) :
    Edited start q row (.setQuota ambient matchId dto, .waiting) pool.store i (pool.turn handle i) := by
  obtain turned | ⟨next, shape, turned⟩ | ⟨stmt, next, reply, t, shape, replied, turned⟩ |
    ⟨stmt, next, why, shape, _, turned⟩ := pool.turn_cases handle i <;> rw [turned]
  · exact ⟨zones, ⟨_, row, found, same, .editing _ _ _ single issues, .stays _ _ _⟩, by simp⟩
  · rw [shape] at single issues
    refine ⟨zones, ⟨_, row, found, same, .editing _ _ _ ?_ ?_, .stays _ _ _⟩, by simp⟩
    · simpa using single pool.store
    · simpa using issues pool.store
  · rw [shape] at single issues
    obtain ⟨rfl, _⟩ := issues
    have unmoved := zones_after (.setQuota ambient.freshId matchId dto) pool.store
    rw [handle.after_ok replied] at unmoved
    obtain ⟨row', last, same', counted, edits⟩ := transaction_row zones found same replied
    refine ⟨unmoved.trans zones, ⟨(.setQuota ambient matchId dto, .past), row', last, same', .past _ ?_, ?_⟩,
      by simp [Taking, matched]⟩
    · simpa using Proc.issues_mono _ (single reply) fun _ impossible => impossible.elim
    · rw [counted]
      rcases edits with kept | edits
      · rw [kept]
        exact .dismissed _ _ _
      · exact .edits (edits ambient) _ _
  · rw [shape] at issues
    obtain ⟨rfl, _⟩ := issues
    exact ⟨zones, ⟨_, row, found, same, .past _ (by simp [Proc.Issues]), .dismissed _ _ _⟩,
      by simp [Taking, matched]⟩

theorem edit_turned (zones : pool.store.zones = start.zones)
    (found : pool.store.quotas.find (·.id == q.id) = some row) (same : SamePlace q row)
    {at_ : QuotaCall × Reach} (stands : Underway q at_ (pool.procs i)) :
    Edited start q row at_ pool.store i (pool.turn handle i) := by
  generalize shape : pool.procs i = p at stands
  cases stands with
  | waiting matchId categoryId => exact waiting_edited zones found same shape
  | editing ambient matchId dto single issues =>
      exact editing_edited zones found same (shape ▸ single) (shape ▸ issues)
  | holding limit silent => exact holding_quota_edited zones found same silent shape
  | past call spares => exact past_edited zones found same (shape ▸ spares)

end Turns

/-! ## Totals that cannot undercut each other -/

section Reckoning

variable {ι : Type} [DecidableEq ι] [Fintype ι] (start : Database) (q : MatchCategoryQuota)
  (calls : ι → QuotaCall)

/-- The row stands at the total at the start, or some edit sets it. -/
def Offered (total : Nat) : Prop := total = q.quotaTotal ∨ ∃ i, Edits start q total (calls i)

def reservations : Nat := (Finset.univ.filter fun i => (calls i).reserves q = true).card

/-- An edit sets a total below another one that a reservation can have read, and
the counter can come to stand between the two. -/
def Undercut : Prop :=
  ∃ low high, (∃ i, Edits start q low (calls i)) ∧ Offered start q calls high ∧ low < high ∧
    q.consumed < high ∧ 0 < reservations q calls ∧ (low : Int) < q.consumed + reservations q calls

def mayTake : QuotaCall × Reach → Bool
  | (_, .past) => false
  | (call, _) => call.reserves q

/-- What the totals in hand and the counter can have come to. -/
structure Reckoned (total : Nat) (consumed : Int) (g : ι → QuotaCall × Reach) : Prop where
  placed : ∀ i, (g i).1 = calls i
  floor : q.consumed ≤ consumed
  ceiling : consumed + standing (mayTake q) g ≤ q.consumed + reservations q calls
  held : ∀ i limit, (g i).2 = .holding limit → Offered start q calls limit
  stored : (total = q.quotaTotal ∧ ∀ i limit, (g i).2 = .holding limit → limit = total) ∨
    ∃ i, Edits start q total (calls i)

variable {start q calls} {total total' : Nat} {consumed consumed' : Int} {g : ι → QuotaCall × Reach}
  {i : ι}
  {at' : QuotaCall × Reach}

omit [Fintype ι] in
theorem EditTurn.placed {at_ : QuotaCall × Reach}
    (turn : EditTurn start q at_ total consumed at' total' consumed') : at'.1 = at_.1 := by
  cases turn <;> rfl

omit [Fintype ι] in
/-- A total comes into a call's hand from the row alone. -/
theorem EditTurn.held {at_ : QuotaCall × Reach} {limit : Nat}
    (turn : EditTurn start q at_ total consumed at' total' consumed') (holds : at'.2 = .holding limit) :
    at_.2 = .holding limit ∨ limit = total ∧ total' = total := by
  cases turn with
  | stays => exact .inl holds
  | reads =>
      cases holds
      exact .inr ⟨rfl, rfl⟩
  | dismissed | refused | takes | edits => cases holds

omit [Fintype ι] in
theorem EditTurn.sets {at_ : QuotaCall × Reach}
    (turn : EditTurn start q at_ total consumed at' total' consumed') :
    total' = total ∨ Edits start q total' at_.1 := by
  cases turn with
  | edits edits => exact .inr edits
  | _ => exact .inl rfl

omit [Fintype ι] in
theorem EditTurn.floor {at_ : QuotaCall × Reach}
    (turn : EditTurn start q at_ total consumed at' total' consumed') : consumed ≤ consumed' := by
  cases turn with
  | takes => omega
  | _ => exact le_rfl

theorem reserves_target : (QuotaCall.reserve q.matchId q.categoryId).reserves q = true := by
  simp [QuotaCall.reserves, Targets]

/-- A slot is taken by a call that takes no further one. -/
theorem EditTurn.ceiling (turn : EditTurn start q (g i) total consumed at' total' consumed') :
    consumed' + standing (mayTake q) (Function.update g i at') ≤ consumed + standing (mayTake q) g := by
  generalize here : g i = at_ at turn
  have past (call : QuotaCall) : (standing (mayTake q) (Function.update g i (call, .past)) : Int) ≤
      standing (mayTake q) g := Int.ofNat_le.mpr (standing_le rfl)
  cases turn with
  | stays => rw [← here, Function.update_eq_self]
  | dismissed call => exact Int.add_le_add_left (past call) _
  | reads => rw [standing_kept (by rw [here]; rfl)]
  | refused => exact Int.add_le_add_left (past _) _
  | takes =>
      have left : standing (mayTake q)
        (Function.update g i (QuotaCall.reserve q.matchId q.categoryId, Reach.past)) +
          1 = standing (mayTake q) g := standing_left (by rw [here]; exact reserves_target) rfl
      omega
  | edits => exact Int.add_le_add_left (past _) _

theorem reckoned_step (reckoned : Reckoned start q calls total consumed g)
    (turn : EditTurn start q (g i) total consumed at' total' consumed') :
    Reckoned start q calls total' consumed' (Function.update g i at') := by
  have offered : Offered start q calls total := reckoned.stored.imp And.left id
  have placed := reckoned.placed i
  -- Whoever has a total in hand had it before, or has just read the stored one.
  have before (j : ι) (limit : Nat) (holds : (Function.update g i at' j).2 = .holding limit) :
      (g j).2 = .holding limit ∨ limit = total ∧ total' = total := by
    by_cases same : j = i
    · subst same
      rw [Function.update_self] at holds
      exact turn.held holds
    · rw [Function.update_of_ne same] at holds
      exact .inl holds
  refine ⟨fun j => ?_, ?_, ?_, fun j limit holds => ?_, ?_⟩
  · by_cases same : j = i
    · subst same
      rw [Function.update_self, turn.placed, placed]
    · rw [Function.update_of_ne same, reckoned.placed j]
  · exact le_trans reckoned.floor turn.floor
  · exact le_trans turn.ceiling reckoned.ceiling
  · rcases before j limit holds with held | ⟨rfl, _⟩
    · exact reckoned.held j limit held
    · exact offered
  · rcases turn.sets with rfl | edits
    · refine reckoned.stored.imp_left fun ⟨first, all⟩ => ⟨first, fun j limit holds => ?_⟩
      rcases before j limit holds with held | ⟨same, _⟩
      · exact all j limit held
      · exact same
    · exact .inr ⟨i, placed ▸ edits⟩

omit [DecidableEq ι] in
/-- A slot taken below a total that was read is below the stored one. -/
theorem Reckoned.below (reckoned : Reckoned start q calls total consumed g)
    (apart : ¬ Undercut start q calls) {limit : Nat}
    (here : g i = (.reserve q.matchId q.categoryId, .holding limit)) (room : consumed < limit) :
    consumed < total := by
  by_contra full
  have held : (g i).2 = .holding limit := by rw [here]
  have inside : mayTake q (g i) = true := by
    rw [here]
    exact reserves_target
  have some_ : 0 < standing (mayTake q) g := Finset.card_pos.mpr ⟨i, by simpa using inside⟩
  have floor := reckoned.floor
  have ceiling := reckoned.ceiling
  rcases reckoned.stored with ⟨_, all⟩ | ⟨j, edits⟩
  · have same := all i limit held
    omega
  · exact apart
      ⟨total, limit, ⟨j, edits⟩, reckoned.held i limit held, by omega, by omega, by omega, by omega⟩

omit [DecidableEq ι] [Fintype ι] in
theorem documented_taking {s : Database} {row : MatchCategoryQuota} {limit : Nat}
    (found : s.quotas.find (·.id == q.id) = some row) (room : row.consumed < limit)
    (inForce : row.consumed < row.quotaTotal) :
    (handle.after (.reserve q.id limit) s).quotas = documentedUpdate q.id s.quotas := by
  have after : (handle.after (.reserve q.id limit) s).toTables = _ := after_applied rfl rfl
  rw [after]
  refine Table.update_congr _ _ _ _ fun r stored => ?_
  by_cases named : r.id = q.id
  · have one : s.quotas.find (·.id == q.id) = some r :=
      (Table.find_some_iff (selects_quotaId q.id)).mpr ⟨stored, by simp [named]⟩
    cases found.symm.trans one
    simp [reservable, room, inForce]
  · simp [reservable, beq_eq_false_iff_ne.mpr named]

def quotaPool (start : Database) (calls : ι → QuotaCall) :
    Pool ι store Database Failure (Option ReservationResult) :=
  ⟨start, fun i => (calls i).execute⟩

omit [DecidableEq ι] [Fintype ι] in
theorem underway_start (call : QuotaCall) : Underway q (call, .waiting) call.execute := by
  cases call with
  | reserve matchId categoryId => exact .waiting matchId categoryId
  | setQuota ambient matchId dto =>
      exact .editing ambient matchId dto
        (Proc.single_bind (edit_single ambient matchId dto) fun _ => trivial)
        (Proc.issues_bind _ _ _ (edit_issues rfl) fun _ => trivial)

theorem reservations_in_force (stored : q ∈ start.quotas.rows) (apart : ¬ Undercut start q calls)
    (schedule : List ι) :
    ∀ e ∈ ((quotaPool start calls).play handle schedule).1, InForce q.id e.2 := by
  have found : start.quotas.find (·.id == q.id) = some q := quotaById_stored stored
  have first : Reckoned start q calls q.quotaTotal q.consumed (fun i => (calls i, .waiting)) :=
    { placed := fun _ => rfl
      floor := le_rfl
      ceiling := le_rfl
      held := fun _ _ holds => by cases holds
      stored := .inl ⟨rfl, fun _ _ holds => by cases holds⟩ }
  refine (Pool.play_placed handle (L := fun _ at_ p => Underway q at_ p)
    (J := fun s g => s.zones = start.zones ∧ ∃ row, s.quotas.find (·.id == q.id) = some row ∧
      SamePlace q row ∧ Reckoned start q calls row.quotaTotal row.consumed g)
    ?_ schedule (quotaPool start calls) (g := fun i => (calls i, .waiting))
    ⟨rfl, q, found, ⟨rfl, rfl, rfl, rfl⟩, first⟩ fun i => underway_start (calls i)).2
  rintro pool g i ⟨zones, row, found, same, reckoned⟩ placed
  obtain ⟨unmoved, ⟨at', row', last, same', stands, turn⟩, takes⟩ :=
    edit_turned zones found same (placed i)
  refine ⟨⟨at', ⟨unmoved, row', last, same', reckoned_step reckoned turn⟩, stands⟩, fun e member matches_ => ?_⟩
  obtain ⟨limit, here, room, event⟩ := takes e member matches_
  have inForce := reckoned.below apart here room
  rw [event]
  exact ⟨⟨row, found, inForce⟩, documented_taking found room inForce⟩

end Reckoning

/-! ## Schedules that undercut a reservation -/

section Undercutting

variable {ι : Type} [DecidableEq ι] {start : Database} {q row : MatchCategoryQuota}
  {pool : Pool ι store Database Failure (Option ReservationResult)} {i : ι}

/-- A reservation that has read the total `limit`. -/
def holds (q : MatchCategoryQuota) (limit : Nat) : Op (Option ReservationResult) :=
  .exec (.reserve q.id limit) (reserved q.matchId q.categoryId)

theorem play_edit {call : QuotaCall} {total : Nat} (edits : Edits start q total call)
    (waiting : pool.procs i = call.execute) (zones : pool.store.zones = start.zones)
    (found : pool.store.quotas.find (·.id == q.id) = some row) (same : SamePlace q row) :
    ∃ turns row', (pool.play handle (List.replicate turns i)).2.store.zones = start.zones ∧
      (pool.play handle (List.replicate turns i)).2.store.quotas.find (·.id == q.id) = some row' ∧
      SamePlace q row' ∧ row'.quotaTotal = total ∧ row'.consumed = row.consumed := by
  cases call with
  | reserve matchId categoryId => exact edits.elim
  | setQuota ambient matchId dto =>
      obtain ⟨⟨rfl, category⟩, rfl, distinct, known, fits⟩ := edits
      have writable := (setQuota_fits ambient.freshId q.matchId dto).trans fits
      obtain ⟨turns, ran⟩ := Pool.play_alone handle pool i
      have pair : pool.store.quotaRow q.matchId dto.categoryId = some row :=
        category ▸ targeted_row (q := { q with quotaTotal := row.quotaTotal }) found same
      -- The match and the category exist, since the row refers to them.
      have member := (Table.find_some_mem found).1
      have referenced : Referenced pool.store.toTables q.matchId dto := by
        refine ⟨?_, ?_, zones ▸ known⟩
        · exact same.matchId ▸ pool.store.referential.quota_match (List.mem_map_of_mem member)
        · rw [category]
          exact same.categoryId ▸ pool.store.referential.quota_category (List.mem_map_of_mem member)
      have issued : Unissued pool.store ambient q.matchId dto :=
        fun missing => by cases pair.symm.trans missing
      obtain ⟨q', t, applied, replaced, _⟩ := setQuota_applied referenced issued distinct
      have ranOn : ((QuotaCall.setQuota ambient q.matchId dto).execute.run handle pool.store).2 =
          handle.after (.setQuota ambient.freshId q.matchId dto) pool.store := by
        obtain ⟨_, same⟩ | ⟨missing, _⟩ := setQuota_run pool.store ambient q.matchId dto
        · simp only [QuotaCall.execute, Proc.run_bind, same, issue, Proc.command, Proc.run,
            handle_replies writable applied, Proc.pure_eq]
        · exact absurd referenced missing
      have tables : (handle.after (.setQuota ambient.freshId q.matchId dto) pool.store).toTables = t :=
        after_applied writable applied
      rw [waiting, ranOn] at ran
      obtain ⟨inside, selected⟩ := Table.find_some_mem replaced.row
      simp only [quotaOf, Bool.and_eq_true, beq_iff_eq] at selected
      have named : q'.id = q.id := (replaced.id row pair).trans same.id
      refine ⟨turns, q', ?_, ?_, ⟨named, selected.1, selected.2.trans category, rfl⟩, replaced.quotaTotal, ?_⟩
      · rw [ran]
        exact (zones_after _ _).trans zones
      · rw [ran, tables]
        exact (Table.find_some_iff (selects_quotaId q.id)).mpr ⟨inside, by simp [named]⟩
      · rw [replaced.consumed, pair]
        rfl

/-- Reservations that read one after another all read the same total. -/
theorem play_holds {schedule : List ι} (distinct : schedule.Nodup)
    (found : pool.store.quotas.find (·.id == q.id) = some row) (same : SamePlace q row)
    (waiting : ∀ i ∈ schedule, pool.procs i = (QuotaCall.reserve q.matchId q.categoryId).execute) :
    (pool.play handle schedule).2.store = pool.store ∧
      ∀ i ∈ schedule, (pool.play handle schedule).2.procs i = holds q row.quotaTotal := by
  obtain ⟨kept, moved⟩ := Pool.play_reads handle distinct pool fun i member =>
    (waiting i member).trans (reserve_reads q.matchId q.categoryId)
  refine ⟨kept, fun i member => ?_⟩
  have looked := targeted_row (q := { q with quotaTotal := row.quotaTotal }) found same
  have named : row.id = q.id := same.id
  rw [moved i member, looked, orThrow_some_bind, reserving, named, holds]

/-- As many of them take a slot as there is room below that total. -/
theorem play_takes {schedule : List ι} {limit : Nat} (distinct : schedule.Nodup)
    (zones : pool.store.zones = start.zones)
    (found : pool.store.quotas.find (·.id == q.id) = some row) (same : SamePlace q row)
    (holding : ∀ i ∈ schedule, pool.procs i = holds q limit)
    (room : row.consumed + schedule.length ≤ limit) :
    ∃ row', (pool.play handle schedule).2.store.zones = start.zones ∧
      (pool.play handle schedule).2.store.quotas.find (·.id == q.id) = some row' ∧
      SamePlace q row' ∧ row'.consumed = row.consumed + schedule.length := by
  induction schedule generalizing pool row with
  | nil => exact ⟨row, zones, found, same, by simp⟩
  | cons i rest ih =>
      obtain ⟨apart, distinct⟩ := List.nodup_cons.mp distinct
      rw [List.length_cons] at room
      have turned := Pool.turn_exec handle pool (holding i (by simp)) (handle_reserve _ _ _)
      have named : row.id = q.id := same.id
      have hit : reservable q.id limit row = true := by simp [reservable, named]; omega
      have found' : (pool.turn handle i).2.store.quotas.find (·.id == q.id) = some (consume row) := by
        rw [turned]
        simpa [found, hit] using find_reserve q.id limit pool.store (selects_id_onKey q.id)
      have zones' : (pool.turn handle i).2.store.zones = start.zones := by
        rw [turned]
        exact (zones_after _ _).trans zones
      have later : ∀ j ∈ rest, (pool.turn handle i).2.procs j = holds q limit := by
        intro j member
        have other : j ≠ i := fun same => apart (same ▸ member)
        rw [Pool.turn_other handle pool other]
        exact holding j (by simp [member])
      have same' : SamePlace q (consume row) := ⟨same.id, same.matchId, same.categoryId, rfl⟩
      obtain ⟨row', zones'', last, same'', counted⟩ := ih distinct zones' found' same' later
        (by simp only [consume]; omega)
      refine ⟨row', zones'', last, same'', ?_⟩
      rw [counted, List.length_cons]
      simp only [consume]
      omega

/-- A slot taken at or above the stored total. -/
theorem turn_undercuts (i : ι) (limit : Nat) (found : pool.store.quotas.find (·.id == q.id) = some row)
    (holding : pool.procs i = holds q limit) (room : row.consumed < limit)
    (full : (row.quotaTotal : Int) ≤ row.consumed) :
    ∃ e ∈ (pool.turn handle i).1, ¬ InForce q.id e.2 := by
  rw [Pool.turn_exec handle pool holding (handle_reserve _ _ _)]
  refine ⟨_, List.mem_singleton_self _, fun inForce => ?_⟩
  obtain ⟨⟨other, same, below⟩, _⟩ := inForce (by simp [matched, count_reservable found, room])
  cases found.symm.trans same
  omega

/-- The pool has come to a row with this total and this counter. -/
def ComesTo (start : Database) (q : MatchCategoryQuota) (total : Nat) (consumed : Int)
    (s : Database) : Prop :=
  s.zones = start.zones ∧ ∃ row, s.quotas.find (·.id == q.id) = some row ∧ SamePlace q row ∧
    row.quotaTotal = total ∧ row.consumed = consumed

variable {calls : ι → QuotaCall}

/-- Some schedule without a reservation or the edit `j` brings the row to the higher total. -/
theorem play_offered (stored : q ∈ start.quotas.rows) {high low : Nat}
    (offered : Offered start q calls high) (apart : low < high) {j : ι}
    (edits : Edits start q low (calls j)) :
    ∃ schedule, ComesTo start q high q.consumed ((quotaPool start calls).play handle schedule).2.store ∧
      j ∉ schedule ∧ ∀ i ∈ schedule, (calls i).reserves q = false := by
  have found : start.quotas.find (·.id == q.id) = some q := quotaById_stored stored
  rcases offered with rfl | ⟨i, sets⟩
  · exact ⟨[], ⟨rfl, q, found, ⟨rfl, rfl, rfl, rfl⟩, rfl, rfl⟩, by simp, by simp⟩
  · have waiting : (quotaPool start calls).procs i = (calls i).execute := rfl
    obtain ⟨turns, row, zones, last, same, total, counted⟩ :=
      play_edit sets waiting rfl found ⟨rfl, rfl, rfl, rfl⟩
    refine ⟨List.replicate turns i, ⟨zones, row, last, same, total, counted⟩, fun member => ?_,
      fun k member => ?_⟩
    · -- One edit sets one total.
      obtain rfl := List.eq_of_mem_replicate member
      cases called : calls j with
      | reserve => simp [called, Edits] at edits
      | setQuota =>
          rw [called] at edits sets
          exact absurd (edits.2.1.symm.trans sets.2.1) (Nat.ne_of_lt apart)
    · obtain rfl := List.eq_of_mem_replicate member
      cases called : calls k with
      | reserve => simp [called, Edits] at sets
      | setQuota => rfl

variable [Fintype ι]

omit [DecidableEq ι] in
theorem reserves_callers (calls : ι → QuotaCall) :
    ∃ callers : List ι, callers.Nodup ∧ callers.length = reservations q calls ∧
      ∀ i ∈ callers, calls i = .reserve q.matchId q.categoryId := by
  refine ⟨(Finset.univ.filter fun i => (calls i).reserves q = true).toList, Finset.nodup_toList _,
    Finset.length_toList _, fun i member => ?_⟩
  simp only [Finset.mem_toList, Finset.mem_filter, Finset.mem_univ, true_and] at member
  cases called : calls i with
  | setQuota => simp [called, QuotaCall.reserves] at member
  | reserve matchId categoryId =>
      simp only [called, QuotaCall.reserves, decide_eq_true_eq] at member
      obtain ⟨rfl, rfl⟩ := member
      rfl

theorem undercut_play (stored : q ∈ start.quotas.rows) (undercut : Undercut start q calls) :
    ∃ schedule, ∃ e ∈ ((quotaPool start calls).play handle schedule).1, ¬ InForce q.id e.2 := by
  obtain ⟨low, high, ⟨j, edits⟩, offered, apart, below, some_, reach⟩ := undercut
  obtain ⟨first, ⟨zones, row, found, same, total, counted⟩, unedited, unread⟩ :=
    play_offered stored offered apart edits
  obtain ⟨callers, distinct, length, called⟩ := reserves_callers (q := q) calls
  have edit : j ∉ callers := fun member => by
    rw [called j member] at edits
    exact edits
  -- Every reservation reads the higher total.
  obtain ⟨kept, holding⟩ := play_holds distinct found same fun i member => by
    rw [Pool.play_untouched handle fun inside => ?_]
    · exact congrArg QuotaCall.execute (called i member)
    · cases (unread i inside).symm.trans ((called i member).symm ▸ reserves_target)
  -- The first of them bring the counter up to the lower total.
  have short : (low - q.consumed).toNat < callers.length := by omega
  obtain ⟨row', zones', found', same', counted'⟩ := play_takes
    (distinct.sublist (List.take_sublist (low - q.consumed).toNat callers)) (kept ▸ zones)
    (kept ▸ found) same
    (fun i member => holding i (List.mem_of_mem_take member)) (by rw [List.length_take]; omega)
  -- Then the edit, and one reservation more.
  obtain ⟨turns, row'', _, found'', _, total'', counted''⟩ := play_edit edits (by
    rw [Pool.play_untouched handle fun inside => edit (List.mem_of_mem_take inside),
      Pool.play_untouched handle edit, Pool.play_untouched handle unedited]
    rfl) zones' found' same'
  refine Pool.play_later (P := fun e => ¬ InForce q.id e) handle first ?_
  refine Pool.play_later (P := fun e => ¬ InForce q.id e) handle callers ?_
  refine Pool.play_later (P := fun e => ¬ InForce q.id e) handle
    (callers.take (low - q.consumed).toNat) ?_
  refine Pool.play_later (P := fun e => ¬ InForce q.id e) handle (List.replicate turns j) ?_
  have last : callers[(low - q.consumed).toNat] ∈ callers := List.getElem_mem short
  obtain ⟨e, member, broken⟩ := turn_undercuts callers[(low - q.consumed).toNat] high found'' (by
    rw [Pool.play_untouched handle fun inside => ?_, Pool.play_untouched handle fun inside => ?_]
    · rw [holding _ last, total]
    · obtain ⟨k, earlier, same⟩ := List.mem_take_iff_getElem.mp inside
      have one := distinct.getElem_inj_iff.mp same
      omega
    · exact edit (List.eq_of_mem_replicate inside ▸ last))
        (by rw [counted'', counted', List.length_take]; omega) (by
    rw [counted'', counted', List.length_take]; omega)
  exact ⟨[callers[(low - q.consumed).toNat]], e, by simpa [Pool.play] using member, broken⟩

/-- Reservations respect the total in force in every interleaving with edits
exactly if no edit can undercut a total that one of them has read. -/
theorem quota_in_force (start : Database) (calls : ι → QuotaCall) (q : MatchCategoryQuota)
    (stored : q ∈ start.quotas.rows) :
    (∀ schedule, ∀ e ∈ ((quotaPool start calls).play handle schedule).1, InForce q.id e.2) ↔
      ¬ Undercut start q calls := by
  constructor
  · intro inForce undercut
    obtain ⟨schedule, e, member, broken⟩ := undercut_play stored undercut
    exact broken (inForce schedule e member)
  · exact fun apart schedule => reservations_in_force stored apart schedule

/-- One reservation of the sample, and one edit of its quota. -/
def editedWhileReserving (quotaTotal : Nat) : Bool → QuotaCall
  | false => .reserve "final" "press"
  | true => .setQuota {} "final" ⟨"press", quotaTotal, none, ["stand"]⟩

/-- The reservation reads a total of 1, the edit sets 0, and the slot is taken all the same. -/
theorem slot_taken_beyond_total :
    ¬ ∀ q ∈ (sampleDatabase 1).quotas.rows, ∀ schedule,
      ∀ e ∈ ((quotaPool (sampleDatabase 1) (editedWhileReserving 0)).play handle schedule).1,
        InForce q.id e.2 := by
  intro inForce
  have stored : (⟨"quota", "final", "press", 1, 0, .manualArbitration⟩ : MatchCategoryQuota) ∈
      (sampleDatabase 1).quotas.rows := by simp [sampleDatabase]
  have edits : Edits (sampleDatabase 1) ⟨"quota", "final", "press", 1, 0, .manualArbitration⟩ 0
      (editedWhileReserving 0 true) :=
      by simp [Edits, editedWhileReserving, Targets, sampleDatabase, Table.column, fitsInteger]
  have undercut : Undercut (sampleDatabase 1) ⟨"quota", "final", "press", 1, 0, .manualArbitration⟩
      (editedWhileReserving 0) :=
      ⟨0, 1, ⟨true, edits⟩, .inl rfl, by decide, by decide, by decide, by decide⟩
  obtain ⟨schedule, e, member, broken⟩ := undercut_play stored undercut
  exact broken (inForce _ stored schedule e member)

/-- An edit that raises the total undercuts no reservation. -/
theorem quota_in_force_raised :
    (∀ schedule, ∀ e ∈ ((quotaPool (sampleDatabase 1) (editedWhileReserving 2)).play handle schedule).1,
        InForce "quota" e.2) ↔
      ¬ Undercut (sampleDatabase 1) ⟨"quota", "final", "press", 1, 0, .manualArbitration⟩
        (editedWhileReserving 2) :=
  quota_in_force (sampleDatabase 1) (editedWhileReserving 2)
    ⟨"quota", "final", "press", 1, 0, .manualArbitration⟩ (by simp [sampleDatabase])

end Undercutting

end AccreditationBackend
