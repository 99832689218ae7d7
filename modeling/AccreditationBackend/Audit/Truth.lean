import AccreditationBackend.Foundation.Stability
import AccreditationBackend.Requests.Lifecycle
import AccreditationBackend.Accreditations.Endurance

/-! Published events, and what they say of the database.

Listeners read an event after the call that published it has moved on, and while
others move. What an event says is so when it is published, and no statement of
any call undoes it.
-/

set_option autoImplicit false

namespace AccreditationBackend

open Foundation

/-! ## What an event says -/

/-- The request exists, and belongs to the requester. -/
def Tables.Owned (t : Tables) (requestId requesterId : Uuid) : Prop :=
  ∃ r, t.requestById requestId = some r ∧ r.requesterId = requesterId

/-- It is past its draft as well. -/
def Tables.Filed (t : Tables) (requestId requesterId : Uuid) : Prop :=
  ∃ r, t.requestById requestId = some r ∧ r.requesterId = requesterId ∧ r.status ≠ .draft

def DomainEvent.TrueIn (t : Tables) : DomainEvent → Prop
  | .requestSubmitted requestId requesterId =>
      t.Filed requestId requesterId ∧ ∃ d ∈ t.decisions, d.requestId = requestId ∧ d.toStatus = .submitted
  | .requestComplementRequested requestId requesterId missingItem =>
      t.Filed requestId requesterId ∧
        ∃ c ∈ t.complements.rows, c.requestId = requestId ∧ c.missingItem = missingItem
  | .requestDecided requestId requesterId decision reason _ =>
      t.Filed requestId requesterId ∧
        ∃ d ∈ t.decisions, d.requestId = requestId ∧ d.toStatus = decision ∧ d.reason = reason
  | .requestCancelled requestId previousStatus =>
      (∃ requesterId, t.Filed requestId requesterId) ∧
        ∃ d ∈ t.decisions, d.requestId = requestId ∧ d.fromStatus = previousStatus ∧ d.toStatus = .cancelled
  | .accreditationGenerated accreditationId requestId requesterId =>
      t.Owned requestId requesterId ∧ ∃ a, t.accreditationById accreditationId = some a ∧ a.requestId = requestId
  | .accreditationRevoked accreditationId requestId _ =>
      ∃ a, t.accreditationById accreditationId = some a ∧ a.requestId = requestId ∧ a.status = .revoked
  | .matchUpdated matchId _ => (t.matchRows.find (·.id == matchId)).isSome
  | .matchRequestsClosed matchId => (t.matchRows.find (·.id == matchId)).isSome

/-- Whatever has been published is so. -/
def EventsTrue (db : Database) : Prop := ∀ event ∈ db.events, event.TrueIn db.toTables

/-- Whatever has been published beside `old` is so. -/
def TrueBeside (old : List DomainEvent) (db : Database) : Prop :=
  ∀ event ∈ db.events, event ∉ old → event.TrueIn db.toTables

/-! ## What no statement undoes -/

structure Later (s t : Database) : Prop extends Endures s t where
  owned : ∀ id r, s.requestById id = some r → ∃ r', t.requestById id = some r' ∧
    r'.requesterId = r.requesterId ∧ (r.status ≠ .draft → r'.status ≠ .draft)
  decided : s.decisions ⊆ t.decisions
  asked : ∀ c ∈ s.complements.rows, ∃ c' ∈ t.complements.rows,
    c'.requestId = c.requestId ∧ c'.missingItem = c.missingItem
  scheduled : t.matchRows.column (·.id) = s.matchRows.column (·.id)
  announced : s.events ⊆ t.events

section Later

variable {s t u : Database}

theorem Later.refl (s : Database) : Later s s where
  toEndures := .refl s
  owned _ r found := ⟨r, found, rfl, id⟩
  decided := List.Subset.refl _
  asked c stored := ⟨c, stored, rfl, rfl⟩
  scheduled := rfl
  announced := List.Subset.refl _

theorem Later.trans (first : Later s t) (second : Later t u) : Later s u where
  toEndures := first.toEndures.trans second.toEndures
  owned id r found := by
    obtain ⟨r', found', owner, filed⟩ := first.owned id r found
    obtain ⟨r'', found'', owner', filed'⟩ := second.owned id r' found'
    exact ⟨r'', found'', owner'.trans owner, fun past => filed' (filed past)⟩
  decided := List.Subset.trans first.decided second.decided
  asked c stored := by
    obtain ⟨c', stored', of, item⟩ := first.asked c stored
    obtain ⟨c'', stored'', of', item'⟩ := second.asked c' stored'
    exact ⟨c'', stored'', of'.trans of, item'.trans item⟩
  scheduled := second.scheduled.trans first.scheduled
  announced := List.Subset.trans first.announced second.announced

theorem Later.owns (later : Later s t) {requestId requesterId : Uuid}
    (owned : s.Owned requestId requesterId) : t.Owned requestId requesterId := by
  obtain ⟨r, found, rfl⟩ := owned
  obtain ⟨r', found', owner, -⟩ := later.owned requestId r found
  exact ⟨r', found', owner⟩

theorem Later.files (later : Later s t) {requestId requesterId : Uuid}
    (filed : s.Filed requestId requesterId) : t.Filed requestId requesterId := by
  obtain ⟨r, found, rfl, past⟩ := filed
  obtain ⟨r', found', owner, still⟩ := later.owned requestId r found
  exact ⟨r', found', owner, still past⟩

theorem Later.schedules (later : Later s t) {matchId : Uuid}
    (known : (s.matchRows.find (·.id == matchId)).isSome) :
    (t.matchRows.find (·.id == matchId)).isSome := by
  obtain ⟨m, found⟩ := Option.isSome_iff_exists.mp known
  obtain ⟨stored, named⟩ := Table.find_some_mem found
  have listed : matchId ∈ t.matchRows.column (·.id) := by
    rw [later.scheduled]
    exact List.mem_map.mpr ⟨m, stored, beq_iff_eq.mp named⟩
  obtain ⟨m', found'⟩ := Table.find_of_column listed
  rw [found']
  rfl

theorem Later.still_true (later : Later s t) {event : DomainEvent} (holds : event.TrueIn s.toTables) :
    event.TrueIn t.toTables := by
  cases event with
  | requestSubmitted requestId requesterId =>
      obtain ⟨filed, d, stored, told⟩ := holds
      exact ⟨later.files filed, d, later.decided stored, told⟩
  | requestComplementRequested requestId requesterId missingItem =>
      obtain ⟨filed, c, stored, of, item⟩ := holds
      obtain ⟨c', stored', of', item'⟩ := later.asked c stored
      exact ⟨later.files filed, c', stored', of'.trans of, item'.trans item⟩
  | requestDecided requestId requesterId decision reason zoneIds =>
      obtain ⟨filed, d, stored, told⟩ := holds
      exact ⟨later.files filed, d, later.decided stored, told⟩
  | requestCancelled requestId previousStatus =>
      obtain ⟨⟨requesterId, filed⟩, d, stored, told⟩ := holds
      exact ⟨⟨requesterId, later.files filed⟩, d, later.decided stored, told⟩
  | accreditationGenerated accreditationId requestId requesterId =>
      obtain ⟨owned, a, found, of⟩ := holds
      obtain ⟨a', found', same⟩ := later.badge accreditationId a found
      exact ⟨later.owns owned, a', found', same.requestId.trans of⟩
  | accreditationRevoked accreditationId requestId reason =>
      obtain ⟨a, found, of, ended⟩ := holds
      obtain ⟨a', found', same⟩ := later.badge accreditationId a found
      exact ⟨a', found', same.requestId.trans of, same.revoked ended⟩
  | matchUpdated matchId changedFields => exact later.schedules holds
  | matchRequestsClosed matchId => exact later.schedules holds

end Later

/-! ## One statement -/

/-- No lawful statement takes a request from its requester, or back to its draft. -/
theorem owned_step {stmt : Statement} (lawful : Lawful stmt) (db : Database) {id : Uuid}
    {r : AccreditationRequest} (found : db.requestById id = some r) :
    ∃ r', (handle.after stmt db).requestById id = some r' ∧ r'.requesterId = r.requesterId ∧
      (r.status ≠ .draft → r'.status ≠ .draft) := by
  have step := request_step stmt db id
  rw [found] at step
  generalize (handle.after stmt db).requestById id = after at step
  cases step with
  | edited named => exact ⟨_, rfl, rfl, fun past => past⟩
  | @written w r named =>
      refine ⟨_, rfl, rfl, fun _ draft => ?_⟩
      have target : w.target = .draft := draft
      exact draft_not_target w.seen (target ▸ lawful)
  | unchanged => exact ⟨r, rfl, rfl, fun past => past⟩

theorem asked_step (stmt : Statement) (db : Database) :
    ∀ c ∈ db.complements.rows, ∃ c' ∈ (handle.after stmt db).complements.rows,
      c'.requestId = c.requestId ∧ c'.missingItem = c.missingItem := by
  obtain same | ⟨reply, applied⟩ := after_cases stmt db
  · rw [same]
    exact fun c stored => ⟨c, stored, rfl, rfl⟩
  · generalize (handle.after stmt db).toTables = t at applied
    cases writes : stmt.writesComplements with
    | false =>
        rw [apply_complements applied writes]
        exact fun c stored => ⟨c, stored, rfl, rfl⟩
    | true =>
        cases stmt <;> simp only [Statement.writesComplements, Bool.false_eq_true] at writes <;>
          simp only [Tables.apply, bind_ok, orFail_ok, pure_ok] at applied
        case writeStatus w =>
          obtain ⟨_, _, complements, added, same⟩ := applied
          cases same
          obtain ⟨c, asks⟩ := Option.isSome_iff_exists.mp writes
          rw [asks] at added
          simp only [Tables.addComplement, bind_ok, require_ok, orFail_ok] at added
          obtain ⟨_, _, inserted⟩ := added
          intro old stored
          exact ⟨old, by rw [Table.insert_rows inserted]; exact List.mem_append_left _ stored, rfl, rfl⟩
        case resolveComplement id resolvedAt =>
          obtain ⟨_, _, same⟩ := applied
          cases same
          intro old stored
          by_cases named : old.id = id
          · refine ⟨resolve resolvedAt old, ?_, rfl, rfl⟩
            exact (Table.mem_update _ _ _ (resolve_key resolvedAt)).mpr ⟨old, stored, by simp [named]⟩
          · refine ⟨old, ?_, rfl, rfl⟩
            exact (Table.mem_update _ _ _ (resolve_key resolvedAt)).mpr ⟨old, stored, by simp [named]⟩

theorem later_step {stmt : Statement} (lawful : Lawful stmt) (db : Database) :
    Later db (handle.after stmt db) where
  toEndures := endures_step stmt db
  owned _ _ found := owned_step lawful db found
  decided := by
    obtain grown | same := decisions_step stmt db
    · rw [grown]
      exact List.subset_append_left _ _
    · rw [same]
      exact List.Subset.refl _
  asked := asked_step stmt db
  scheduled := matchIds_kept stmt db
  announced := by
    obtain same | ⟨reply, applied⟩ := after_cases stmt db
    · rw [same]
      exact List.Subset.refl _
    · rw [apply_events applied]
      exact List.subset_append_left _ _

/-- A statement that publishes nothing but the truth leaves nothing but the truth. -/
theorem trueBeside_step {stmt : Statement} (lawful : Lawful stmt) {old : List DomainEvent} {db : Database}
    (so : ∀ event ∈ stmt.published, event.TrueIn db.toTables) (told : TrueBeside old db) :
    TrueBeside old (handle.after stmt db) ∧ Later db (handle.after stmt db) := by
  refine ⟨fun event published new => ?_, later_step lawful db⟩
  refine (later_step lawful db).still_true ?_
  obtain same | ⟨reply, applied⟩ := after_cases stmt db
  · rw [same] at published
    exact told event published new
  · rw [apply_events applied, List.mem_append] at published
    exact published.elim (fun early => told event early new) (so event)

/-- What was so at the start, and what has been published since, is so in the end. -/
theorem Later.all_true {s t : Database} (later : Later s t) (told : EventsTrue s)
    (since : TrueBeside s.events t) : EventsTrue t := by
  intro event published
  by_cases early : event ∈ s.events
  · exact later.still_true (told event early)
  · exact since event published early

end AccreditationBackend
