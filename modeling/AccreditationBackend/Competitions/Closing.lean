import AccreditationBackend.Accreditations.Validity

/-! The job that closes the requests of a match once their period is over. -/

set_option autoImplicit false

namespace AccreditationBackend

open Foundation

/-- The condition of the job's query. -/
def isExpired (now : Time) (m : Match) : Bool := m.status == .open && m.requestsCloseAt.any (· < now)

def closing : UpdateMatchDto := { status := some .closed }

def closeMatches : List Uuid → Op Unit
  | [] => return ()
  | id :: rest => do
      let _ ← issue (.updateMatch id closing)
      publish (.matchRequestsClosed id)
      closeMatches rest

/-- Every minute; the matches are read once, and each is written by its id. -/
def closeExpiredMatches (now : Time) : Op Unit := do
  let expired ← Proc.query fun db => (db.matchRows.rows.filter (isExpired now)).map (·.id)
  closeMatches expired

/-- What the job leaves of the database when it runs at this instant. -/
def afterClosing (now : Time) (db : Database) : Database := ((closeExpiredMatches now).run handle db).2

/-- The match as the job leaves it. -/
def closedAt (now : Time) (m : Match) : Match :=
  if isExpired now m then { m with status := .closed } else m

/-! ## The loop -/

/-- The matches of these ids are closed, each with its event, and nothing else is touched. -/
def closed (ids : List Uuid) (t : Tables) : Tables :=
  { t with
    matchRows := t.matchRows.update (fun m => ids.contains m.id) closing.apply closing.apply_key
    events := t.events ++ ids.map .matchRequestsClosed }

theorem closed_nil (t : Tables) : closed [] t = t := by
  have same : t.matchRows.update (fun m => ([] : List Uuid).contains m.id) closing.apply
    closing.apply_key =
      t.matchRows := Table.update_fixed _ _ _ _ fun _ _ hit => by simp at hit
  rw [closed, same, List.map_nil, List.append_nil]

theorem closed_cons (id : Uuid) (ids : List Uuid) (t : Tables) :
    closed ids { t with
      matchRows := t.matchRows.update (·.id == id) closing.apply closing.apply_key
      events := t.events ++ [.matchRequestsClosed id] } = closed (id :: ids) t := by
  have rows := t.matchRows.update_update (·.id == id) closing.apply closing.apply_key (fun _ => rfl)
    (fun m => ids.contains m.id) fun _ => rfl
  simp only [closed, rows, List.append_assoc, List.singleton_append, List.map_cons, List.contains_cons]

theorem closeMatches_run (ids : List Uuid) (db : Database)
    (known : ∀ id ∈ ids, id ∈ db.matchRows.column (·.id)) :
    ∃ db', (closeMatches ids).run handle db = (.ok (), db') ∧
      db'.toTables = closed ids db.toTables := by
  induction ids generalizing db with
  | nil => exact ⟨db, rfl, (closed_nil _).symm⟩
  | cons id rest ih =>
      obtain ⟨m, found⟩ := Table.find_of_column (known id List.mem_cons_self)
      have applied : db.toTables.apply (.updateMatch id closing) = .ok (closing.apply m, _) :=
        apply_updateMatch found fun _ named => by cases named
      have tables := after_applied rfl applied
      generalize updated : handle.after (.updateMatch id closing) db = middle at tables
      have next := published (.matchRequestsClosed id) middle
      generalize announced : handle.after (.publish (.matchRequestsClosed id)) middle = last at next
      rw [tables] at next
      -- The update moves no id, so the rest of the loop finds its matches.
      have kept : ∀ other ∈ rest, other ∈ last.matchRows.column (·.id) := by
        intro other member
        rw [← announced, matchIds_kept, ← updated, matchIds_kept]
        exact known other (List.mem_cons_of_mem _ member)
      obtain ⟨db', ran, final⟩ := ih last kept
      refine ⟨db', ?_, ?_⟩
      · rw [closeMatches, issue_bind, Proc.run, handle_replies rfl applied, updated]
        have replied : handle (.publish (.matchRequestsClosed id)) middle = .ok ((), _) :=
          handle_replies rfl rfl
        rw [announced] at replied
        simp only [publish_bind, Proc.run, replied]
        exact ran
      · rw [final, next]
        exact closed_cons id rest db.toTables

/-! ## The job -/

section Job

variable (now : Time) (db : Database)

/-- The ids that the query finds are those of the rows that it selects. -/
theorem expired_ids :
    db.matchRows.update
        (fun m => ((db.matchRows.rows.filter (isExpired now)).map (·.id)).contains m.id)
        closing.apply closing.apply_key =
      db.matchRows.update (isExpired now) closing.apply closing.apply_key := by
  refine Table.update_congr _ _ _ _ fun m stored => ?_
  rw [Bool.eq_iff_iff, List.contains_iff_mem, List.mem_map]
  constructor
  · rintro ⟨other, selected, same⟩
    obtain ⟨inside, expired⟩ := List.mem_filter.mp selected
    rwa [← Table.eq_of_clash inside stored same]
  · exact fun expired => ⟨m, List.mem_filter.mpr ⟨stored, expired⟩, rfl⟩

theorem closeExpiredMatches_run :
    (closeExpiredMatches now).run handle db = (.ok (), afterClosing now db) ∧
      (afterClosing now db).matchRows.rows = db.matchRows.rows.map (closedAt now) ∧
      (afterClosing now db).toTables = { db.toTables with
        matchRows := (afterClosing now db).matchRows
        events := db.events ++
          (db.matchRows.rows.filter (isExpired now)).map (.matchRequestsClosed ·.id) } := by
  obtain ⟨db', ran, final⟩ :=
    closeMatches_run ((db.matchRows.rows.filter (isExpired now)).map (·.id)) db
    fun id member => by
      obtain ⟨m, selected, rfl⟩ := List.mem_map.mp member
      exact List.mem_map_of_mem (List.mem_filter.mp selected).1
  have whole : (closeExpiredMatches now).run handle db = (.ok (), db') := ran
  have left_ : afterClosing now db = db' := congrArg Prod.snd whole
  rw [left_, final]
  simp only [closed, expired_ids, List.map_map]
  exact ⟨whole, rfl, rfl⟩

variable {now} in
/-- A match that the job has closed, or has left alone, is not found again. -/
theorem closedAt_settled (m : Match) : isExpired now (closedAt now m) = false := by
  unfold closedAt
  split
  next => rfl
  next open_ => simpa using open_

theorem afterClosing_again : afterClosing now (afterClosing now db) = afterClosing now db := by
  have none_ : (afterClosing now db).matchRows.rows.filter (isExpired now) = [] := by
    rw [(closeExpiredMatches_run now db).2.1, List.filter_eq_nil_iff]
    intro m member
    obtain ⟨before, _, rfl⟩ := List.mem_map.mp member
    simp [closedAt_settled]
  rw [afterClosing, closeExpiredMatches, Proc.query_bind, Proc.run, none_]
  rfl

end Job

/-- From the instant of the job on, a match that it closes takes no requests, closed or not. -/
theorem assertAccepting_closedAt {now later : Time} (after : now ≤ later) (m : Match) :
    (assertAcceptingRequests later (closedAt now m)).isOk =
      (assertAcceptingRequests later m).isOk := by
  by_cases expired : isExpired now m = true
  · have over_ : m.requestsCloseAt.any (· < later) = true := by
      simp only [isExpired, Bool.and_eq_true, Option.any_eq_true, decide_eq_true_eq] at expired ⊢
      obtain ⟨_, close, named, before⟩ := expired
      exact ⟨close, named, lt_of_lt_of_le before after⟩
    have refused : (assertAcceptingRequests later m).isOk = false := by
      unfold assertAcceptingRequests
      split_ifs <;> rfl
    rw [refused, closedAt, if_pos expired]
    rfl
  · rw [closedAt, if_neg expired]

/-- A match that no operation of the run edits is found as it was. -/
theorem match_unedited (services : Services) {id : Uuid} {ops : List Operation}
    (unedited : ∀ dto, .updateMatch id dto ∉ ops) (db : Database) :
    (runFrom (perform services) db ops).matchRows.find (·.id == id) =
      db.matchRows.find (·.id == id) := by
  induction ops generalizing db with
  | nil => rfl
  | cons op rest ih =>
      rw [runFrom_cons, ih fun dto member => unedited dto (List.mem_cons_of_mem _ member)]
      refine perform_relates services (R := fun s t : Database =>
          t.matchRows.find (·.id == id) = s.matchRows.find (·.id == id)) (fun _ => rfl)
        (fun _ _ _ first second => second.trans first) fun stmt s member => ?_
      have step := match_step stmt s id
      generalize s.matchRows.find (·.id == id) = before at step ⊢
      generalize (handle.after stmt s).matchRows.find (·.id == id) = after at step ⊢
      cases step with
      | @updated dto m known =>
          have update := footprint_updateMatch services (events_footprint services db op _ member)
          exact absurd (update ▸ List.mem_cons_self) (unedited dto)
      | unchanged => rfl

/-- The job closes the open matches whose period is over, tells each once and
changes nothing else; done again it does nothing. It takes from nobody the right
to submit a request, then or later. -/
theorem closing_job (services : Services) (db : Database) (now : Time) :
    ((closeExpiredMatches now).run handle db).1 = .ok () ∧
      (afterClosing now db).matchRows.rows = db.matchRows.rows.map (closedAt now) ∧
      (afterClosing now db).toTables = { db.toTables with
        matchRows := (afterClosing now db).matchRows
        events := db.events ++
          (db.matchRows.rows.filter (isExpired now)).map (.matchRequestsClosed ·.id) } ∧
      afterClosing now (afterClosing now db) = afterClosing now db ∧
      ∀ later, now ≤ later → ∀ m ∈ db.matchRows.rows, ∀ ops : List Operation,
        (∀ dto, .updateMatch m.id dto ∉ ops) →
          (runFrom (perform services) (afterClosing now db) ops).matchRows.find (·.id == m.id) =
              some (closedAt now m) ∧
            (assertAcceptingRequests later (closedAt now m)).isOk =
              (assertAcceptingRequests later m).isOk := by
  obtain ⟨ran, rows, tables⟩ := closeExpiredMatches_run now db
  refine ⟨congrArg Prod.fst ran, rows, tables, afterClosing_again now db,
    fun later after m stored ops unedited => ⟨?_, assertAccepting_closedAt after m⟩⟩
  rw [match_unedited services unedited, Table.find_some_iff (selects_matchId m.id), rows]
  refine ⟨List.mem_map_of_mem stored, ?_⟩
  unfold closedAt
  split <;> exact beq_self_eq_true _

/-- The sample's match with a period that has ended at the instant of the job. -/
def overdueMatch : Database :=
  perform sampleServices (sampleDatabase 0) (.updateMatch "final" { requestsCloseAt := some 5 })

theorem closing_job_overdue :
    ∃ m ∈ overdueMatch.matchRows.rows, isExpired 6 m = true ∧
      (afterClosing 6 overdueMatch).matchRows.find (·.id == m.id) = some (closedAt 6 m) ∧
        (assertAcceptingRequests 7 (closedAt 6 m)).isOk = (assertAcceptingRequests 7 m).isOk := by
  have stored : (overdueMatch.matchRows.rows.head (by decide)) ∈ overdueMatch.matchRows.rows :=
    List.head_mem _
  refine ⟨_, stored, by decide, ?_⟩
  exact (closing_job sampleServices overdueMatch 6).2.2.2.2 7 (by decide) _ stored
    [] fun _ => List.not_mem_nil

end AccreditationBackend
