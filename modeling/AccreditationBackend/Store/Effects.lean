import AccreditationBackend.Store.Integrity

/-! What one statement can do to each table, said once.

Every later invariant is a case analysis on these relations. A statement that
the database refuses falls under `unchanged`.
-/

set_option autoImplicit false

namespace AccreditationBackend

open Foundation (Table Handler Proc)

theorem after_cases (stmt : Statement) (db : Database) :
    handle.after stmt db = db ∨
      ∃ reply, db.toTables.apply stmt = .ok (reply, (handle.after stmt db).toTables) := by
  cases replied : handle stmt db with
  | ok result =>
      rw [handle.after_ok replied]
      exact .inr ⟨result.1, handle_ok replied⟩
  | error why => exact .inl (handle.after_error replied)

/-! ## Requests -/

inductive RequestStep (id : Uuid) : Statement → Option AccreditationRequest → Option AccreditationRequest → Prop
  | created {row : AccreditationRequest} (named : row.id = id) : RequestStep id
      (.createRequest row) none (some row)
  | edited {categoryId : Uuid} {logistics : Logistics} {r : AccreditationRequest} (named : r.id = id) :
      RequestStep id (.editDraft id categoryId logistics) (some r) (some (redraft categoryId logistics r))
  | written {w : StatusWrite} {r : AccreditationRequest} (named : w.requestId = id) :
      RequestStep id (.writeStatus w) (some r) (some (w.apply r))
  | unchanged {stmt : Statement} {r : Option AccreditationRequest} : RequestStep id stmt r r

def Statement.writesRequests : Statement → Bool
  | .createRequest _ => true
  | .editDraft .. => true
  | .writeStatus _ => true
  | _ => false

theorem apply_requests {stmt : Statement} {t t' : Tables} {reply : stmt.Reply}
    (applied : t.apply stmt = .ok (reply, t')) (other : stmt.writesRequests = false) :
    t'.requests = t.requests := by
  cases stmt <;> simp only [Tables.apply, bind_ok, orFail_ok, require_ok, pure_ok, Except.ok.injEq,
    Prod.exists, Statement.writesRequests, reduceCtorEq] at applied other ⊢ <;> grind

theorem apply_request {stmt : Statement} {t t' : Tables} {reply : stmt.Reply}
    (applied : t.apply stmt = .ok (reply, t')) (id : Uuid) :
    RequestStep id stmt (t.requestById id) (t'.requestById id) := by
  simp only [Tables.requestById]
  cases writes : stmt.writesRequests with
  | false =>
      rw [apply_requests applied writes]
      exact .unchanged
  | true =>
      cases stmt <;> simp only [Statement.writesRequests, Bool.false_eq_true] at writes <;>
        simp only [Tables.apply, bind_ok, orFail_ok, require_ok, pure_ok] at applied
      case createRequest row =>
        obtain ⟨_, _, requests, inserted, same⟩ := applied
        cases same
        rw [Table.find_insert inserted]
        by_cases named : row.id = id
        · rw [Table.find_insert_fresh inserted (selects_requestId id) (by simpa using named)]
          simpa [named] using RequestStep.created named
        · simpa [named] using RequestStep.unchanged
      case editDraft other categoryId logistics =>
        obtain ⟨_, _, _, _, same⟩ := applied
        cases same
        obtain ⟨r, found, hit, updated⟩ | same := Table.find_update_cases t.requests (·.id == other)
          (redraft categoryId logistics) (redraft_key categoryId logistics) (·.id == id) fun _ => rfl
        · obtain ⟨_, named⟩ := Table.find_some_mem found
          rw [updated, found]
          simp only [beq_iff_eq] at hit named
          obtain rfl : other = id := hit.symm.trans named
          exact .edited named
        · rw [same]
          exact .unchanged
      case writeStatus w =>
        obtain ⟨_, _, _, _, same⟩ := applied
        cases same
        obtain ⟨r, found, hit, updated⟩ | same := Table.find_update_cases t.requests (·.id == w.requestId)
          w.apply w.apply_key (·.id == id) fun _ => rfl
        · obtain ⟨_, named⟩ := Table.find_some_mem found
          rw [updated, found]
          simp only [beq_iff_eq] at hit named
          exact .written (hit.symm.trans named)
        · rw [same]
          exact .unchanged

theorem request_step (stmt : Statement) (db : Database) (id : Uuid) :
    RequestStep id stmt (db.requestById id) ((handle.after stmt db).requestById id) := by
  obtain same | ⟨reply, applied⟩ := after_cases stmt db
  · rw [same]
    exact .unchanged
  · exact apply_request applied id

/-! ## Quotas -/

section Quotas

variable {p : MatchCategoryQuota → Bool}

inductive QuotaStep (p : MatchCategoryQuota → Bool) :
    Statement → Option MatchCategoryQuota → Option MatchCategoryQuota → Prop
  | created {freshId matchId : Uuid} {dto : SetQuotaDto} :
      QuotaStep p (.setQuota freshId matchId dto) none (some (dto.create freshId matchId))
  | edited {freshId matchId : Uuid} {dto : SetQuotaDto} {q : MatchCategoryQuota}
      (pair : quotaOf matchId dto.categoryId q = true) :
      QuotaStep p (.setQuota freshId matchId dto) (some q) (some (dto.update q))
  | reserved {quotaId : Uuid} {limit : Nat} {q : MatchCategoryQuota}
      (room : reservable quotaId limit q = true) :
      QuotaStep p (.reserve quotaId limit) (some q) (some (consume q))
  | released {quotaId : Uuid} {q : MatchCategoryQuota} (named : q.id = quotaId) :
      QuotaStep p (.release quotaId) (some q) (some (giveBack q))
  | unchanged {stmt : Statement} {q : Option MatchCategoryQuota} : QuotaStep p stmt q q

def Statement.writesQuotas : Statement → Bool
  | .setQuota .. => true
  | .reserve .. => true
  | .release _ => true
  | _ => false

theorem apply_quotas {stmt : Statement} {t t' : Tables} {reply : stmt.Reply}
    (applied : t.apply stmt = .ok (reply, t')) (other : stmt.writesQuotas = false) :
    t'.quotas = t.quotas := by
  cases stmt <;> simp only [Tables.apply, bind_ok, orFail_ok, require_ok, pure_ok, Except.ok.injEq,
    Prod.exists, Statement.writesQuotas, reduceCtorEq] at applied other ⊢ <;> grind

theorem apply_quota {stmt : Statement} {t t' : Tables} {reply : stmt.Reply}
    (selects : Table.Selects p) (onKey : Table.OnKey p) (applied : t.apply stmt = .ok (reply, t')) :
    QuotaStep p stmt (t.quotas.find p) (t'.quotas.find p) := by
  cases writes : stmt.writesQuotas with
  | false =>
      rw [apply_quotas applied writes]
      exact .unchanged
  | true =>
      cases stmt <;> simp only [Statement.writesQuotas, Bool.false_eq_true] at writes <;>
        simp only [Tables.apply, bind_ok, orFail_ok, require_ok, pure_ok, Except.ok.injEq,
          Prod.exists] at applied
      case setQuota freshId matchId dto =>
        obtain ⟨q, quotas, upserted, _, _, quotaZones, _, same⟩ := applied
        cases same
        -- The upsert edits the row of the pair in place, or appends one.
        obtain ⟨old, _, _, rfl⟩ | ⟨_, rfl, _, inserted⟩ := upsertQuota_cases upserted
        · obtain ⟨r, found, hit, updated⟩ | same :=
            Table.find_update_cases t.quotas (quotaOf matchId dto.categoryId)
              dto.update dto.update_key p fun r => onKey _ _ (dto.update_key r)
          · rw [updated, found]
            exact .edited hit
          · rw [same]
            exact .unchanged
        · rw [Table.find_insert inserted]
          by_cases holds : p (dto.create freshId matchId) = true
          · rw [Table.find_insert_fresh inserted selects holds]
            simpa [holds] using QuotaStep.created
          · simpa [holds] using QuotaStep.unchanged
      case reserve quotaId limit =>
        cases applied
        obtain ⟨r, found, hit, updated⟩ | same :=
          Table.find_update_cases t.quotas (reservable quotaId limit)
            consume consume_key p fun r => onKey _ _ (consume_key r)
        · rw [updated, found]
          exact .reserved hit
        · rw [same]
          exact .unchanged
      case release quotaId =>
        obtain ⟨_, _, same⟩ := applied
        cases same
        obtain ⟨r, found, hit, updated⟩ | same := Table.find_update_cases t.quotas (·.id == quotaId)
          giveBack giveBack_key p fun r => onKey _ _ (giveBack_key r)
        · rw [updated, found]
          exact .released (beq_iff_eq.mp hit)
        · rw [same]
          exact .unchanged

theorem quota_step (selects : Table.Selects p) (onKey : Table.OnKey p) (stmt : Statement)
    (db : Database) :
    QuotaStep p stmt (db.quotas.find p) ((handle.after stmt db).quotas.find p) := by
  obtain same | ⟨reply, applied⟩ := after_cases stmt db
  · rw [same]
    exact .unchanged
  · exact apply_quota selects onKey applied

theorem selects_reservable (quotaId : Uuid) (limit : Nat) : Table.Selects (reservable quotaId limit) := by
  intro a b left right
  simp only [reservable, Bool.and_eq_true] at left right
  exact selects_quotaId quotaId a b left.1 right.1

/-- The guarded update never fails: it replies with the number of rows that matched. -/
theorem handle_reserve (quotaId : Uuid) (limit : Nat) (db : Database) :
    handle (.reserve quotaId limit) db =
      .ok (db.quotas.count (reservable quotaId limit), handle.after (.reserve quotaId limit) db) :=
        handle_replies rfl rfl

theorem find_reserve (quotaId : Uuid) (limit : Nat) (db : Database) (onKey : Table.OnKey p) :
    (handle.after (.reserve quotaId limit) db).quotas.find p =
      (db.quotas.find p).map fun q => if reservable quotaId limit q then consume q else q := by
  have after : (handle.after (.reserve quotaId limit) db).toTables = _ := after_applied rfl rfl
  rw [after]
  exact Table.find_update _ _ _ consume_key _ fun q => onKey _ _ (consume_key q)

theorem find_release {quotaId : Uuid} {db : Database} {q : MatchCategoryQuota}
    (found : db.quotas.find (·.id == quotaId) = some q) (onKey : Table.OnKey p) :
    (handle.after (.release quotaId) db).quotas.find p =
      (db.quotas.find p).map fun q => if q.id == quotaId then giveBack q else q := by
  have after : (handle.after (.release quotaId) db).toTables = _ :=
    after_applied rfl (by rw [Tables.apply, found]; rfl)
  rw [after]
  exact Table.find_update _ _ _ giveBack_key _ fun q => onKey _ _ (giveBack_key q)

end Quotas

/-! ## Badges -/

section Badges

variable {p : Accreditation → Bool}

inductive BadgeStep : Statement → Option Accreditation → Option Accreditation → Prop
  | created {row : Accreditation} {zoneIds : List Uuid} : BadgeStep
      (.createAccreditation row zoneIds) none (some row)
  | assigned {id : Uuid} {input : AssignmentInput} {a : Accreditation} (named : a.id = id) :
      BadgeStep (.updateAssignments id input) (some a) (some (input.apply a))
  | revoked {id revokedById : Uuid} {revokedAt : Time} {reason : String} {a : Accreditation}
      (named : a.id = id) :
      BadgeStep (.revoke id revokedAt revokedById reason) (some a)
        (some (markRevoked revokedAt revokedById reason a))
  | unchanged {stmt : Statement} {a : Option Accreditation} : BadgeStep stmt a a

def Statement.writesBadges : Statement → Bool
  | .createAccreditation .. => true
  | .updateAssignments .. => true
  | .revoke .. => true
  | _ => false

theorem apply_badges {stmt : Statement} {t t' : Tables} {reply : stmt.Reply}
    (applied : t.apply stmt = .ok (reply, t')) (other : stmt.writesBadges = false) :
    t'.accreditations = t.accreditations ∧ t'.accreditationZones = t.accreditationZones := by
  cases stmt <;> simp only [Tables.apply, bind_ok, orFail_ok, require_ok, pure_ok, Except.ok.injEq,
    Prod.exists, Statement.writesBadges, reduceCtorEq] at applied other ⊢ <;> grind

theorem apply_badge {stmt : Statement} {t t' : Tables} {reply : stmt.Reply}
    (selects : Table.Selects p) (onKey : Table.OnKey p) (applied : t.apply stmt = .ok (reply, t')) :
    BadgeStep stmt (t.accreditations.find p) (t'.accreditations.find p) := by
  cases writes : stmt.writesBadges with
  | false =>
      rw [(apply_badges applied writes).1]
      exact .unchanged
  | true =>
      cases stmt <;> simp only [Statement.writesBadges, Bool.false_eq_true] at writes <;>
        simp only [Tables.apply, bind_ok, orFail_ok, require_ok, pure_ok] at applied
      case createAccreditation row zoneIds =>
        obtain ⟨_, _, accreditations, inserted, _, _, _, _, same⟩ := applied
        cases same
        rw [Table.find_insert inserted]
        by_cases holds : p row = true
        · rw [Table.find_insert_fresh inserted selects holds]
          simpa [holds] using BadgeStep.created
        · simpa [holds] using BadgeStep.unchanged
      case updateAssignments id input =>
        obtain ⟨_, _, same⟩ := applied
        cases same
        obtain ⟨a, found, hit, updated⟩ | same := Table.find_update_cases t.accreditations (·.id == id)
          input.apply input.apply_key p fun a => onKey _ _ (input.apply_key a)
        · rw [updated, found]
          exact .assigned (beq_iff_eq.mp hit)
        · rw [same]
          exact .unchanged
      case revoke id revokedAt revokedById reason =>
        obtain ⟨_, _, same⟩ := applied
        cases same
        obtain ⟨a, found, hit, updated⟩ | same := Table.find_update_cases t.accreditations (·.id == id)
          (markRevoked revokedAt revokedById reason) (markRevoked_key revokedAt revokedById reason) p
          fun a => onKey _ _ (markRevoked_key revokedAt revokedById reason a)
        · rw [updated, found]
          exact .revoked (beq_iff_eq.mp hit)
        · rw [same]
          exact .unchanged

theorem badge_step (selects : Table.Selects p) (onKey : Table.OnKey p) (stmt : Statement)
    (db : Database) :
    BadgeStep stmt (db.accreditations.find p) ((handle.after stmt db).accreditations.find p) := by
  obtain same | ⟨reply, applied⟩ := after_cases stmt db
  · rw [same]
    exact .unchanged
  · exact apply_badge selects onKey applied

/-- The zones granted with a badge are never touched again. -/
theorem zones_kept (stmt : Statement) (db : Database) {id : Uuid}
    (issued : db.accreditationById id ≠ none) :
    (handle.after stmt db).zoneIdsOf id = db.zoneIdsOf id := by
  obtain same | ⟨reply, applied⟩ := after_cases stmt db
  · rw [same]
  · generalize (handle.after stmt db).toTables = t at applied ⊢
    cases writes : stmt.writesBadges with
    | false => simp only [Tables.zoneIdsOf, (apply_badges applied writes).2]
    | true =>
        cases stmt <;> simp only [Statement.writesBadges, Bool.false_eq_true] at writes <;>
          simp only [Tables.apply, bind_ok, orFail_ok, require_ok, pure_ok] at applied
        case createAccreditation row zoneIds =>
          obtain ⟨_, _, accreditations, inserted, _, _, accreditationZones, granted, same⟩ := applied
          cases same
          -- The new badge is not the one in question, which was there before.
          have other : row.id ≠ id := by
            intro same
            exact issued
              (Table.find_insert_fresh inserted (selects_accreditationId id) (by simpa using same))
          simp [Tables.zoneIdsOf, Table.insertAll_rows granted, List.filter_append, List.filter_map, other]
        all_goals
          obtain ⟨_, _, same⟩ := applied
          cases same
          rfl

end Badges

/-! ## Complements and decisions -/

def Statement.writesComplements : Statement → Bool
  | .writeStatus w => w.complement.isSome
  | .resolveComplement .. => true
  | _ => false

theorem apply_complements {stmt : Statement} {t t' : Tables} {reply : stmt.Reply}
    (applied : t.apply stmt = .ok (reply, t')) (other : stmt.writesComplements = false) :
    t'.complements = t.complements := by
  cases stmt
  case writeStatus w =>
    simp only [Statement.writesComplements, Option.isSome_eq_false_iff, Option.isNone_iff_eq_none] at other
    simp only [Tables.apply, bind_ok, orFail_ok, pure_ok, other, Tables.addComplement, Except.ok.injEq] at applied
    grind
  all_goals
    simp only [Tables.apply, bind_ok, orFail_ok, require_ok, pure_ok, Except.ok.injEq, Prod.exists,
      Statement.writesComplements, reduceCtorEq] at applied other
    try grind

theorem complements_kept {stmt : Statement} (other : stmt.writesComplements = false) (db : Database) :
    (handle.after stmt db).complements = db.complements := by
  obtain same | ⟨reply, applied⟩ := after_cases stmt db
  · rw [same]
  · exact apply_complements applied other

/-- The rows a statement asks to append to the decisions. -/
def Statement.decided : Statement → List RequestDecision
  | .writeStatus w => w.decisions
  | _ => []

theorem apply_decisions {stmt : Statement} {t t' : Tables} {reply : stmt.Reply}
    (applied : t.apply stmt = .ok (reply, t')) : t'.decisions = t.decisions ++ stmt.decided := by
  cases stmt <;> simp only [Tables.apply, bind_ok, orFail_ok, require_ok, pure_ok, Except.ok.injEq,
    Prod.exists, Statement.decided, List.append_nil] at applied ⊢ <;> grind

theorem decisions_step (stmt : Statement) (db : Database) :
    (handle.after stmt db).decisions = db.decisions ++ stmt.decided ∨ handle.after stmt db = db := by
  obtain same | ⟨reply, applied⟩ := after_cases stmt db
  · exact .inr same
  · exact .inl (apply_decisions applied)

/-! ## Events -/

/-- What a statement asks to append to the events. -/
def Statement.published : Statement → List DomainEvent
  | .publish event => [event]
  | _ => []

theorem apply_events {stmt : Statement} {t t' : Tables} {reply : stmt.Reply}
    (applied : t.apply stmt = .ok (reply, t')) : t'.events = t.events ++ stmt.published := by
  cases stmt <;> simp only [Tables.apply, bind_ok, orFail_ok, require_ok, pure_ok, Except.ok.injEq,
    Prod.exists, Statement.published, List.append_nil] at applied ⊢ <;> grind

theorem events_kept {stmt : Statement} (silent : stmt.published = []) (db : Database) :
    (handle.after stmt db).events = db.events := by
  obtain same | ⟨reply, applied⟩ := after_cases stmt db
  · rw [same]
  · rw [apply_events applied, silent, List.append_nil]

/-! ## Scans and reference data -/

/-- The rows a statement asks to append to the scan log. -/
def Statement.scans : Statement → List ScanLog
  | .createScanLog row => [row]
  | _ => []

theorem apply_scans {stmt : Statement} {t t' : Tables} {reply : stmt.Reply}
    (applied : t.apply stmt = .ok (reply, t')) : t'.scanLogs = t.scanLogs ++ stmt.scans := by
  cases stmt <;> simp only [Tables.apply, bind_ok, orFail_ok, require_ok, pure_ok, Except.ok.injEq,
    Prod.exists, Statement.scans, List.append_nil] at applied ⊢ <;> grind

theorem scans_step (stmt : Statement) (db : Database) :
    (handle.after stmt db).scanLogs = db.scanLogs ++ stmt.scans ∨ handle.after stmt db = db := by
  obtain same | ⟨reply, applied⟩ := after_cases stmt db
  · exact .inr same
  · exact .inl (apply_scans applied)

/-- No statement removes or renames a match. -/
theorem apply_matchIds {stmt : Statement} {t t' : Tables} {reply : stmt.Reply}
    (applied : t.apply stmt = .ok (reply, t')) :
    t'.matchRows.column (·.id) = t.matchRows.column (·.id) := by
  cases stmt
  case updateMatch id dto =>
    simp only [Tables.apply, bind_ok, orFail_ok, require_ok, pure_ok] at applied
    obtain ⟨_, _, _, _, same⟩ := applied
    cases same
    exact Table.column_update _ _ _ dto.apply_key _ fun _ => rfl
  all_goals
    simp only [Tables.apply, bind_ok, orFail_ok, require_ok, pure_ok, Except.ok.injEq, Prod.exists] at applied
    grind

theorem matchIds_kept (stmt : Statement) (db : Database) :
    (handle.after stmt db).matchRows.column (·.id) = db.matchRows.column (·.id) := by
  obtain same | ⟨reply, applied⟩ := after_cases stmt db
  · rw [same]
  · exact apply_matchIds applied

inductive MatchStep (t : Tables) (id : Uuid) : Statement → Option Match → Option Match → Prop
  | updated {dto : UpdateMatchDto} {m : Match}
      (known : ∀ competitionId ∈ dto.competitionId, competitionId ∈ t.competitions) :
      MatchStep t id (.updateMatch id dto) (some m) (some (dto.apply m))
  | unchanged {stmt : Statement} {m : Option Match} : MatchStep t id stmt m m

theorem apply_match {stmt : Statement} {t t' : Tables} {reply : stmt.Reply}
    (applied : t.apply stmt = .ok (reply, t')) (id : Uuid) :
    MatchStep t id stmt (t.matchRows.find (·.id == id)) (t'.matchRows.find (·.id == id)) := by
  cases stmt
  case updateMatch other dto =>
    simp only [Tables.apply, bind_ok, orFail_ok, require_ok, pure_ok] at applied
    obtain ⟨_, _, _, known, same⟩ := applied
    cases same
    obtain ⟨m, found, hit, updated⟩ | same :=
      Table.find_update_cases t.matchRows (·.id == other) dto.apply dto.apply_key
        (·.id == id) fun _ => rfl
    · have named : id = other :=
        (beq_iff_eq.mp (Table.find_some_mem found).2).symm.trans (beq_iff_eq.mp hit)
      subst named
      rw [updated, found]
      exact .updated (by simpa using known)
    · rw [same]
      exact .unchanged
  all_goals
    have same : t'.matchRows = t.matchRows := by
      simp only [Tables.apply, bind_ok, orFail_ok, require_ok, pure_ok, Except.ok.injEq,
        Prod.exists] at applied
      grind
    rw [same]
    exact .unchanged

theorem match_step (stmt : Statement) (db : Database) (id : Uuid) :
    MatchStep db.toTables id stmt (db.matchRows.find (·.id == id))
      ((handle.after stmt db).matchRows.find (·.id == id)) := by
  obtain same | ⟨reply, applied⟩ := after_cases stmt db
  · rw [same]
    exact .unchanged
  · exact apply_match applied id

/-- The database accepts an update of a match that names a competition it has, or none. -/
theorem apply_updateMatch {t : Tables} {id : Uuid} {m : Match} (found : t.matchRows.find (·.id == id) = some m)
    {dto : UpdateMatchDto} (known : ∀ competitionId ∈ dto.competitionId, competitionId ∈ t.competitions) :
    t.apply (.updateMatch id dto) = .ok (dto.apply m,
      { t with matchRows := t.matchRows.update (·.id == id) dto.apply dto.apply_key }) := by
  simp only [Tables.apply, bind_ok, orFail_ok, require_ok, pure_ok, Prod.mk.injEq]
  exact ⟨m, found, (), by simpa using known, rfl, trivial⟩

/-- The tables that no statement writes. -/
structure SameReference (t t' : Tables) : Prop where
  users : t'.users = t.users
  competitions : t'.competitions = t.competitions
  media : t'.media = t.media
  requesters : t'.requesters = t.requesters
  categories : t'.categories = t.categories
  zones : t'.zones = t.zones

theorem apply_reference {stmt : Statement} {t t' : Tables} {reply : stmt.Reply}
    (applied : t.apply stmt = .ok (reply, t')) : SameReference t t' := by
  cases stmt <;> simp only [Tables.apply, bind_ok, orFail_ok, require_ok, pure_ok, Except.ok.injEq,
    Prod.exists] at applied <;> constructor <;> grind

theorem reference_kept (stmt : Statement) (db : Database) :
    SameReference db.toTables (handle.after stmt db).toTables := by
  obtain same | ⟨reply, applied⟩ := after_cases stmt db
  · rw [same]
    constructor <;> rfl
  · exact apply_reference applied

end AccreditationBackend
