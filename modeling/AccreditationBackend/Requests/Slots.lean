import AccreditationBackend.Requests.Freshness

/-! Slots held by requests against slots counted by the quotas.

The slack of a match and category is what its counter says beyond the requests
that hold a slot. A decision and a cancellation move counter and status in
separate statements; in between, the slack carries a debt of that one call.
-/

set_option autoImplicit false

namespace AccreditationBackend

open Foundation

def holdsFor (matchId categoryId : Uuid) (r : AccreditationRequest) : Bool :=
  r.matchId == matchId && r.categoryRequestedId == categoryId && r.status.holdsSlot

def AccreditationRequest.pair (r : AccreditationRequest) : Uuid × Uuid :=
  (r.matchId, r.categoryRequestedId)

/-- What a request of `pair` at `status` counts against the match and category. -/
def weight (matchId categoryId : Uuid) (pair : Uuid × Uuid) (status : RequestStatus) : Int :=
  if pair = (matchId, categoryId) ∧ status.holdsSlot = true then 1 else 0

section Counts

variable (t : Tables) (matchId categoryId : Uuid)

def Tables.holding : Nat := t.requests.count (holdsFor matchId categoryId)

/-- The counter of the pair; zero when no quota is configured. -/
def Tables.consumedOf : Int := ((t.quotaRow matchId categoryId).map (·.consumed)).getD 0

def Tables.slack : Int := t.consumedOf matchId categoryId - t.holding matchId categoryId

end Counts

def Statement.movesCounter : Statement → Bool
  | .reserve .. => true
  | .release _ => true
  | _ => false

def Still (stmt : Statement) : Prop := stmt.movesCounter = false

section Effects

variable {db : Database} {matchId categoryId : Uuid}

theorem onKey_quotaOf (matchId categoryId : Uuid) : Table.OnKey (quotaOf matchId categoryId) := by
  intro a b same
  have pair : (a.matchId, a.categoryId) = (b.matchId, b.categoryId) := congrArg Prod.snd same
  simp only [Prod.mk.injEq] at pair
  simp only [quotaOf, pair]

theorem consumedOf_still {stmt : Statement} (still : Still stmt) (db : Database) :
    (handle.after stmt db).consumedOf matchId categoryId = db.consumedOf matchId categoryId := by
  have step := quota_step (selects_quotaOf matchId categoryId) (onKey_quotaOf matchId categoryId) stmt db
  simp only [Tables.consumedOf, Tables.quotaRow]
  generalize db.quotas.find (quotaOf matchId categoryId) = a at step
  generalize (handle.after stmt db).quotas.find (quotaOf matchId categoryId) = b at step
  cases step with
  | created => rfl
  | edited pair => rfl
  | reserved room => cases still
  | released named => cases still
  | unchanged => rfl

theorem consumedOf_reserve (quotaId : Uuid) (limit : Nat) {q : MatchCategoryQuota}
    (row : db.quotaRow matchId categoryId = some q) :
    (handle.after (.reserve quotaId limit) db).consumedOf matchId categoryId =
      db.consumedOf matchId categoryId + if reservable quotaId limit q then 1 else 0 := by
  have found : db.quotas.find (quotaOf matchId categoryId) = some q := row
  simp only [Tables.consumedOf, Tables.quotaRow]
  rw [find_reserve quotaId limit db (onKey_quotaOf matchId categoryId), found]
  by_cases room : reservable quotaId limit q = true <;> simp [room, consume]

theorem consumedOf_release (quotaId : Uuid) {q : MatchCategoryQuota}
    (row : db.quotaRow matchId categoryId = some q) :
    (handle.after (.release quotaId) db).consumedOf matchId categoryId =
      db.consumedOf matchId categoryId - if q.id = quotaId then 1 else 0 := by
  have found : db.quotas.find (quotaOf matchId categoryId) = some q := row
  by_cases named : q.id = quotaId
  · have byId : db.quotas.find (·.id == quotaId) = some q :=
      (Table.find_some_iff (selects_quotaId quotaId)).mpr ⟨(Table.find_some_mem found).1, by simp [named]⟩
    simp only [Tables.consumedOf, Tables.quotaRow]
    rw [find_release byId (onKey_quotaOf matchId categoryId), found]
    simp [named, giveBack]
  · have step :=
      quota_step (selects_quotaOf matchId categoryId) (onKey_quotaOf matchId categoryId)
        (.release quotaId) db
    simp only [Tables.consumedOf, Tables.quotaRow]
    rw [found] at step ⊢
    generalize (handle.after (.release quotaId) db).quotas.find (quotaOf matchId categoryId) = b at step ⊢
    cases step with
    | released other => exact absurd other named
    | unchanged => simp [named]

theorem consumedOf_unconfigured {stmt : Statement} (missing : db.quotaRow matchId categoryId = none) :
    (handle.after stmt db).consumedOf matchId categoryId = 0 := by
  have step := quota_step (selects_quotaOf matchId categoryId) (onKey_quotaOf matchId categoryId) stmt db
  have found : db.quotas.find (quotaOf matchId categoryId) = none := missing
  rw [found] at step
  simp only [Tables.consumedOf, Tables.quotaRow]
  generalize (handle.after stmt db).quotas.find (quotaOf matchId categoryId) = b at step ⊢
  cases step with
  | created => rfl
  | unchanged => rfl

theorem holding_quiet {stmt : Statement} (quiet : Quiet stmt) (db : Database)
    (matchId categoryId : Uuid) :
    (handle.after stmt db).holding matchId categoryId = db.holding matchId categoryId := by
  simp only [Tables.holding, requests_kept quiet db]

theorem holding_created {row : AccreditationRequest} (draft : row.status = .draft) (db : Database) :
    (handle.after (.createRequest row) db).holding matchId categoryId =
      db.holding matchId categoryId := by
  rcases after_cases (.createRequest row) db with same | ⟨reply, applied⟩
  · rw [same]
  · simp only [Tables.apply, bind_ok, orFail_ok, require_ok, pure_ok, Prod.mk.injEq] at applied
    obtain ⟨_, _, requests, inserted, _, same⟩ := applied
    have free : holdsFor matchId categoryId row = false := by
      simp [holdsFor, draft, RequestStatus.holdsSlot, statusesWithReservedQuota]
    rw [← same]
    simp only [Tables.holding, Table.count_insert inserted, free, Bool.false_eq_true, if_false, Nat.add_zero]

theorem holding_edited {id categoryId' : Uuid} {logistics : Logistics}
    (draft : db.statusOf id = some .draft) :
    (handle.after (.editDraft id categoryId' logistics) db).holding matchId categoryId =
      db.holding matchId categoryId := by
  rcases after_cases (.editDraft id categoryId' logistics) db with same | ⟨reply, applied⟩
  · rw [same]
  · simp only [Tables.apply, bind_ok, orFail_ok, require_ok, pure_ok, Prod.mk.injEq] at applied
    obtain ⟨r, found, _, _, _, same⟩ := applied
    have unsent : r.status = .draft := by
      simpa [Tables.statusOf, Tables.requestById, found] using draft
    have counted := Table.count_update (redraft categoryId' logistics) (redraft_key categoryId' logistics)
      (selects_requestId id) found (holdsFor matchId categoryId)
    have before : holdsFor matchId categoryId r = false := by
      simp [holdsFor, unsent, RequestStatus.holdsSlot, statusesWithReservedQuota]
    have after : holdsFor matchId categoryId (redraft categoryId' logistics r) = false := by
      simp [holdsFor, redraft, Logistics.apply, unsent, RequestStatus.holdsSlot, statusesWithReservedQuota]
    rw [← same]
    simpa [Tables.holding, before, after] using counted

theorem handle_written {w : StatusWrite} {r : AccreditationRequest}
    (found : db.requestById w.requestId = some r) (alone : w.complement = none) :
    handle (.writeStatus w) db = .ok (w.apply r, handle.after (.writeStatus w) db) := by
  have loaded : db.requests.find (·.id == w.requestId) = some r := found
  exact handle_replies rfl (by rw [Tables.apply, loaded, alone]; rfl)

theorem holdsFor_weight (matchId categoryId : Uuid) (r : AccreditationRequest) :
    (if holdsFor matchId categoryId r = true then 1 else 0 : Int) =
      weight matchId categoryId r.pair r.status := by
  simp only [holdsFor, weight, AccreditationRequest.pair, Bool.and_eq_true, beq_iff_eq, Prod.mk.injEq]

/-- A status write moves the weight of its one request. -/
theorem slack_moved {w : StatusWrite} {r reply : AccreditationRequest} {db' : Database}
    (found : db.requestById w.requestId = some r)
    (written : handle (.writeStatus w) db = .ok (reply, db')) :
    db'.slack matchId categoryId =
      db.slack matchId categoryId + weight matchId categoryId r.pair r.status -
        weight matchId categoryId r.pair w.target := by
  have still : Still (.writeStatus w) := rfl
  have loaded : db.requests.find (·.id == w.requestId) = some r := found
  have counted := Table.count_update w.apply w.apply_key (selects_requestId w.requestId) loaded
    (holdsFor matchId categoryId)
  have before := holdsFor_weight matchId categoryId r
  have after : (if holdsFor matchId categoryId (w.apply r) = true then 1 else 0 : Int) =
      weight matchId categoryId r.pair w.target := holdsFor_weight matchId categoryId (w.apply r)
  have consumed : db'.consumedOf matchId categoryId = db.consumedOf matchId categoryId := by
    rw [← handle.after_ok written]
    exact consumedOf_still still db
  have applied := handle_ok written
  simp only [Tables.apply, bind_ok, orFail_ok, pure_ok, Prod.mk.injEq] at applied
  obtain ⟨_, _, _, _, _, same⟩ := applied
  rw [Tables.slack, Tables.slack, consumed, ← before, ← after, ← same]
  simp only [Tables.holding]
  split at counted <;> split at counted <;> simp_all <;> omega

end Effects

end AccreditationBackend
