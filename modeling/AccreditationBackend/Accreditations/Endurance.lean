import AccreditationBackend.System.Operations

/-! What no operation ever changes about a badge.

Once issued, a badge keeps its request, its token, its zones and its expiry, and
its request keeps its match. Only its status moves, and only to REVOKED.
-/

set_option autoImplicit false

namespace AccreditationBackend

open Foundation

/-- The badge `a`, perhaps revoked or with other assignments. -/
structure SameBadge (a b : Accreditation) : Prop where
  id : b.id = a.id
  requestId : b.requestId = a.requestId
  qrTokenHash : b.qrTokenHash = a.qrTokenHash
  expiresAt : b.expiresAt = a.expiresAt
  status : b.status = a.status ∨ b.status = .revoked

theorem SameBadge.refl (a : Accreditation) : SameBadge a a := ⟨rfl, rfl, rfl, rfl, .inl rfl⟩

theorem SameBadge.trans {a b c : Accreditation} (first : SameBadge a b) (second : SameBadge b c) :
    SameBadge a c where
  id := second.id.trans first.id
  requestId := second.requestId.trans first.requestId
  qrTokenHash := second.qrTokenHash.trans first.qrTokenHash
  expiresAt := second.expiresAt.trans first.expiresAt
  status := by
    rcases second.status with same | revoked
    · rw [same]
      exact first.status
    · exact .inr revoked

theorem SameBadge.revoked {a b : Accreditation} (same : SameBadge a b) (revoked : a.status = .revoked) :
    b.status = .revoked := by
  rcases same.status with kept | revoked'
  · rw [kept, revoked]
  · exact revoked'

/-- Every badge of the first store is in the second one. -/
structure Endures (s t : Database) : Prop where
  badge : ∀ id a, s.accreditationById id = some a → ∃ b, t.accreditationById id = some b ∧ SameBadge a b
  zones : ∀ id, s.accreditationById id ≠ none → t.zoneIdsOf id = s.zoneIdsOf id
  request : ∀ id r, s.requestById id = some r → ∃ r', t.requestById id = some r' ∧ r'.matchId = r.matchId

theorem Endures.refl (s : Database) : Endures s s where
  badge _ a found := ⟨a, found, .refl a⟩
  zones _ _ := rfl
  request _ r found := ⟨r, found, rfl⟩

theorem Endures.trans {s t u : Database} (first : Endures s t) (second : Endures t u) : Endures s u where
  badge id a found := by
    obtain ⟨b, foundB, sameB⟩ := first.badge id a found
    obtain ⟨c, foundC, sameC⟩ := second.badge id b foundB
    exact ⟨c, foundC, sameB.trans sameC⟩
  zones id issued := by
    obtain ⟨a, found⟩ := Option.ne_none_iff_exists'.mp issued
    obtain ⟨b, foundB, _⟩ := first.badge id a found
    rw [second.zones id (by simp [foundB]), first.zones id issued]
  request id r found := by
    obtain ⟨r', found', same'⟩ := first.request id r found
    obtain ⟨r'', found'', same''⟩ := second.request id r' found'
    exact ⟨r'', found'', same''.trans same'⟩

theorem onKey_accreditationId (id : Uuid) : Table.OnKey (ρ := Accreditation) (·.id == id) := by
  intro a b same
  have ids : a.id = b.id := congrArg Prod.fst same
  simp only [ids]

theorem endures_step (stmt : Statement) (db : Database) : Endures db (handle.after stmt db) where
  badge id a found := by
    have step := badge_step (selects_accreditationId id) (onKey_accreditationId id) stmt db
    unfold Tables.accreditationById at found ⊢
    rw [found] at step
    generalize (handle.after stmt db).accreditations.find (·.id == id) = b at step
    cases step with
    | assigned named => exact ⟨_, rfl, ⟨rfl, rfl, rfl, rfl, .inl rfl⟩⟩
    | revoked named => exact ⟨_, rfl, ⟨rfl, rfl, rfl, rfl, .inr rfl⟩⟩
    | unchanged => exact ⟨a, rfl, .refl a⟩
  zones _ issued := zones_kept stmt db issued
  request id r found := by
    have step := request_step stmt db id
    rw [found] at step
    generalize (handle.after stmt db).requestById id = b at step
    cases step with
    | edited named => exact ⟨_, rfl, rfl⟩
    | written named => exact ⟨_, rfl, rfl⟩
    | unchanged => exact ⟨r, rfl, rfl⟩

theorem run_endures (services : Services) (start : Database) (ops : List Operation) :
    Endures start (runFrom (perform services) start ops) :=
  run_relates services Endures.refl (fun _ _ _ => Endures.trans) endures_step start ops

/-! ## Lookups by token -/

theorem byHash_iff {t : Tables} {hash : String} {a : Accreditation} :
    t.accreditationByHash hash = some a ↔ t.accreditationById a.id = some a ∧ a.qrTokenHash = hash := by
  unfold Tables.accreditationByHash Tables.accreditationById
  rw [Table.find_some_iff (selects_tokenHash hash), Table.find_some_iff (selects_accreditationId a.id)]
  simp only [beq_iff_eq, and_true]

theorem Endures.byHash {s t : Database} (endures : Endures s t) {hash : String} {a : Accreditation}
    (found : s.accreditationByHash hash = some a) :
    ∃ b, t.accreditationByHash hash = some b ∧ SameBadge a b := by
  obtain ⟨byId, token⟩ := byHash_iff.mp found
  obtain ⟨b, foundB, same⟩ := endures.badge a.id a byId
  exact ⟨b, byHash_iff.mpr ⟨by rw [same.id]; exact foundB, same.qrTokenHash.trans token⟩, same⟩

/-! ## The rows a badge refers to -/

theorem requestDetail_found (db : Database) {id : Uuid} {r : AccreditationRequest}
    (found : db.requestById id = some r) :
    ∃ detail, db.requestDetail id = some detail ∧ detail.request = r := by
  -- Each relation of the request is declared, so no join comes back empty.
  have stored := (Table.find_some_mem found).1
  have sound := db.referential
  obtain ⟨requester, requesterFound⟩ := Table.find_of_column
    (sound.request_requester (List.mem_map_of_mem stored))
  obtain ⟨media, mediaFound⟩ := Table.find_of_column
    (sound.requester_media (List.mem_map_of_mem (Table.find_some_mem requesterFound).1))
  obtain ⟨m, matchFound⟩ := Table.find_of_column (sound.request_match (List.mem_map_of_mem stored))
  obtain ⟨category, categoryFound⟩ :=
    Table.find_of_column (sound.request_category (List.mem_map_of_mem stored))
  refine ⟨⟨r, requester, media, m, category⟩, ?_, rfl⟩
  simp only [Tables.requestDetail, found, requesterFound, mediaFound, matchFound, categoryFound,
    Option.bind_eq_bind, Option.bind_some, Option.pure_def]

theorem requestDetail_parts {t : Tables} {id : Uuid} {detail : RequestDetail}
    (found : t.requestDetail id = some detail) :
    t.requestById id = some detail.request ∧ t.matchRows.find (·.id == detail.request.matchId) =
      some detail.matchRow := by
  simp only [Tables.requestDetail, Option.bind_eq_bind, Option.bind_eq_some_iff, Option.pure_def,
    Option.some.injEq] at found
  obtain ⟨r, request, _, _, _, _, m, matchFound, _, _, rfl⟩ := found
  exact ⟨request, matchFound⟩

theorem accreditationDetail_found (db : Database) {id : Uuid} {a : Accreditation}
    (found : db.accreditationById id = some a) :
    ∃ detail, db.accreditationDetail id = some detail ∧ detail.accreditation = a ∧
      detail.zoneIds = db.zoneIdsOf id ∧
      db.requestById a.requestId = some detail.request.request := by
  obtain ⟨r, request⟩ := Table.find_of_column
    (db.referential.accreditation_request (List.mem_map_of_mem (Table.find_some_mem found).1))
  obtain ⟨joined, joinedFound, rfl⟩ := requestDetail_found db request
  refine ⟨⟨a, db.zoneIdsOf id, db.zoneLabelsOf id, joined⟩, ?_, rfl, rfl, request⟩
  simp only [Tables.accreditationDetail, found, joinedFound, Option.bind_eq_bind, Option.bind_some,
    Option.pure_def]

end AccreditationBackend
