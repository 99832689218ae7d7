import AccreditationBackend.Store.Statements

/-! Every statement keeps the foreign keys, so the handler acts on databases. -/

set_option autoImplicit false

namespace AccreditationBackend

open Foundation (Table Handler Proc)

section Outcomes

variable {A B : Type}

@[simp] theorem bind_ok {x : Except Failure A} {f : A → Except Failure B} {b : B} :
    (x >>= f) = .ok b ↔ ∃ a, x = .ok a ∧ f a = .ok b := by
  cases x with
  | ok a =>
      constructor
      · exact fun replied => ⟨a, rfl, replied⟩
      · rintro ⟨_, same, replied⟩
        cases same
        exact replied
  | error why =>
      constructor
      · intro impossible
        cases impossible
      · rintro ⟨_, impossible, _⟩
        cases impossible

@[simp] theorem orFail_ok {found : Option A} {why : Failure} {a : A} :
    orFail found why = .ok a ↔ found = some a := by
  cases found <;> simp [orFail]

@[simp] theorem require_ok {p : Prop} [Decidable p] {why : Failure} {u : Unit} :
    require p why = .ok u ↔ p := by
  unfold require
  split <;> simp_all

@[simp] theorem pure_ok {a b : A} : (pure a : Except Failure A) = .ok b ↔ a = b :=
  ⟨Except.ok.inj, congrArg _⟩

end Outcomes

/-! ## Columns under the writes -/

section Columns

variable {ρ β : Type} [Foundation.Keyed ρ] {t : Table ρ}

theorem subset_column_insert {t' : Table ρ} {row : ρ} (inserted : t.insert row = some t') (c : ρ → β) :
    t.column c ⊆ t'.column c := by
  rw [Table.column_insert inserted]
  exact List.subset_append_left _ _

theorem column_insert_subset {t' : Table ρ} {row : ρ} (inserted : t.insert row = some t') (c : ρ → β)
    {values : List β} (rows : t.column c ⊆ values) (last : c row ∈ values) : t'.column c ⊆ values := by
  rw [Table.column_insert inserted]
  exact List.append_subset.mpr ⟨rows, by simpa using last⟩

theorem column_insertAll_subset {t' : Table ρ} {rows : List ρ}
    (inserted : t.insertAll rows = some t') (c : ρ → β) {values : List β}
    (old : t.column c ⊆ values) (fresh : ∀ row ∈ rows, c row ∈ values) :
    t'.column c ⊆ values := by
  rw [Table.column_insertAll inserted]
  refine List.append_subset.mpr ⟨old, fun value member => ?_⟩
  obtain ⟨row, inside, rfl⟩ := List.mem_map.mp member
  exact fresh row inside

section Update

variable {q : ρ → Bool} {f : ρ → ρ} {same : ∀ r, Foundation.Keyed.key (f r) = Foundation.Keyed.key r}

theorem column_update_subset (c : ρ → β) {values : List β} (old : t.column c ⊆ values)
    (written : ∀ r ∈ t.rows, q r = true → c (f r) ∈ values) : (t.update q f same).column c ⊆ values := by
  intro value member
  obtain ⟨row, inside, rfl⟩ := List.mem_map.mp member
  obtain ⟨before, beforeInside, rfl⟩ := (Table.mem_update _ _ _ _).mp inside
  split
  next selected => exact written before beforeInside selected
  next => exact old (List.mem_map_of_mem beforeInside)

theorem column_kept_subset (c : ρ → β) {values : List β} (kept : ∀ r, c (f r) = c r)
    (old : t.column c ⊆ values) : (t.update q f same).column c ⊆ values := by
  rw [Table.column_update t q f same c kept]
  exact old

theorem subset_column_kept (c : ρ → β) (kept : ∀ r, c (f r) = c r) :
    t.column c ⊆ (t.update q f same).column c := by
  rw [Table.column_update t q f same c kept]
  exact List.Subset.refl _

end Update

theorem column_delete_subset (q : ρ → Bool) (c : ρ → β) : (t.delete q).column c ⊆ t.column c :=
  List.map_subset _ (List.filter_sublist.subset)

end Columns

theorem addComplement_keeps {t : Tables} {c : Option RequestComplement}
    {complements : Table RequestComplement} (added : t.addComplement c = .ok complements)
    (keeps : t.complements.column (·.requestId) ⊆ t.requests.column (·.id)) :
    complements.column (·.requestId) ⊆ t.requests.column (·.id) := by
  cases c with
  | none => cases added; exact keeps
  | some c =>
      simp only [Tables.addComplement, bind_ok, require_ok, orFail_ok] at added
      obtain ⟨_, member, inserted⟩ := added
      exact column_insert_subset inserted _ keeps member

/-- What an upsert leaves: the pair's row updated in place, or one row more. -/
theorem upsertQuota_cases {t : Tables} {freshId matchId : Uuid} {dto : SetQuotaDto}
    {q : MatchCategoryQuota} {quotas : Table MatchCategoryQuota}
    (upserted : t.upsertQuota freshId matchId dto = .ok (q, quotas)) :
    (∃ old, t.quotas.find (quotaOf matchId dto.categoryId) = some old ∧ q = dto.update old ∧
      quotas = t.quotas.update (quotaOf matchId dto.categoryId) dto.update dto.update_key) ∨
    (t.quotas.find (quotaOf matchId dto.categoryId) = none ∧ q = dto.create freshId matchId ∧
      (matchId ∈ t.matchRows.column (·.id) ∧ dto.categoryId ∈ t.categories.column (·.id)) ∧
      t.quotas.insert q = some quotas) := by
  unfold Tables.upsertQuota at upserted
  cases found : t.quotas.find (quotaOf matchId dto.categoryId) with
  | some old =>
      rw [found] at upserted
      cases upserted
      exact .inl ⟨old, rfl, rfl, rfl⟩
  | none =>
      rw [found] at upserted
      simp only [bind_ok, require_ok, orFail_ok, pure_ok, Prod.mk.injEq] at upserted
      obtain ⟨_, references, quotas, inserted, rfl, rfl⟩ := upserted
      exact .inr ⟨rfl, rfl, references, inserted⟩

/-- The row an upsert returns is in the table it leaves. -/
theorem upsertQuota_mem {t : Tables} {freshId matchId : Uuid} {dto : SetQuotaDto} {q : MatchCategoryQuota}
    {quotas : Table MatchCategoryQuota} (upserted : t.upsertQuota freshId matchId dto = .ok (q, quotas)) :
    q ∈ quotas.rows := by
  obtain ⟨old, found, rfl, rfl⟩ | ⟨_, rfl, _, inserted⟩ := upsertQuota_cases upserted
  · obtain ⟨member, selected⟩ := Table.find_some_mem found
    exact (Table.mem_update _ _ _ _).mpr ⟨old, member, by simp [selected]⟩
  · simp [Table.insert_rows inserted]

theorem upsertQuota_ids {t : Tables} {freshId matchId : Uuid} {dto : SetQuotaDto} {q : MatchCategoryQuota}
    {quotas : Table MatchCategoryQuota} (upserted : t.upsertQuota freshId matchId dto = .ok (q, quotas)) :
    t.quotas.column (·.id) ⊆ quotas.column (·.id) := by
  obtain ⟨old, _, _, rfl⟩ | ⟨_, _, _, inserted⟩ := upsertQuota_cases upserted
  · exact subset_column_kept _ fun _ => rfl
  · exact subset_column_insert inserted _

theorem upsertQuota_keeps {t : Tables} {freshId matchId : Uuid} {dto : SetQuotaDto}
    {q : MatchCategoryQuota} {quotas : Table MatchCategoryQuota}
    (upserted : t.upsertQuota freshId matchId dto = .ok (q, quotas)) (sound : Referential t) :
    quotas.column (·.matchId) ⊆ t.matchRows.column (·.id) ∧
      quotas.column (·.categoryId) ⊆ t.categories.column (·.id) := by
  obtain ⟨old, _, _, rfl⟩ | ⟨_, rfl, references, inserted⟩ := upsertQuota_cases upserted
  · exact ⟨column_kept_subset _ (fun _ => rfl) sound.quota_match,
      column_kept_subset _ (fun _ => rfl) sound.quota_category⟩
  · exact ⟨column_insert_subset inserted _ sound.quota_match references.1,
      column_insert_subset inserted _ sound.quota_category references.2⟩

/-! ## Foreign keys after a write -/

section Referential

variable {t : Tables} (sound : Referential t)

include sound

theorem Referential.requests {requests : Table AccreditationRequest}
    (ids : t.requests.column (·.id) ⊆ requests.column (·.id))
    (requester : requests.column (·.requesterId) ⊆ t.requesters.column (·.id))
    (matchRow : requests.column (·.matchId) ⊆ t.matchRows.column (·.id))
    (category : requests.column (·.categoryRequestedId) ⊆ t.categories.column (·.id)) :
    Referential { t with requests } :=
  { sound with
    request_requester := requester
    request_match := matchRow
    request_category := category
    complement_request := List.Subset.trans sound.complement_request ids
    decision_request := List.Subset.trans sound.decision_request ids
    accreditation_request := List.Subset.trans sound.accreditation_request ids }

theorem Referential.quotas {quotas : Table MatchCategoryQuota}
    (ids : t.quotas.column (·.id) ⊆ quotas.column (·.id))
    (matchRow : quotas.column (·.matchId) ⊆ t.matchRows.column (·.id))
    (category : quotas.column (·.categoryId) ⊆ t.categories.column (·.id)) :
    Referential { t with quotas } :=
  { sound with
    quota_match := matchRow
    quota_category := category
    quotaZone_quota := List.Subset.trans sound.quotaZone_quota ids }

/-- An update of quota rows in place. -/
theorem Referential.updateQuotas (q : MatchCategoryQuota → Bool)
    (f : MatchCategoryQuota → MatchCategoryQuota)
    (same : ∀ r, Foundation.Keyed.key (f r) = Foundation.Keyed.key r) :
    Referential { t with quotas := t.quotas.update q f same } := by
  have ids (r : MatchCategoryQuota) : (f r).id = r.id := congrArg Prod.fst (same r)
  have matchRow (r : MatchCategoryQuota) : (f r).matchId = r.matchId := congrArg (·.2.1) (same r)
  have category (r : MatchCategoryQuota) : (f r).categoryId = r.categoryId := congrArg (·.2.2) (same r)
  exact sound.quotas (subset_column_kept _ ids) (column_kept_subset _ matchRow sound.quota_match)
    (column_kept_subset _ category sound.quota_category)

theorem Referential.accreditations {accreditations : Table Accreditation}
    (ids : t.accreditations.column (·.id) ⊆ accreditations.column (·.id))
    (request : accreditations.column (·.requestId) ⊆ t.requests.column (·.id)) :
    Referential { t with accreditations } :=
  { sound with
    accreditation_request := request
    accreditationZone_accreditation := List.Subset.trans sound.accreditationZone_accreditation ids
    scan_accreditation := List.Subset.trans sound.scan_accreditation ids }

/-- An update of badge rows in place. -/
theorem Referential.updateAccreditations (q : Accreditation → Bool) (f : Accreditation → Accreditation)
    (same : ∀ r, Foundation.Keyed.key (f r) = Foundation.Keyed.key r) :
    Referential { t with accreditations := t.accreditations.update q f same } := by
  have ids (r : Accreditation) : (f r).id = r.id := congrArg Prod.fst (same r)
  have request (r : Accreditation) : (f r).requestId = r.requestId := congrArg (·.2.1) (same r)
  exact sound.accreditations (subset_column_kept _ ids)
    (column_kept_subset _ request sound.accreditation_request)

theorem Referential.createRequest {row : AccreditationRequest}
    {requests : Table AccreditationRequest}
    (requester : row.requesterId ∈ t.requesters.column (·.id))
    (matchRow : row.matchId ∈ t.matchRows.column (·.id))
    (category : row.categoryRequestedId ∈ t.categories.column (·.id))
    (inserted : t.requests.insert row = some requests) :
    Referential { t with requests } :=
  sound.requests (subset_column_insert inserted _)
    (column_insert_subset inserted _ sound.request_requester requester)
    (column_insert_subset inserted _ sound.request_match matchRow)
    (column_insert_subset inserted _ sound.request_category category)

theorem Referential.editDraft (id : Uuid) {categoryId : Uuid} (logistics : Logistics)
    (category : categoryId ∈ t.categories.column (·.id)) :
    Referential { t with
      requests := t.requests.update (·.id == id) (redraft categoryId logistics)
        (redraft_key categoryId logistics) } :=
  sound.requests (subset_column_kept _ fun _ => rfl)
    (column_kept_subset _ (fun _ => rfl) sound.request_requester)
    (column_kept_subset _ (fun _ => rfl) sound.request_match)
    (column_update_subset _ sound.request_category fun _ _ _ => category)

theorem Referential.writeStatus {w : StatusWrite} {r : AccreditationRequest}
    {complements : Table RequestComplement} (found : t.requests.find (·.id == w.requestId) = some r)
    (added : t.addComplement w.complement = .ok complements) :
    Referential { t with
      requests := t.requests.update (·.id == w.requestId) w.apply w.apply_key
      complements
      decisions := t.decisions ++ w.decisions } := by
  -- The decision rows refer to the request that was found.
  have requested : w.requestId ∈ t.requests.column (·.id) := by
    obtain ⟨member, same⟩ := Table.find_some_mem found
    exact List.mem_map.mpr ⟨r, member, beq_iff_eq.mp same⟩
  have ids : t.requests.column (·.id) ⊆
      (t.requests.update (·.id == w.requestId) w.apply w.apply_key).column (·.id) :=
    subset_column_kept _ fun _ => rfl
  have decided : w.decisions.map (·.requestId) ⊆ t.requests.column (·.id) := by
    intro value member
    simp only [StatusWrite.decisions, List.map_map, List.mem_map, Function.comp_apply] at member
    obtain ⟨_, _, rfl⟩ := member
    exact requested
  have written := sound.requests ids (column_kept_subset _ (fun _ => rfl) sound.request_requester)
    (column_kept_subset _ (fun _ => rfl) sound.request_match)
    (column_kept_subset _ (fun _ => rfl) sound.request_category)
  exact { written with
    complement_request := List.Subset.trans (addComplement_keeps added sound.complement_request) ids
    decision_request := by
      rw [List.map_append]
      exact List.append_subset.mpr ⟨List.Subset.trans sound.decision_request ids, List.Subset.trans decided ids⟩ }

theorem Referential.resolveComplement (id : Uuid) (resolvedAt : Time) :
    Referential { t with
      complements := t.complements.update (·.id == id) (resolve resolvedAt)
        (resolve_key resolvedAt) } := by
  have kept : (t.complements.update (·.id == id) (resolve resolvedAt) (resolve_key resolvedAt)).column
      (·.requestId) ⊆ t.requests.column (·.id) :=
    column_kept_subset _ (fun _ => rfl) sound.complement_request
  exact { sound with complement_request := kept }

theorem Referential.setQuota {freshId matchId : Uuid} {dto : SetQuotaDto} {q : MatchCategoryQuota}
    {quotas : Table MatchCategoryQuota} {quotaZones : Table MatchCategoryQuotaZone}
    (upserted : t.upsertQuota freshId matchId dto = .ok (q, quotas))
    (zones : ∀ zoneId ∈ dto.zoneIds, zoneId ∈ t.zones.column (·.id))
    (inserted : (t.quotaZones.delete (·.quotaId == q.id)).insertAll
      (dto.zoneIds.map fun zoneId => ⟨q.id, zoneId⟩) = some quotaZones) :
    Referential { t with quotas, quotaZones } := by
  have kept := upsertQuota_keeps upserted sound
  have ids := upsertQuota_ids upserted
  -- The new zones refer to the row that the upsert returned.
  have row : q.id ∈ quotas.column (·.id) := List.mem_map_of_mem (upsertQuota_mem upserted)
  exact { sound.quotas ids kept.1 kept.2 with
    quotaZone_quota := by
      refine column_insertAll_subset inserted _ ?_ ?_
      · exact List.Subset.trans (column_delete_subset _ _) (List.Subset.trans sound.quotaZone_quota ids)
      · simp only [List.mem_map]
        rintro _ ⟨_, _, rfl⟩
        exact row
    quotaZone_zone := by
      refine column_insertAll_subset inserted _ ?_ ?_
      · exact List.Subset.trans (column_delete_subset _ _) sound.quotaZone_zone
      · simp only [List.mem_map]
        rintro _ ⟨zoneId, named, rfl⟩
        exact zones zoneId named }

theorem Referential.createAccreditation {row : Accreditation} {zoneIds : List Uuid}
    {accreditations : Table Accreditation} {accreditationZones : Table AccreditationZone}
    (request : row.requestId ∈ t.requests.column (·.id))
    (inserted : t.accreditations.insert row = some accreditations)
    (zones : ∀ zoneId ∈ zoneIds, zoneId ∈ t.zones.column (·.id))
    (granted : t.accreditationZones.insertAll (zoneIds.map fun zoneId => ⟨row.id, zoneId⟩) =
      some accreditationZones) :
    Referential { t with accreditations, accreditationZones } := by
  have ids := subset_column_insert inserted (·.id)
  -- The granted zones refer to the badge inserted before them.
  have fresh : row.id ∈ accreditations.column (·.id) := by simp [Table.column_insert inserted]
  exact { sound.accreditations ids (column_insert_subset inserted _ sound.accreditation_request request) with
    accreditationZone_accreditation := by
      refine column_insertAll_subset granted _
        (List.Subset.trans sound.accreditationZone_accreditation ids) ?_
      simp only [List.mem_map]
      rintro _ ⟨_, _, rfl⟩
      exact fresh
    accreditationZone_zone := by
      refine column_insertAll_subset granted _ sound.accreditationZone_zone ?_
      simp only [List.mem_map]
      rintro _ ⟨zoneId, named, rfl⟩
      exact zones zoneId named }

theorem Referential.updateMatch (id : Uuid) {dto : UpdateMatchDto}
    (competition : ∀ competitionId ∈ dto.competitionId.toList, competitionId ∈ t.competitions) :
    Referential { t with matchRows := t.matchRows.update (·.id == id) dto.apply dto.apply_key } := by
  have ids : t.matchRows.column (·.id) ⊆
      (t.matchRows.update (·.id == id) dto.apply dto.apply_key).column (·.id) :=
    subset_column_kept _ fun _ => rfl
  have competitions : (t.matchRows.update (·.id == id) dto.apply dto.apply_key).column (·.competitionId) ⊆
      t.competitions := by
    refine column_update_subset _ sound.match_competition fun row inside _ => ?_
    cases named : dto.competitionId with
    | none =>
        simpa [UpdateMatchDto.apply, named] using sound.match_competition (List.mem_map_of_mem inside)
    | some competitionId =>
        simpa [UpdateMatchDto.apply, named] using competition competitionId (by simp [named])
  exact { sound with
    match_competition := competitions
    quota_match := List.Subset.trans sound.quota_match ids
    request_match := List.Subset.trans sound.request_match ids
    scan_match := List.Subset.trans sound.scan_match ids }

theorem Referential.createScanLog {row : ScanLog}
    (badge : ∀ id ∈ row.accreditationId.toList, id ∈ t.accreditations.column (·.id))
    (matchRow : row.matchId ∈ t.matchRows.column (·.id))
    (zone : ∀ id ∈ row.zoneId.toList, id ∈ t.zones.column (·.id))
    (agent : row.scannedById ∈ t.users) : Referential { t with scanLogs := t.scanLogs ++ [row] } :=
  { sound with
    scan_accreditation := by
      rw [List.filterMap_append]
      refine List.append_subset.mpr ⟨sound.scan_accreditation, fun id member => badge id ?_⟩
      simpa using member
    scan_match := by
      rw [List.map_append]
      exact List.append_subset.mpr ⟨sound.scan_match, by simpa using matchRow⟩
    scan_zone := by
      rw [List.filterMap_append]
      refine List.append_subset.mpr ⟨sound.scan_zone, fun id member => zone id ?_⟩
      simpa using member
    scan_agent := by
      rw [List.map_append]
      exact List.append_subset.mpr ⟨sound.scan_agent, by simpa using agent⟩ }

end Referential

/-- Every statement that is not refused leaves each foreign key in place. -/
theorem apply_referential {stmt : Statement} {t t' : Tables} {reply : stmt.Reply} (sound : Referential t)
    (applied : t.apply stmt = .ok (reply, t')) : Referential t' := by
  cases stmt <;> simp only [Tables.apply, bind_ok, orFail_ok, require_ok, pure_ok, Except.ok.injEq,
    Prod.exists] at applied
  case publish event =>
    cases applied
    exact { sound with }
  case createRequest row =>
    obtain ⟨_, ⟨requester, matchRow, category⟩, requests, inserted, same⟩ := applied
    cases same
    exact sound.createRequest requester matchRow category inserted
  case editDraft id categoryId logistics =>
    obtain ⟨_, _, _, category, same⟩ := applied
    cases same
    exact sound.editDraft id logistics category
  case writeStatus w =>
    obtain ⟨_, found, _, added, same⟩ := applied
    cases same
    exact sound.writeStatus found added
  case resolveComplement id resolvedAt =>
    obtain ⟨_, _, same⟩ := applied
    cases same
    exact sound.resolveComplement id resolvedAt
  case setQuota freshId matchId dto =>
    obtain ⟨q, quotas, upserted, _, zones, quotaZones, inserted, same⟩ := applied
    cases same
    exact sound.setQuota upserted zones inserted
  case reserve quotaId limit =>
    cases applied
    exact sound.updateQuotas _ _ _
  case release quotaId =>
    obtain ⟨_, _, same⟩ := applied
    cases same
    exact sound.updateQuotas _ _ _
  case createAccreditation row zoneIds =>
    obtain ⟨_, request, _, inserted, _, zones, _, granted, same⟩ := applied
    cases same
    exact sound.createAccreditation request inserted zones granted
  case updateAssignments id input =>
    obtain ⟨_, _, same⟩ := applied
    cases same
    exact sound.updateAccreditations _ _ _
  case revoke id revokedAt revokedById reason =>
    obtain ⟨_, _, same⟩ := applied
    cases same
    exact sound.updateAccreditations _ _ _
  case updateMatch id dto =>
    obtain ⟨_, _, _, competition, same⟩ := applied
    cases same
    exact sound.updateMatch id competition
  case countUses accreditationId zoneId =>
    cases applied
    exact sound
  case createScanLog row =>
    obtain ⟨_, ⟨badge, matchRow, zone, agent⟩, same⟩ := applied
    cases same
    exact sound.createScanLog badge matchRow zone agent

/-! ## The handler -/

/-- A number out of range is refused before the tables are looked at. -/
def handle : Handler store Database Failure := fun stmt db =>
  if stmt.fits then
    match applied : db.toTables.apply stmt with
    | .ok (reply, t) => .ok (reply, ⟨t, apply_referential db.referential applied⟩)
    | .error why => .error why
  else .error .outOfRange

theorem handle_iff {stmt : Statement} {db db' : Database} {reply : stmt.Reply} :
    handle stmt db = .ok (reply, db') ↔ stmt.fits = true ∧ db.toTables.apply stmt = .ok (reply, db'.toTables) := by
  unfold handle
  by_cases fits : stmt.fits = true
  · rw [if_pos fits]
    split
    next reply' t applied =>
      constructor
      · intro same
        cases same
        exact ⟨fits, applied⟩
      · rintro ⟨_, same⟩
        have both := applied.symm.trans same
        simp only [Except.ok.injEq, Prod.mk.injEq] at both
        obtain ⟨rfl, rfl⟩ := both
        rfl
    next why applied =>
      constructor
      · intro impossible
        cases impossible
      · rintro ⟨_, same⟩
        cases applied.symm.trans same
  · rw [if_neg fits]
    constructor
    · intro impossible
      cases impossible
    · exact fun both => absurd both.1 fits

/-- What the handler answers, the tables have accepted. -/
theorem handle_ok {stmt : Statement} {db db' : Database} {reply : stmt.Reply}
    (replied : handle stmt db = .ok (reply, db')) : db.toTables.apply stmt = .ok (reply, db'.toTables) :=
  (handle_iff.mp replied).2

theorem handle_fits {stmt : Statement} {db db' : Database} {reply : stmt.Reply}
    (replied : handle stmt db = .ok (reply, db')) : stmt.fits = true := (handle_iff.mp replied).1

/-- A statement whose numbers do not fit changes nothing. -/
theorem after_unfit {stmt : Statement} (unfit : stmt.fits = false) (db : Database) :
    handle.after stmt db = db := by
  have refused : handle stmt db = .error .outOfRange := by rw [handle, unfit, if_neg Bool.false_ne_true]
  exact handle.after_error refused

section Applied

variable {stmt : Statement} {db : Database} {reply : stmt.Reply} {t : Tables} (fits : stmt.fits = true)
  (applied : db.toTables.apply stmt = .ok (reply, t))

include fits applied

/-- A statement that the tables accept, and whose numbers fit, replies. -/
theorem handle_replies : handle stmt db = .ok (reply, handle.after stmt db) := by
  have replied : handle stmt db = .ok (reply, ⟨t, apply_referential db.referential applied⟩) :=
    handle_iff.mpr ⟨fits, applied⟩
  rw [handle.after_ok replied]
  exact replied

theorem after_applied : (handle.after stmt db).toTables = t := by
  have both := applied.symm.trans (handle_ok (handle_replies fits applied))
  exact (congrArg Prod.snd (Except.ok.inj both)).symm

end Applied

end AccreditationBackend
