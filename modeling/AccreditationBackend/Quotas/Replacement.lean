import AccreditationBackend.Quotas.Service

/-! `setQuota` replaces one quota: its row, its zones, and nothing else. -/

set_option autoImplicit false

namespace AccreditationBackend

open Foundation (Table Proc Keyed)

variable {db : Database} {ambient : Ambient} {matchId : Uuid} {dto : SetQuotaDto}

/-! ## What the call looks up -/

section Lookups

variable {A ρ : Type} [Keyed ρ]

theorem looked_up (table : Database → Table ρ) (c : ρ → Uuid) (id : Uuid) (why : DomainError)
    (f : ρ → Op A) (db : Database) :
    (id ∈ (table db).column c ∧ ∃ row,
      (.read fun s : Database => orThrow ((table s).find (c · == id)) why >>= f : Op A).run handle db =
        (f row).run handle db) ∨
    (id ∉ (table db).column c ∧
      (.read fun s : Database => orThrow ((table s).find (c · == id)) why >>= f : Op A).run handle db =
        (.error (.domain why), db)) := by
  simp only [Proc.run]
  cases found : (table db).find (c · == id) with
  | some row =>
      obtain ⟨member, named⟩ := Table.find_some_mem found
      refine .inl ⟨List.mem_map.mpr ⟨row, member, beq_iff_eq.mp named⟩, row, ?_⟩
      rw [orThrow_some_bind]
  | none =>
      refine .inr ⟨fun member => ?_, by rw [orThrow_none_bind]; rfl⟩
      obtain ⟨row, stored⟩ := Table.find_of_column member
      cases found.symm.trans stored

theorem getZones_run (zoneIds : List Uuid) (f : Unit → Op A) (db : Database) :
    ((∀ zoneId ∈ zoneIds, zoneId ∈ db.zones.column (·.id)) ∧
      (getZones zoneIds >>= f).run handle db = (f ()).run handle db) ∨
    ((¬ ∀ zoneId ∈ zoneIds, zoneId ∈ db.zones.column (·.id)) ∧
      (getZones zoneIds >>= f).run handle db = (.error (.domain zoneNotFound), db)) := by
  induction zoneIds with
  | nil => exact .inl ⟨by simp, rfl⟩
  | cons zoneId rest ih =>
      have unfolded :
          (getZones (zoneId :: rest) >>= f) = getZone zoneId >>= fun _ => getZones rest >>= f :=
        Proc.bind_assoc _ _ _
      simp only [List.forall_mem_cons, unfolded]
      obtain ⟨known, _, first⟩ | ⟨unknown, first⟩ :=
        looked_up (·.zones) (·.id) zoneId zoneNotFound (fun _ => getZones rest >>= f) db
      · obtain ⟨others, later⟩ | ⟨others, later⟩ := ih
        · exact .inl ⟨⟨known, others⟩, first.trans later⟩
        · exact .inr ⟨fun all => others all.2, first.trans later⟩
      · exact .inr ⟨fun all => unknown all.1, first⟩

end Lookups

/-- The match, the category and the zones that the call names exist. -/
structure Referenced (t : Tables) (matchId : Uuid) (dto : SetQuotaDto) : Prop where
  matchRow : matchId ∈ t.matchRows.column (·.id)
  category : dto.categoryId ∈ t.categories.column (·.id)
  zones : ∀ zoneId ∈ dto.zoneIds, zoneId ∈ t.zones.column (·.id)

theorem setQuota_run (db : Database) (ambient : Ambient) (matchId : Uuid) (dto : SetQuotaDto) :
    (Referenced db.toTables matchId dto ∧ (setQuota ambient matchId dto).run handle db =
      (issue (.setQuota ambient.freshId matchId dto)).run handle db) ∨
    (¬ Referenced db.toTables matchId dto ∧ ∃ why ∈ [matchNotFound, categoryNotFound, zoneNotFound],
      (setQuota ambient matchId dto).run handle db = (.error (.domain why), db)) := by
  obtain ⟨matched, _, first⟩ | ⟨unmatched, first⟩ :=
    looked_up (·.matchRows) (·.id) matchId matchNotFound (fun _ => do
      let _ ← getCategory dto.categoryId
      getZones dto.zoneIds
      issue (.setQuota ambient.freshId matchId dto)) db
  · obtain ⟨known, _, second⟩ | ⟨unknown, second⟩ :=
      looked_up (·.categories) (·.id) dto.categoryId categoryNotFound (fun _ => do
        getZones dto.zoneIds
        issue (.setQuota ambient.freshId matchId dto)) db
    · obtain ⟨zones, third⟩ | ⟨zones, third⟩ := getZones_run dto.zoneIds
        (fun _ => issue (.setQuota ambient.freshId matchId dto)) db
      · exact .inl ⟨⟨matched, known, zones⟩, first.trans (second.trans third)⟩
      · exact .inr ⟨fun all => zones all.zones, zoneNotFound, by simp, first.trans (second.trans third)⟩
    · exact .inr ⟨fun all => unknown all.category, categoryNotFound, by simp, first.trans second⟩
  · exact .inr ⟨fun all => unmatched all.matchRow, matchNotFound, by simp, first⟩

/-! ## What the transaction leaves -/

/-- A new row takes an id that no quota has yet, as a generated one is. -/
def Unissued (db : Database) (ambient : Ambient) (matchId : Uuid) (dto : SetQuotaDto) : Prop :=
  db.quotaRow matchId dto.categoryId = none → ∀ q ∈ db.quotas.rows, q.id ≠ ambient.freshId

/-- `q` is the row of the pair, with its zones; the rest is as it was. -/
structure Replaced (matchId : Uuid) (dto : SetQuotaDto) (q : MatchCategoryQuota) (t t' : Tables) :
    Prop where
  row : t'.quotaRow matchId dto.categoryId = some q
  id : ∀ old, t.quotaRow matchId dto.categoryId = some old → q.id = old.id
  quotaTotal : q.quotaTotal = dto.quotaTotal
  overflowPolicy : q.overflowPolicy = dto.overflowPolicy.getD
    ((t.quotaRow matchId dto.categoryId).elim .manualArbitration (·.overflowPolicy))
  consumed : q.consumed = (t.quotaRow matchId dto.categoryId).elim 0 (·.consumed)
  zones : (t'.quotaZones.rows.filter (·.quotaId == q.id)).map (·.zoneId) = dto.zoneIds
  otherRows : t'.quotas.rows.filter (!quotaOf matchId dto.categoryId ·) =
    t.quotas.rows.filter (!quotaOf matchId dto.categoryId ·)
  otherZones : t'.quotaZones.rows.filter (!·.quotaId == q.id) =
    t.quotaZones.rows.filter (!·.quotaId == q.id)
  frame : { t' with quotas := t.quotas, quotaZones := t.quotaZones } = t

theorem Replaced.referenced {q : MatchCategoryQuota} {t t' : Tables}
    (replaced : Replaced matchId dto q t t') (known : Referenced t matchId dto) :
    Referenced t' matchId dto := by
  have matchRows := congrArg Tables.matchRows replaced.frame
  have categories := congrArg Tables.categories replaced.frame
  have zones := congrArg Tables.zones replaced.frame
  exact ⟨matchRows ▸ known.matchRow, categories ▸ known.category, zones ▸ known.zones⟩

theorem create_quotaOf (freshId : Uuid) :
    quotaOf matchId dto.categoryId (dto.create freshId matchId) = true := by
  simp [quotaOf, SetQuotaDto.create]

theorem update_update (q : MatchCategoryQuota) : dto.update (dto.update q) = dto.update q := by
  cases given : dto.overflowPolicy <;> simp [SetQuotaDto.update, given]

theorem update_create (freshId : Uuid) :
    dto.update (dto.create freshId matchId) = dto.create freshId matchId := by
  cases given : dto.overflowPolicy <;> simp [SetQuotaDto.update, SetQuotaDto.create, given]

theorem upsertQuota_accepted (known : Referenced db.toTables matchId dto)
    (unissued : Unissued db ambient matchId dto) :
    ∃ q quotas, db.toTables.upsertQuota ambient.freshId matchId dto = .ok (q, quotas) := by
  unfold Tables.upsertQuota
  cases found : db.quotas.find (quotaOf matchId dto.categoryId) with
  | some old => exact ⟨_, _, rfl⟩
  | none =>
      -- The new row clashes with none: its id is fresh, and no row has its pair.
      have apart : ∀ a ∈ db.quotas.rows,
          ¬ Keyed.Clash (Keyed.key a) (Keyed.key (dto.create ambient.freshId matchId)) := by
        rintro a stored (same | same)
        · exact unissued found a stored same
        · have missed := Table.find_eq_none.mp found a stored
          simp only [Keyed.key, SetQuotaDto.create, Prod.mk.injEq] at same
          simp [quotaOf, same.1, same.2] at missed
      obtain ⟨quotas, inserted⟩ := Table.insert_accepted.mpr apart
      simp only [require, known.matchRow, known.category, and_self, if_true, inserted, orFail]
      exact ⟨_, _, rfl⟩

theorem upsertQuota_row {t : Tables} {freshId : Uuid} {q : MatchCategoryQuota}
    {quotas : Table MatchCategoryQuota} (upserted : t.upsertQuota freshId matchId dto = .ok (q, quotas)) :
    quotas.find (quotaOf matchId dto.categoryId) = some q ∧ dto.update q = q := by
  have stored := upsertQuota_mem upserted
  obtain ⟨old, found, rfl, rfl⟩ | ⟨_, rfl, _, _⟩ := upsertQuota_cases upserted
  · have pair : quotaOf matchId dto.categoryId (dto.update old) = true := (Table.find_some_mem found).2
    exact ⟨(Table.find_some_iff (selects_quotaOf _ _)).mpr ⟨stored, pair⟩, update_update old⟩
  · exact ⟨(Table.find_some_iff (selects_quotaOf _ _)).mpr ⟨stored, create_quotaOf freshId⟩,
      update_create freshId⟩

theorem upsertQuota_others {t : Tables} {freshId : Uuid} {q : MatchCategoryQuota}
    {quotas : Table MatchCategoryQuota} (upserted : t.upsertQuota freshId matchId dto = .ok (q, quotas)) :
    quotas.rows.filter (!quotaOf matchId dto.categoryId ·) =
      t.quotas.rows.filter (!quotaOf matchId dto.categoryId ·) := by
  obtain ⟨_, _, _, rfl⟩ | ⟨_, rfl, _, inserted⟩ := upsertQuota_cases upserted
  · refine Table.filter_update _ _ _ _ _ fun r _ hit => ?_
    have still : quotaOf matchId dto.categoryId (dto.update r) = true := hit
    simp [hit, still]
  · simp [Table.insert_rows inserted, create_quotaOf]

theorem zones_replaced (t : Table MatchCategoryQuotaZone) (quotaId : Uuid) {zoneIds : List Uuid}
    (distinct : zoneIds.Nodup) :
    ∃ t', (t.delete (·.quotaId == quotaId)).insertAll (zoneIds.map fun zoneId => ⟨quotaId, zoneId⟩) =
        some t' ∧
      (t'.rows.filter (·.quotaId == quotaId)).map (·.zoneId) = zoneIds ∧
      t'.rows.filter (!·.quotaId == quotaId) = t.rows.filter (!·.quotaId == quotaId) ∧
      (t'.delete (·.quotaId == quotaId)).insertAll (zoneIds.map fun zoneId => ⟨quotaId, zoneId⟩) =
        some t' := by
  have apart : ∀ a ∈ (t.delete (·.quotaId == quotaId)).rows,
      ∀ b ∈ zoneIds.map fun zoneId => (⟨quotaId, zoneId⟩ : MatchCategoryQuotaZone),
      ¬ Keyed.Clash (Keyed.key a) (Keyed.key b) := by
    simp only [Table.delete, List.mem_filter, Bool.not_eq_true', beq_eq_false_iff_ne, List.mem_map]
    rintro a ⟨_, other⟩ _ ⟨zoneId, _, rfl⟩ same
    exact other (congrArg Prod.fst same)
  have pairwise : (zoneIds.map fun zoneId => (⟨quotaId, zoneId⟩ : MatchCategoryQuotaZone)).Pairwise
      fun a b => ¬ Keyed.Clash (Keyed.key a) (Keyed.key b) :=
    List.pairwise_map.mpr (distinct.imp fun different same => different (congrArg Prod.snd same))
  obtain ⟨t', inserted⟩ := Table.insertAll_accepted.mpr ⟨apart, pairwise⟩
  have rows := Table.insertAll_rows inserted
  have others : t'.rows.filter (!·.quotaId == quotaId) = t.rows.filter (!·.quotaId == quotaId) := by
    simp [rows, Table.delete, List.filter_map, Function.comp_def]
  refine ⟨t', inserted, ?_, others, Table.insertAll_iff.mpr ?_⟩
  · simp [rows, Table.delete, List.filter_map, Function.comp_def]
  · -- What the second deletion leaves is what the first one left.
    rw [rows]
    exact congrArg (· ++ _) others.symm

/-- The transaction replaces the row and its zones, and done again it changes nothing. -/
theorem setQuota_applied (known : Referenced db.toTables matchId dto)
    (unissued : Unissued db ambient matchId dto) (distinct : dto.zoneIds.Nodup) :
    ∃ (q : MatchCategoryQuota) (t : Tables),
      db.toTables.apply (.setQuota ambient.freshId matchId dto) = .ok (q, t) ∧
      Replaced matchId dto q db.toTables t ∧
      ∀ freshId, t.apply (.setQuota freshId matchId dto) = .ok (q, t) := by
  obtain ⟨q, quotas, upserted⟩ := upsertQuota_accepted known unissued
  obtain ⟨row, fixed⟩ := upsertQuota_row upserted
  obtain ⟨quotaZones, inserted, zones, others, again⟩ := zones_replaced db.quotaZones q.id distinct
  refine ⟨q, { db.toTables with quotas, quotaZones }, ?_, ?_, fun freshId => ?_⟩
  · simp only [Tables.apply, bind_ok, require_ok, orFail_ok, pure_ok, Prod.exists]
    exact ⟨q, quotas, upserted, (), known.zones, quotaZones, inserted, rfl⟩
  · have rows := upsertQuota_others upserted
    obtain ⟨old, found, rfl, _⟩ | ⟨found, rfl, _, _⟩ := upsertQuota_cases upserted
    · exact {
        row := row, zones := zones, otherRows := rows, otherZones := others, frame := rfl
        id := fun other known => by cases found.symm.trans known; rfl
        quotaTotal := rfl
        overflowPolicy := by simp [Tables.quotaRow, found, SetQuotaDto.update]
        consumed := by simp [Tables.quotaRow, found, SetQuotaDto.update] }
    · exact {
        row := row, zones := zones, otherRows := rows, otherZones := others, frame := rfl
        id := fun other known => by cases found.symm.trans known
        quotaTotal := rfl
        overflowPolicy := by simp [Tables.quotaRow, found, SetQuotaDto.create]
        consumed := by simp [Tables.quotaRow, found, SetQuotaDto.create] }
  · -- The second upsert finds the row, which is as the DTO wants it.
    have upsertedAgain :
        ({ db.toTables with quotas, quotaZones } : Tables).upsertQuota freshId matchId dto =
        .ok (q, quotas) := by
      have kept : quotas.update (quotaOf matchId dto.categoryId) dto.update dto.update_key = quotas := by
        refine Table.update_fixed _ _ _ _ fun r stored hit => ?_
        have same := (Table.find_some_iff (selects_quotaOf matchId dto.categoryId)).mpr ⟨stored, hit⟩
        cases row.symm.trans same
        exact fixed
      simp only [Tables.upsertQuota, row, fixed, kept]
    simp only [Tables.apply, bind_ok, require_ok, orFail_ok, pure_ok, Prod.exists]
    exact ⟨q, quotas, upsertedAgain, (), known.zones, quotaZones, again, rfl⟩

/-- `setQuota` throws and writes nothing when the match, the category or a zone
is missing, or the total is beyond the column. Otherwise it replaces the row of the
pair and its zones and nothing else, and calling it again changes nothing. -/
theorem setQuota_replaces (db : Database) (ambient : Ambient) (matchId : Uuid) (dto : SetQuotaDto)
    (distinct : dto.zoneIds.Nodup) (unissued : Unissued db ambient matchId dto) :
    (¬ Referenced db.toTables matchId dto → ∃ why ∈ [matchNotFound, categoryNotFound, zoneNotFound],
      (setQuota ambient matchId dto).run handle db = (.error (.domain why), db)) ∧
    (Referenced db.toTables matchId dto → fitsInteger dto.quotaTotal = false →
      (setQuota ambient matchId dto).run handle db = (.error .outOfRange, db)) ∧
    (Referenced db.toTables matchId dto → fitsInteger dto.quotaTotal = true →
      ∃ (q : MatchCategoryQuota) (db' : Database),
        (setQuota ambient matchId dto).run handle db = (.ok q, db') ∧
        Replaced matchId dto q db.toTables db'.toTables ∧
        ∀ again, (setQuota again matchId dto).run handle db' = (.ok q, db')) := by
  obtain ⟨known, ran⟩ | ⟨unknown, failed⟩ := setQuota_run db ambient matchId dto
  · refine ⟨fun unknown => absurd known unknown, fun _ large => ?_, fun _ fits => ?_⟩
    · have refused : handle (.setQuota ambient.freshId matchId dto) db = .error .outOfRange := by
        rw [handle, setQuota_fits, large, if_neg Bool.false_ne_true]
      rw [ran]
      simp only [issue, Proc.command, Proc.run, refused]
    · obtain ⟨q, t, applied, replaced, stable⟩ := setQuota_applied known unissued distinct
      have writable (freshId : Uuid) : (Statement.setQuota freshId matchId dto).fits = true :=
        (setQuota_fits freshId matchId dto).trans fits
      have replied := handle_replies (writable _) applied
      have same : (handle.after (.setQuota ambient.freshId matchId dto) db).toTables = t :=
        after_applied (writable _) applied
      refine ⟨q, handle.after (.setQuota ambient.freshId matchId dto) db, ?_, same ▸ replaced,
        fun again => ?_⟩
      · rw [ran]
        simp only [issue, Proc.command, Proc.run, replied]
      · have still := same ▸ replaced.referenced known
        obtain ⟨_, ranAgain⟩ | ⟨lost, _⟩ :=
          setQuota_run (handle.after (.setQuota ambient.freshId matchId dto) db)
          again matchId dto
        · have unchanged := handle_iff.mpr ⟨writable again.freshId, same ▸ stable again.freshId⟩
          rw [ranAgain]
          simp only [issue, Proc.command, Proc.run, unchanged]
        · exact absurd still lost
  · exact ⟨fun _ => failed, fun known => absurd known unknown, fun known => absurd known unknown⟩

/-- The quota of the sample, edited with its one zone granted. -/
def granting (quotaTotal : Nat) : SetQuotaDto := ⟨"press", quotaTotal, none, ["stand"]⟩

theorem setQuota_replaces_sample :
    (¬ Referenced (sampleDatabase 2).toTables "final" (granting 5) →
      ∃ why ∈ [matchNotFound, categoryNotFound, zoneNotFound],
        (setQuota { freshId := "new" } "final" (granting 5)).run handle (sampleDatabase 2) =
          (.error (.domain why), sampleDatabase 2)) ∧
    (Referenced (sampleDatabase 2).toTables "final" (granting 5) → fitsInteger (granting 5).quotaTotal = false →
      (setQuota { freshId := "new" } "final" (granting 5)).run handle (sampleDatabase 2) =
        (.error .outOfRange, sampleDatabase 2)) ∧
    (Referenced (sampleDatabase 2).toTables "final" (granting 5) → fitsInteger (granting 5).quotaTotal = true →
      ∃ (q : MatchCategoryQuota) (db' : Database),
        (setQuota { freshId := "new" } "final" (granting 5)).run handle (sampleDatabase 2) = (.ok q, db') ∧
        Replaced "final" (granting 5) q (sampleDatabase 2).toTables db'.toTables ∧
        ∀ again, (setQuota again "final" (granting 5)).run handle db' = (.ok q, db')) :=
  setQuota_replaces (sampleDatabase 2) { freshId := "new" } "final" (granting 5)
    (by decide) (fun _ => by simp [sampleDatabase])

/-- Everything that the call names exists, and the database refuses its total. -/
theorem setQuota_too_large :
    Referenced (sampleDatabase 2).toTables "final" (granting 3000000000) ∧
      (granting 3000000000).zoneIds.Nodup ∧
      (setQuota { freshId := "new" } "final" (granting 3000000000)).run handle (sampleDatabase 2) =
        (.error .outOfRange, sampleDatabase 2) := by
  refine ⟨⟨by decide, by decide, by decide⟩, by decide, rfl⟩

end AccreditationBackend
