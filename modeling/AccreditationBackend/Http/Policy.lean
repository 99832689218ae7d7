import AccreditationBackend.Http.Site
import AccreditationBackend.System.Authors

/-! What a user may do to the site.

The policy judges a statement by the store it meets. An operation has checked
earlier stores, so it relies on what no statement of another call takes away: a
request keeps its requester and its match, a complement its request, a quota its
match, a document what it is a version of.
-/

set_option autoImplicit false

namespace AccreditationBackend

open Foundation

/-! ## What stays with whom -/

def AccreditationRequest.holding (r : AccreditationRequest) : Uuid × Uuid × Uuid := (r.id, r.requesterId, r.matchId)

structure Keeps (s t : Tables) : Prop where
  requests : s.requests.column (·.holding) ⊆ t.requests.column (·.holding)
  complements : s.complements.column (fun c => (c.id, c.requestId)) ⊆ t.complements.column fun c => (c.id, c.requestId)
  quotas : s.quotas.column (fun q => (q.id, q.matchId)) ⊆ t.quotas.column fun q => (q.id, q.matchId)

section Keeps

variable {s t u : Tables}

theorem Keeps.refl (s : Tables) : Keeps s s :=
  ⟨List.Subset.refl _, List.Subset.refl _, List.Subset.refl _⟩

theorem Keeps.trans (first : Keeps s t) (second : Keeps t u) : Keeps s u :=
  ⟨List.Subset.trans first.requests second.requests, List.Subset.trans first.complements second.complements,
    List.Subset.trans first.quotas second.quotas⟩

/-- Requests that a statement keeps or adds to, and nothing else that matters. -/
theorem keeps_requests (requests : s.requests.column (·.holding) ⊆ t.requests.column (·.holding))
    (complements : t.complements = s.complements) (quotas : t.quotas = s.quotas) : Keeps s t :=
  ⟨requests, complements ▸ List.Subset.refl _, quotas ▸ List.Subset.refl _⟩

theorem keeps_quotas
    (quotas : s.quotas.column (fun q => (q.id, q.matchId)) ⊆ t.quotas.column fun q => (q.id, q.matchId))
    (requests : t.requests = s.requests) (complements : t.complements = s.complements) :
    Keeps s t :=
  ⟨requests ▸ List.Subset.refl _, complements ▸ List.Subset.refl _, quotas⟩

theorem quotas_grow {freshId matchId : Uuid} {dto : SetQuotaDto} {q : MatchCategoryQuota}
    {quotas : Table MatchCategoryQuota} (upserted : s.upsertQuota freshId matchId dto = .ok (q, quotas)) :
    s.quotas.column (fun q => (q.id, q.matchId)) ⊆ quotas.column fun q => (q.id, q.matchId) := by
  unfold Tables.upsertQuota at upserted
  split at upserted
  next =>
    cases upserted
    rw [Table.column_update _ _ _ dto.update_key _ fun _ => rfl]
    exact List.Subset.refl _
  next =>
    simp only [bind_ok, orFail_ok, pure_ok, Prod.mk.injEq] at upserted
    obtain ⟨_, _, _, inserted, _, rfl⟩ := upserted
    rw [Table.column_insert inserted]
    exact List.subset_append_left _ _

theorem complements_grow {complement : Option RequestComplement} {complements : Table RequestComplement}
    (added : s.addComplement complement = .ok complements) :
    s.complements.column (fun c => (c.id, c.requestId)) ⊆ complements.column fun c => (c.id, c.requestId) := by
  cases complement with
  | none =>
      cases added
      exact List.Subset.refl _
  | some c =>
      simp only [Tables.addComplement, bind_ok, orFail_ok] at added
      obtain ⟨_, _, inserted⟩ := added
      rw [Table.column_insert inserted]
      exact List.subset_append_left _ _

theorem apply_keeps {stmt : Statement} {reply : stmt.Reply} (applied : s.apply stmt = .ok (reply, t)) :
    Keeps s t := by
  cases stmt <;> simp only [Tables.apply, bind_ok, orFail_ok, require_ok, pure_ok, Prod.mk.injEq, Prod.exists,
    Except.ok.injEq] at applied
  case createRequest row =>
    obtain ⟨_, _, requests, inserted, _, rfl⟩ := applied
    refine keeps_requests ?_ rfl rfl
    rw [Table.column_insert inserted]
    exact List.subset_append_left _ _
  case editDraft id categoryId logistics =>
    obtain ⟨_, _, _, _, _, rfl⟩ := applied
    refine keeps_requests ?_ rfl rfl
    rw [Table.column_update _ _ _ (redraft_key categoryId logistics) _ fun _ => rfl]
    exact List.Subset.refl _
  case writeStatus w =>
    obtain ⟨_, _, complements, added, _, rfl⟩ := applied
    refine ⟨?_, complements_grow added, List.Subset.refl _⟩
    rw [Table.column_update _ _ _ w.apply_key _ fun _ => rfl]
    exact List.Subset.refl _
  case resolveComplement id resolvedAt =>
    obtain ⟨_, _, _, rfl⟩ := applied
    refine ⟨List.Subset.refl _, ?_, List.Subset.refl _⟩
    rw [Table.column_update _ _ _ (resolve_key resolvedAt) _ fun _ => rfl]
    exact List.Subset.refl _
  case setQuota freshId matchId dto =>
    obtain ⟨_, _, upserted, _, _, _, _, _, rfl⟩ := applied
    exact keeps_quotas (quotas_grow upserted) rfl rfl
  case reserve quotaId limit =>
    obtain ⟨_, rfl⟩ := applied
    refine keeps_quotas ?_ rfl rfl
    rw [Table.column_update _ _ _ consume_key _ fun _ => rfl]
    exact List.Subset.refl _
  case release quotaId =>
    obtain ⟨_, _, _, rfl⟩ := applied
    refine keeps_quotas ?_ rfl rfl
    rw [Table.column_update _ _ _ giveBack_key _ fun _ => rfl]
    exact List.Subset.refl _
  all_goals grind [Keeps.refl, Keeps]

theorem keeps_step (stmt : Statement) (db : Database) : Keeps db.toTables (handle.after stmt db).toTables := by
  rcases after_cases stmt db with same | ⟨reply, applied⟩
  · rw [same]
    exact .refl _
  · exact apply_keeps applied

end Keeps

/-- A document stays a version of the same piece. -/
def KeepsPieces (s t : Documents) : Prop :=
  s.documents.column (fun d => (d.id, d.piece)) ⊆ t.documents.column fun d => (d.id, d.piece)

theorem superseding_pieces {previous : Option Uuid} {t : Documents} {documents : Table Document}
    (superseded : t.superseding previous = .ok documents) :
    documents.column (fun d => (d.id, d.piece)) = t.documents.column fun d => (d.id, d.piece) := by
  cases previous with
  | none =>
      cases superseded
      rfl
  | some id =>
      simp only [Documents.superseding, bind_ok, pure_ok] at superseded
      obtain ⟨_, _, rfl⟩ := superseded
      exact Table.column_update _ _ _ Document.supersede_key _ fun _ => rfl

theorem keepsPieces_step (stmt : DocumentStatement) (t : Documents) : KeepsPieces t (handleDocument.after stmt t) := by
  unfold Handler.after handleDocument
  cases applied : t.apply stmt with
  | error why => exact List.Subset.refl _
  | ok both =>
      obtain ⟨reply, after⟩ := both
      dsimp only
      cases stmt <;> simp only [Documents.apply, bind_ok, orFail_ok, require_ok, pure_ok, Prod.mk.injEq,
        Except.ok.injEq] at applied
      case publish event =>
        obtain ⟨_, rfl⟩ := applied
        exact List.Subset.refl _
      case putObject object =>
        obtain ⟨_, rfl⟩ := applied
        exact List.Subset.refl _
      case addVersion previous row =>
        obtain ⟨documents, superseded, _, _, _, inserted, _, rfl⟩ := applied
        unfold KeepsPieces
        rw [Table.column_insert inserted, superseding_pieces superseded]
        exact List.subset_append_left _ _
      case updateReview id data =>
        obtain ⟨_, _, _, _, _, rfl⟩ := applied
        unfold KeepsPieces
        rw [Table.column_update _ _ _ data.apply_key _ fun _ => rfl]
        exact List.Subset.refl _

structure SiteKeeps (s t : Site) : Prop where
  db : Keeps s.db.toTables t.db.toTables
  pieces : KeepsPieces s.documents t.documents

theorem SiteKeeps.refl (s : Site) : SiteKeeps s s := ⟨.refl _, List.Subset.refl _⟩

theorem SiteKeeps.trans {s t u : Site} (first : SiteKeeps s t) (second : SiteKeeps t u) : SiteKeeps s u :=
  ⟨first.db.trans second.db, List.Subset.trans first.pieces second.pieces⟩

theorem site_keeps (stmt : SiteStatement) (site : Site) : SiteKeeps site (handleSite.after stmt site) := by
  cases stmt with
  | account stmt =>
      rw [after_account]
      exact ⟨.refl _, List.Subset.refl _⟩
  | database stmt =>
      rw [after_database]
      exact ⟨keeps_step stmt site.db, List.Subset.refl _⟩
  | document stmt =>
      rw [after_document]
      exact ⟨.refl _, keepsPieces_step stmt site.documents⟩

/-! ## The policy -/

/-- A stored request of the user's own profile. -/
def AuthenticatedUser.Holds (user : AuthenticatedUser) (t : Tables) (r : AccreditationRequest) : Prop :=
  r ∈ t.requests.rows ∧ user.requesterProfileId = some r.requesterId

def AuthenticatedUser.Owns (user : AuthenticatedUser) (t : Tables) (id : Uuid) : Prop :=
  ∃ r, user.Holds t r ∧ r.id = id

/-- What a user may have the database do. -/
def Statement.AllowedTo (user : AuthenticatedUser) (t : Tables) : Statement → Prop
  | .publish _ => True
  | .createRequest row => user.requesterProfileId = some row.requesterId
  | .editDraft id _ _ => user.Owns t id
  -- The staff moves any request; a requester files, completes and withdraws their own.
  | .writeStatus w =>
      .requestsValidate ∈ user.permissions ∨
        .requestsComplementRequest ∈ user.permissions ∧ w.target = .infoRequested ∨
        user.Owns t w.requestId ∧ w.target ∈ [.submitted, .underReview, .cancelled] ∧ w.complement = none
  | .resolveComplement id _ => ∃ c ∈ t.complements.rows, c.id = id ∧ user.Owns t c.requestId
  | .setQuota .. => .requestsAttribute ∈ user.permissions
  | .reserve .. => .requestsValidate ∈ user.permissions
  -- A withdrawn request gives its slot back, on the match it was for.
  | .release quotaId =>
      .requestsValidate ∈ user.permissions ∨
        ∃ q ∈ t.quotas.rows, q.id = quotaId ∧ ∃ r, user.Holds t r ∧ r.matchId = q.matchId
  | .createAccreditation .. => .requestsValidate ∈ user.permissions
  | .updateAssignments .. => .accreditationsGenerate ∈ user.permissions
  | .revoke .. => .accreditationsRevoke ∈ user.permissions
  | .updateMatch .. => .competitionsManage ∈ user.permissions
  | .countUses .. => .scanPerform ∈ user.permissions
  | .createScanLog _ => .scanPerform ∈ user.permissions

/-- The statement is allowed to the user, and signed by nobody else. -/
def Statement.PermittedTo (user : AuthenticatedUser) (t : Tables) (stmt : Statement) : Prop :=
  stmt.AllowedTo user t ∧ ∀ id ∈ stmt.signers, id = user.id

section Owns

variable {user : AuthenticatedUser} {s t : Tables}

theorem Keeps.holds (keeps : Keeps s t) {r : AccreditationRequest} (holds : user.Holds s r) :
    ∃ r', user.Holds t r' ∧ r'.id = r.id ∧ r'.matchId = r.matchId := by
  obtain ⟨stored, own⟩ := holds
  obtain ⟨r', stored', same⟩ := List.mem_map.mp (keeps.requests (List.mem_map_of_mem stored))
  simp only [AccreditationRequest.holding, Prod.mk.injEq] at same
  obtain ⟨id, requester, ofMatch⟩ := same
  exact ⟨r', ⟨stored', requester ▸ own⟩, id, ofMatch⟩

theorem Keeps.owns (keeps : Keeps s t) {id : Uuid} (owns : user.Owns s id) : user.Owns t id := by
  obtain ⟨r, holds, rfl⟩ := owns
  obtain ⟨r', holds', same, _⟩ := keeps.holds holds
  exact ⟨r', holds', same⟩

theorem owns_loaded {id profile : Uuid} (own : user.requesterProfileId = some profile) {r : AccreditationRequest}
    (found : s.requestById id = some r) (holder : r.requesterId = profile) : user.Holds s r ∧ r.id = id := by
  obtain ⟨stored, named⟩ := Table.find_some_mem found
  exact ⟨⟨stored, holder ▸ own⟩, beq_iff_eq.mp named⟩

end Owns

/-- What a user may have done to the accounts, none of which is a requester's to create. -/
def AccountStatement.AllowedTo (user : AuthenticatedUser) : AccountStatement → Prop
  | .publish _ => True
  | .createUser row => .usersManage ∈ user.permissions ∧ row.kind = .staff
  -- Who manages the accounts does not change the status of their own; anybody changes their own name.
  | .updateUser id data =>
      .usersManage ∈ user.permissions ∧ (id = user.id → data.status = none) ∨
        id = user.id ∧ data.passwordHash = none ∧ data.role = none ∧ data.status = none
  | .resetPassword _ data _ => .usersManage ∈ user.permissions ∧ data.role = none ∧ data.status = none
  | .deleteUser id => .usersManage ∈ user.permissions ∧ id ≠ user.id
  | _ => False

/-- What a user may have done to the documents: the requesters' are pieces of their own requests. -/
def DocumentStatement.AllowedTo (user : AuthenticatedUser) (site : Site) : DocumentStatement → Prop
  | .publish _ => True
  | .putObject object =>
      .mediaManage ∈ user.permissions ∨
        ∃ id name, user.Owns site.db.toTables id ∧ object.key = "request/" ++ id ++ "/" ++ name
  | .addVersion previous row =>
      row.uploadedById = user.id ∧
        (.mediaManage ∈ user.permissions ∨ row.subjectType = .request ∧ user.Owns site.db.toTables row.subjectId) ∧
        ∀ id ∈ previous, (id, row.piece) ∈ site.documents.documents.column fun d => (d.id, d.piece)
  | .updateReview _ data => .requestsValidate ∈ user.permissions ∧ data.reviewedById = user.id

def SiteStatement.PermittedTo (user : AuthenticatedUser) (site : Site) : SiteStatement → Prop
  | .account stmt => stmt.AllowedTo user
  | .database stmt => stmt.PermittedTo user site.db.toTables
  | .document stmt => stmt.AllowedTo user site

/-- What opening and closing sessions writes, for whoever asks. -/
def SiteStatement.Open : SiteStatement → Prop
  | .account (.publish _) => True
  | .account (.updateUser _ data) => data.Bookkeeping
  | .account (.createRefreshToken _) => True
  | .account (.revokeRefreshToken ..) => True
  | .account (.revokeByHash ..) => True
  | _ => False

end AccreditationBackend
