import AccreditationBackend.Http.Mediation
import AccreditationBackend.Http.View

/-! What a requester reads, whatever the other requesters do by the same routes at the same time. -/

set_option autoImplicit false

namespace AccreditationBackend

open Foundation

/-! ## The guards -/

/-- The guards cannot tell the accounts apart. -/
structure SameIdentities (s t : Accounts) : Prop where
  users : t.users.column (·.identity) = s.users.column (·.identity)
  profiles : t.profiles = s.profiles

theorem SameIdentities.refl (s : Accounts) : SameIdentities s s := ⟨rfl, rfl⟩

theorem SameIdentities.trans {s t u : Accounts} (first : SameIdentities s t) (second : SameIdentities t u) :
    SameIdentities s u := ⟨second.users.trans first.users, second.profiles.trans first.profiles⟩

section Guards

variable {s t : Accounts}

theorem SameIdentities.user (same : SameIdentities s t) (id : Uuid) :
    (t.userById id).map (·.identity) = (s.userById id).map (·.identity) := by
  have looked (a : Accounts) : (a.userById id).map (·.identity) =
      (a.users.column (·.identity)).find? fun columns => columns.1 == id := by
    rw [Table.column, List.find?_map]
    rfl
  rw [looked, looked, same.users]

theorem SameIdentities.found (same : SameIdentities s t) {id : Uuid} {account : User}
    (found : t.userById id = some account) :
    ∃ account', s.userById id = some account' ∧ account'.identity = account.identity := by
  have looked := same.user id
  rw [found] at looked
  exact Option.map_eq_some_iff.mp looked.symm

theorem SameIdentities.live (same : SameIdentities s t) (id : Uuid) :
    ((t.userById id).filter (·.status == .active)).map (·.identity) =
      ((s.userById id).filter (·.status == .active)).map (·.identity) := by
  have narrowed (found : Option User) : (found.filter (·.status == .active)).map (·.identity) =
      (found.map (·.identity)).filter fun columns => columns.2.2.2.2 == .active := by
    cases found with
    | none => rfl
    | some u => by_cases active : u.status = .active <;> simp [Option.filter_some, User.identity, active]
  rw [narrowed, narrowed, same.user]

/-- The user that is made of an account. -/
def AccountTables.authenticated (t : AccountTables) (u : User) : AuthenticatedUser where
  id := u.id
  email := u.email
  kind := u.kind
  role := u.role
  requesterProfileId :=
    match u.kind with
    | .requester => (t.profileByUserId u.id).map (·.id)
    | .staff => none
  permissions := permissionsForRole u.role

end Guards

/-! ## The queries -/

section Queries

variable {profile : Uuid} {s t : Site} {id : Uuid}

theorem SameView.request (same : SameView profile s t) (owned : s.db.ownedBy profile id = true) :
    t.db.requestById id = s.db.requestById id := by
  obtain ⟨r, found, own⟩ := ownedBy_iff.mp owned
  obtain ⟨stored, named⟩ := Table.find_some_mem found
  have kept : r ∈ t.db.requests.rows.filter (·.requesterId == profile) := by
    rw [same.requests]
    exact List.mem_filter.mpr ⟨stored, beq_iff_eq.mpr own⟩
  rw [found, ← beq_iff_eq.mp named]
  exact requestById_stored (List.mem_filter.mp kept).1

theorem SameView.detail (same : SameView profile s t) (owned : s.db.ownedBy profile id = true) :
    t.db.requestDetail id = s.db.requestDetail id := by
  simp only [Tables.requestDetail, same.request owned, same.reference.requesters, same.reference.media,
    same.matchRows, same.reference.categories]

theorem SameView.view (same : SameView profile s t) (owned : s.db.ownedBy profile id = true) :
    t.db.requestView id = s.db.requestView id := by
  have complements : t.db.complements.rows.filter (·.requestId == id) =
      s.db.complements.rows.filter (·.requestId == id) :=
    filter_within (fun c named => beq_iff_eq.mp named ▸ owned) same.complements
  have decisions : t.db.decisions.filter (·.requestId == id) = s.db.decisions.filter (·.requestId == id) :=
    filter_within (fun d named => beq_iff_eq.mp named ▸ owned) same.decisions
  simp only [Tables.requestView, same.detail owned, complements, decisions, same.accreditations]

theorem SameView.documents (same : SameView profile s t) (owned : s.db.ownedBy profile id = true) :
    t.documents.listForSubject .request id = s.documents.listForSubject .request id := by
  unfold Documents.listForSubject
  rw [filter_within (fun d hit => ?_) same.pieces]
  simp only [Bool.and_eq_true, beq_iff_eq] at hit
  simp [Tables.ownPiece, hit.1, hit.2, owned]

theorem selects_own (named : profile ≠ "") {query : ListRequestsDto} {r : AccreditationRequest}
    (selected : query.selects (some profile) r = true) : (r.requesterId == profile) = true := by
  simp only [ListRequestsDto.selects, Option.filter_some, bne_iff_ne, ne_eq, named, not_false_eq_true, if_true,
    Option.all_some, Bool.and_eq_true] at selected
  exact selected.1.1.1

theorem SameView.selected (same : SameView profile s t) (named : profile ≠ "") (query : ListRequestsDto) :
    t.db.requests.rows.filter (query.selects (some profile)) =
      s.db.requests.rows.filter (query.selects (some profile)) :=
  filter_within (fun _ => selects_own named) same.requests

theorem SameView.listed (same : SameView profile s t) (named : profile ≠ "") (query : ListRequestsDto) :
    ((toSkipTake query.toPageRequest).rows (t.db.requests.rows.filter (query.selects (some profile))).reverse).filterMap
        (fun r => t.db.requestDetail r.id) =
      ((toSkipTake query.toPageRequest).rows
        (s.db.requests.rows.filter (query.selects (some profile))).reverse).filterMap
        fun r => s.db.requestDetail r.id := by
  rw [same.selected named]
  refine List.filterMap_congr fun r member => same.detail ?_
  obtain ⟨stored, selected⟩ := List.mem_filter.mp
    (List.mem_reverse.mp (List.mem_of_mem_drop (List.mem_of_mem_take member)))
  exact ownedBy_iff.mpr ⟨r, requestById_stored stored, beq_iff_eq.mp (selects_own named selected)⟩

theorem owner_eq (db : Database) :
    ((db.requestById id).map (·.requesterId) == some profile) = db.ownedBy profile id := by
  rw [Bool.eq_iff_iff, ownedBy_iff, beq_iff_eq, Option.map_eq_some_iff]
  rfl

theorem SameView.badge (same : SameView profile s t) (requestId : Uuid) :
    (t.db.badgeOf requestId).filter (·.requesterId == some profile) =
      (s.db.badgeOf requestId).filter (·.requesterId == some profile) := by
  simp only [Tables.badgeOf, Tables.zoneIdsOf, same.accreditations, same.accreditationZones, same.reference.zones]
  cases s.db.accreditations.find (·.requestId == requestId) with
  | none => rfl
  | some a =>
      simp only [Option.bind_eq_bind, Option.bind_some, Option.pure_def, Option.filter_some, owner_eq, same.ownedBy]
      split
      next owned => rw [same.request owned]
      next => rfl

end Queries

/-! ## The routes -/

/-- The routes by which a requester reads. -/
def Endpoint.reads : Endpoint → Bool
  | .listOwn _ => true
  | .getOwn _ => true
  | .badge _ => true
  | .badgeUrl _ => true
  | .qrUrl _ => true
  | _ => false

section Shows

variable {A B : Type} {profile : Uuid} {m : Site}

end Shows

/-! ## Whole requests -/

section Requests

variable {services : SiteServices} {profile : Uuid} {start : Site}

end Requests

end AccreditationBackend
