import AccreditationBackend.Http.Policy
import AccreditationBackend.Requests.Isolation

/-! What the routes of a requester read, and that no other requester writes any of it. -/

set_option autoImplicit false

namespace AccreditationBackend

open Foundation

/-- The request is stored, and the profile's. -/
def Tables.ownedBy (t : Tables) (profile id : Uuid) : Bool :=
  (t.requests.rows.filter (·.requesterId == profile)).any (·.id == id)

/-- A piece of a request of the profile. -/
def Tables.ownPiece (t : Tables) (profile : Uuid) (d : Document) : Bool :=
  d.subjectType == .request && t.ownedBy profile d.subjectId

/-- The columns of a user that the guards read. -/
def User.identity (u : User) : Uuid × String × UserKind × Option StaffRole × UserStatus :=
  (u.id, u.email, u.kind, u.role, u.status)

/-- The two sites look the same to the guards, and to the routes by which the profile reads. -/
structure SameView (profile : Uuid) (s t : Site) : Prop where
  users : t.accounts.users.column (·.identity) = s.accounts.users.column (·.identity)
  profiles : t.accounts.profiles = s.accounts.profiles
  reference : SameReference s.db.toTables t.db.toTables
  matchRows : t.db.matchRows = s.db.matchRows
  requests : t.db.requests.rows.filter (·.requesterId == profile) =
    s.db.requests.rows.filter (·.requesterId == profile)
  complements : t.db.complements.rows.filter (s.db.ownedBy profile ·.requestId) =
    s.db.complements.rows.filter (s.db.ownedBy profile ·.requestId)
  decisions : t.db.decisions.filter (s.db.ownedBy profile ·.requestId) =
    s.db.decisions.filter (s.db.ownedBy profile ·.requestId)
  accreditations : t.db.accreditations = s.db.accreditations
  accreditationZones : t.db.accreditationZones = s.db.accreditationZones
  pieces : t.documents.documents.rows.filter (s.db.ownPiece profile) =
    s.documents.documents.rows.filter (s.db.ownPiece profile)

section SameView

variable {profile : Uuid} {s t u : Site}

theorem sameReference_trans {a b c : Tables} (first : SameReference a b) (second : SameReference b c) :
    SameReference a c :=
  ⟨second.users.trans first.users, second.competitions.trans first.competitions, second.media.trans first.media,
    second.requesters.trans first.requesters, second.categories.trans first.categories,
    second.zones.trans first.zones⟩

theorem SameView.refl (profile : Uuid) (s : Site) : SameView profile s s where
  users := rfl
  profiles := rfl
  reference := by constructor <;> rfl
  matchRows := rfl
  requests := rfl
  complements := rfl
  decisions := rfl
  accreditations := rfl
  accreditationZones := rfl
  pieces := rfl

theorem SameView.ownedBy (same : SameView profile s t) : t.db.ownedBy profile = s.db.ownedBy profile := by
  funext id
  simp only [Tables.ownedBy, same.requests]

theorem SameView.trans (first : SameView profile s t) (second : SameView profile t u) : SameView profile s u := by
  have owned := first.ownedBy
  have complements := second.complements
  have decisions := second.decisions
  have pieces := second.pieces
  unfold Tables.ownPiece at pieces
  rw [owned] at complements decisions pieces
  exact {
    users := second.users.trans first.users
    profiles := second.profiles.trans first.profiles
    reference := sameReference_trans first.reference second.reference
    matchRows := second.matchRows.trans first.matchRows
    requests := second.requests.trans first.requests
    complements := complements.trans first.complements
    decisions := decisions.trans first.decisions
    accreditations := second.accreditations.trans first.accreditations
    accreditationZones := second.accreditationZones.trans first.accreditationZones
    pieces := pieces.trans first.pieces }

end SameView

/-! ## Whose a request is -/

section Owners

variable {profile other : Uuid} {t : Database} {id : Uuid}

theorem ownedBy_iff : t.ownedBy profile id = true ↔ t.belongs profile id := by
  simp only [Tables.ownedBy, List.any_eq_true, List.mem_filter, beq_iff_eq]
  constructor
  · rintro ⟨r, ⟨stored, own⟩, rfl⟩
    exact ⟨r, requestById_stored stored, own⟩
  · rintro ⟨r, found, own⟩
    obtain ⟨stored, named⟩ := Table.find_some_mem found
    exact ⟨r, ⟨stored, own⟩, beq_iff_eq.mp named⟩

/-- What is left of a list that is the same without `b`, when `a` has none of `b`. -/
theorem filter_within {α : Type} {a b : α → Bool} {xs ys : List α} (inside : ∀ x, a x = true → b x = true)
    (same : ys.filter b = xs.filter b) : ys.filter a = xs.filter a := by
  have narrowed (zs : List α) : (zs.filter b).filter a = zs.filter a := by
    rw [List.filter_filter]
    refine List.filter_congr fun x _ => ?_
    cases hit : a x with
    | true => simp [inside x hit]
    | false => rfl
  rw [← narrowed, same, narrowed]

end Owners

/-! ## The statements of the others -/

section Others

variable {user : AuthenticatedUser} {other : Uuid}

/-- A user with no role and no profile but `other`. -/
structure AuthenticatedUser.RequesterAs (user : AuthenticatedUser) (other : Uuid) : Prop where
  permissions : user.permissions = permissionsForRole none
  profile : ∀ id ∈ user.requesterProfileId, id = other

theorem AuthenticatedUser.RequesterAs.lacks {permission : Permission} (requester : user.RequesterAs other)
    (staff : permission ∉ permissionsForRole none) : permission ∉ user.permissions := requester.permissions ▸ staff

end Others

end AccreditationBackend
