import AccreditationBackend.Iam.Accounts

/-! The database together with the accounts that its requesters are reached by. -/

set_option autoImplicit false

namespace AccreditationBackend

open Foundation (Keyed Table)

instance : Keyed ProfileLink := Keyed.byEither (·.id) (·.userId)

theorem selects_profileLinkId (id : Uuid) : Table.Selects (ρ := ProfileLink) (·.id == id) := by
  intro a b left right
  exact Or.inl ((beq_iff_eq.mp left).trans (beq_iff_eq.mp right).symm)

/-- The owners are further columns of the requester profiles. -/
structure ContactedDatabase extends Database where
  accounts : Table User := .empty
  owners : Table ProfileLink := .empty
  profiles : owners.column (·.id) = requesters.column (·.id)
  owner_account : owners.column (·.userId) ⊆ accounts.column (·.id)

namespace ContactedDatabase

variable (db : ContactedDatabase)

/-- A profile with its user, as `include: { user: true }` joins them. -/
def profileOf (profileId : Uuid) : Option (ProfileLink × User) := do
  let profile ← db.owners.find (·.id == profileId)
  let user ← db.accounts.find (·.id == profile.userId)
  return (profile, user)

variable {db}

theorem profileOf_iff {profileId : Uuid} {profile : ProfileLink} {user : User} :
    db.profileOf profileId = some (profile, user) ↔
      (profile ∈ db.owners.rows ∧ profile.id = profileId) ∧ user ∈ db.accounts.rows ∧
        user.id = profile.userId := by
  simp only [profileOf, Option.bind_eq_bind, Option.bind_eq_some_iff, Option.pure_def,
    Option.some.injEq, Prod.mk.injEq]
  constructor
  · rintro ⟨_, owner, _, account, rfl, rfl⟩
    obtain ⟨ownerStored, named⟩ := Table.find_some_mem owner
    obtain ⟨stored, owned⟩ := Table.find_some_mem account
    exact ⟨⟨ownerStored, beq_iff_eq.mp named⟩, stored, beq_iff_eq.mp owned⟩
  · rintro ⟨⟨ownerStored, named⟩, stored, owned⟩
    refine ⟨profile, ?_, user, ?_, rfl, rfl⟩
    · exact (Table.find_some_iff (selects_profileLinkId profileId)).mpr
        ⟨ownerStored, beq_iff_eq.mpr named⟩
    · exact (Table.find_some_iff (selects_userId profile.userId)).mpr ⟨stored, beq_iff_eq.mpr owned⟩

theorem profileOf_requester {r : AccreditationRequest} (stored : r ∈ db.requests.rows) :
    ∃ profile user, db.profileOf r.requesterId = some (profile, user) := by
  have requester :=
    db.referential.request_requester (List.mem_map_of_mem (f := (·.requesterId)) stored)
  rw [← db.profiles] at requester
  obtain ⟨profile, owner⟩ := Table.find_of_column requester
  obtain ⟨user, account⟩ := Table.find_of_column
    (db.owner_account (List.mem_map_of_mem (f := (·.userId)) (Table.find_some_mem owner).1))
  refine ⟨profile, user, ?_⟩
  simp only [profileOf, owner, account, Option.bind_eq_bind, Option.bind_some, Option.pure_def]

end ContactedDatabase

/-! ## A sample -/

/-- The sample with an account for its requester, and no request. -/
def untracked : ContactedDatabase where
  toDatabase := sampleDatabase 0
  accounts := ⟨[{ id := "awa", email := "awa@fsf.sn", passwordHash := "", kind := .requester }],
    List.pairwise_singleton _ _⟩
  owners := ⟨[{ id := "reporter", userId := "awa" }], List.pairwise_singleton _ _⟩
  profiles := rfl
  owner_account := by decide

def tracked : ContactedDatabase where
  toDatabase :=
    { sampleDatabase 0 with
      requests := ⟨[{
          id := "dossier"
          uniqueReference := "FSF-2026-841140"
          requesterId := "reporter"
          matchId := "final"
          categoryRequestedId := "press" }], List.pairwise_singleton _ _⟩
      referential := by constructor <;> simp [sampleDatabase, Table.column, Table.empty] }
  accounts := untracked.accounts
  owners := untracked.owners
  profiles := rfl
  owner_account := by decide

end AccreditationBackend
