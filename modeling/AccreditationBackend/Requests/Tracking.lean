import AccreditationBackend.Iam.Contacts

/-! The public tracking of a request by its reference, confirmed by the e-mail of its account.

Two databases may differ in everything that does not belong to the e-mail, and
whoever asks with it cannot tell them apart.
-/

set_option autoImplicit false

namespace AccreditationBackend

open Foundation (Table)

structure TrackedMatch where
  homeTeam : String
  awayTeam : String
  kickoffAt : Time
  stadium : String
  deriving DecidableEq, Repr

structure TrackRequestResult where
  uniqueReference : String
  status : RequestStatus
  matchInfo : TrackedMatch
  category : String
  submittedAt : Option Time
  decisionAt : Option Time
  decisionReason : Option String
  hasAccreditation : Bool
  deriving DecidableEq, Repr

namespace TrackRequestQuery

def noSuchRequest : DomainError where
  code := "REQUEST_NOT_FOUND"
  message := "Aucun dossier ne correspond a ces informations."
  kind := .notFound

/-- A request joined with what its tracking shows, and with the user who is to confirm it. -/
structure TrackedRequest where
  request : AccreditationRequest
  matchRow : Match
  categoryRequested : AccreditationCategory
  user : User
  accreditation : Option Accreditation

def joined (db : ContactedDatabase) (request : AccreditationRequest) : Option TrackedRequest := do
  let matchRow ← db.matchRows.find (·.id == request.matchId)
  let categoryRequested ← db.categories.find (·.id == request.categoryRequestedId)
  let (_, user) ← db.profileOf request.requesterId
  return ⟨request, matchRow, categoryRequested, user, db.accreditations.find (·.requestId == request.id)⟩

def TrackedRequest.result (tracked : TrackedRequest) : TrackRequestResult where
  uniqueReference := tracked.request.uniqueReference
  status := tracked.request.status
  matchInfo :=
    { homeTeam := tracked.matchRow.homeTeam
      awayTeam := tracked.matchRow.awayTeam
      kickoffAt := tracked.matchRow.kickoffAt
      stadium := tracked.matchRow.stadium }
  category := tracked.categoryRequested.label
  submittedAt := tracked.request.submittedAt
  decisionAt := tracked.request.decisionAt
  -- A reason of any other decision is not shown.
  decisionReason := if tracked.request.status = .rejected then tracked.request.decisionReason else none
  hasAccreditation := tracked.accreditation.isSome

/-- `toLowerCase` is JavaScript's. -/
def execute (toLowerCase : String → String) (db : ContactedDatabase) (reference email : String) :
    Except DomainError TrackRequestResult :=
  match (db.requests.find (·.uniqueReference == reference)).bind (joined db) with
  | none => .error noSuchRequest
  | some tracked =>
      if toLowerCase tracked.user.email ≠ toLowerCase email then .error noSuchRequest
      else .ok tracked.result

end TrackRequestQuery

/-! ## What belongs to an e-mail -/

section Own

variable (db : ContactedDatabase) (toLowerCase : String → String) (email : String)

def ContactedDatabase.ownAccounts : List User :=
  db.accounts.rows.filter fun u => toLowerCase u.email == toLowerCase email

def ContactedDatabase.ownProfiles : List ProfileLink :=
  db.owners.rows.filter fun profile => (db.ownAccounts toLowerCase email).any (·.id == profile.userId)

def ContactedDatabase.ownRequests : List AccreditationRequest :=
  db.requests.rows.filter fun r => (db.ownProfiles toLowerCase email).any (·.id == r.requesterId)

/-- The databases agree on the accounts of the e-mail, on their profiles, and on the
requests of these with what is joined to them. -/
structure AgreeOn (db' : ContactedDatabase) : Prop where
  accounts : ∀ u, u ∈ db.ownAccounts toLowerCase email ↔ u ∈ db'.ownAccounts toLowerCase email
  profiles : ∀ profile,
    profile ∈ db.ownProfiles toLowerCase email ↔ profile ∈ db'.ownProfiles toLowerCase email
  requests : ∀ r, r ∈ db.ownRequests toLowerCase email ↔ r ∈ db'.ownRequests toLowerCase email
  matchRows : ∀ r ∈ db.ownRequests toLowerCase email,
    db.matchRows.find (·.id == r.matchId) = db'.matchRows.find (·.id == r.matchId)
  categories : ∀ r ∈ db.ownRequests toLowerCase email,
    db.categories.find (·.id == r.categoryRequestedId) =
      db'.categories.find (·.id == r.categoryRequestedId)
  accreditations : ∀ r ∈ db.ownRequests toLowerCase email,
    db.accreditations.find (·.requestId == r.id) = db'.accreditations.find (·.requestId == r.id)

variable {db toLowerCase email}

theorem mem_ownRequests {r : AccreditationRequest} :
    r ∈ db.ownRequests toLowerCase email ↔ r ∈ db.requests.rows ∧
      ∃ profile user, db.profileOf r.requesterId = some (profile, user) ∧
        toLowerCase user.email = toLowerCase email := by
  simp only [ContactedDatabase.ownRequests, ContactedDatabase.ownProfiles,
    ContactedDatabase.ownAccounts, List.mem_filter, List.any_eq_true, beq_iff_eq,
    ContactedDatabase.profileOf_iff]
  refine and_congr_right fun _ => ⟨?_, ?_⟩
  · rintro ⟨profile, ⟨ownerStored, user, ⟨stored, own⟩, owned⟩, named⟩
    exact ⟨profile, user, ⟨⟨ownerStored, named⟩, stored, owned⟩, own⟩
  · rintro ⟨profile, user, ⟨⟨ownerStored, named⟩, stored, owned⟩, own⟩
    exact ⟨profile, ⟨ownerStored, user, ⟨stored, own⟩, owned⟩, named⟩

end Own

/-! ## What an answer depends on -/

namespace TrackRequestQuery

variable {toLowerCase : String → String} {db : ContactedDatabase} {reference email : String}

theorem execute_cases (toLowerCase : String → String) (db : ContactedDatabase)
    (reference email : String) :
    execute toLowerCase db reference email = .error noSuchRequest ∨
      ∃ result, execute toLowerCase db reference email = .ok result := by
  unfold execute
  split
  · exact .inl rfl
  · split
    · exact .inl rfl
    · exact .inr ⟨_, rfl⟩

theorem selects_uniqueReference (reference : String) :
    Table.Selects (ρ := AccreditationRequest) (·.uniqueReference == reference) := by
  intro a b left right
  exact Or.inr ((beq_iff_eq.mp left).trans (beq_iff_eq.mp right).symm)

theorem joined_iff {r : AccreditationRequest} {tracked : TrackedRequest} :
    joined db r = some tracked ↔
      db.matchRows.find (·.id == r.matchId) = some tracked.matchRow ∧
        db.categories.find (·.id == r.categoryRequestedId) = some tracked.categoryRequested ∧
        (∃ profile, db.profileOf r.requesterId = some (profile, tracked.user)) ∧ tracked.request = r ∧
        tracked.accreditation = db.accreditations.find (·.requestId == r.id) := by
  simp only [joined, Option.bind_eq_bind, Option.bind_eq_some_iff, Option.pure_def, Option.some.injEq,
    Prod.exists]
  constructor
  · rintro ⟨m, matchFound, c, categoryFound, profile, user, owner, rfl⟩
    exact ⟨matchFound, categoryFound, ⟨profile, owner⟩, rfl, rfl⟩
  · rintro ⟨matchFound, categoryFound, ⟨profile, owner⟩, rfl, accreditation⟩
    exact ⟨_, matchFound, _, categoryFound, profile, _, owner, by rw [← accreditation]⟩

theorem execute_ok {result : TrackRequestResult} :
    execute toLowerCase db reference email = .ok result ↔
      ∃ r ∈ db.ownRequests toLowerCase email, r.uniqueReference = reference ∧
        ∃ tracked, joined db r = some tracked ∧ tracked.result = result := by
  unfold execute
  constructor
  · intro answered
    cases looked : (db.requests.find (·.uniqueReference == reference)).bind (joined db) with
    | none =>
        rw [looked] at answered
        cases answered
    | some tracked =>
        rw [looked] at answered
        by_cases own : toLowerCase tracked.user.email = toLowerCase email
        · simp only [own, ne_eq, not_true_eq_false, if_false, Except.ok.injEq] at answered
          obtain ⟨r, found, joins⟩ := Option.bind_eq_some_iff.mp looked
          obtain ⟨stored, named⟩ := Table.find_some_mem found
          obtain ⟨_, _, ⟨profile, owner⟩, _⟩ := joined_iff.mp joins
          exact ⟨r, mem_ownRequests.mpr ⟨stored, profile, _, owner, own⟩, beq_iff_eq.mp named, tracked, joins,
            answered⟩
        · simp only [ne_eq, own, not_false_eq_true, if_true, reduceCtorEq] at answered
  · rintro ⟨r, own, named, tracked, joins, rfl⟩
    obtain ⟨stored, profile, user, owner, same⟩ := mem_ownRequests.mp own
    obtain ⟨_, _, ⟨_, owner'⟩, _⟩ := joined_iff.mp joins
    cases owner.symm.trans owner'
    have found : db.requests.find (·.uniqueReference == reference) = some r :=
      (Table.find_some_iff (selects_uniqueReference reference)).mpr ⟨stored, beq_iff_eq.mpr named⟩
    rw [found, Option.bind_some, joins]
    simp only [same, ne_eq, not_true_eq_false, if_false]

end TrackRequestQuery

variable {toLowerCase : String → String} {db db' : ContactedDatabase} {reference email : String}

theorem AgreeOn.symm (agree : AgreeOn db toLowerCase email db') :
    AgreeOn db' toLowerCase email db where
  accounts u := (agree.accounts u).symm
  profiles profile := (agree.profiles profile).symm
  requests r := (agree.requests r).symm
  matchRows r own := (agree.matchRows r ((agree.requests r).mpr own)).symm
  categories r own := (agree.categories r ((agree.requests r).mpr own)).symm
  accreditations r own := (agree.accreditations r ((agree.requests r).mpr own)).symm

theorem AgreeOn.answered (agree : AgreeOn db toLowerCase email db') {result : TrackRequestResult}
    (answered : TrackRequestQuery.execute toLowerCase db reference email = .ok result) :
    TrackRequestQuery.execute toLowerCase db' reference email = .ok result := by
  obtain ⟨r, own, named, tracked, joins, rfl⟩ := TrackRequestQuery.execute_ok.mp answered
  obtain ⟨matchFound, categoryFound, _, rfl, accreditation⟩ := TrackRequestQuery.joined_iff.mp joins
  have own' := (agree.requests _).mp own
  obtain ⟨_, profile, user, owner, _⟩ := mem_ownRequests.mp own'
  -- The user joined there may be another row, but nothing of it is shown.
  refine TrackRequestQuery.execute_ok.mpr ⟨_, own', named, { tracked with user }, ?_, rfl⟩
  refine TrackRequestQuery.joined_iff.mpr ⟨?_, ?_, ⟨profile, owner⟩, rfl, ?_⟩
  · rw [← agree.matchRows _ own, matchFound]
  · rw [← agree.categories _ own, categoryFound]
  · rw [← agree.accreditations _ own, accreditation]

/-- The tracking tells nothing about the requests of others: its answer is the same in
databases that agree on what belongs to the e-mail, and a reference that is not one of
its requests is answered like one that does not exist. -/
theorem track_leaks_nothing (toLowerCase : String → String) (db db' : ContactedDatabase)
    (reference email : String) (agree : AgreeOn db toLowerCase email db') :
    TrackRequestQuery.execute toLowerCase db reference email =
        TrackRequestQuery.execute toLowerCase db' reference email ∧
      ((∀ r ∈ db.ownRequests toLowerCase email, r.uniqueReference ≠ reference) →
        TrackRequestQuery.execute toLowerCase db reference email =
          .error TrackRequestQuery.noSuchRequest) := by
  constructor
  · rcases TrackRequestQuery.execute_cases toLowerCase db reference email with
      refused | ⟨result, answered⟩
    · rcases TrackRequestQuery.execute_cases toLowerCase db' reference email with
        refused' | ⟨result, answered'⟩
      · rw [refused, refused']
      · rw [answered', agree.symm.answered answered']
    · rw [answered, agree.answered answered]
  · intro others
    rcases TrackRequestQuery.execute_cases toLowerCase db reference email with
      refused | ⟨result, answered⟩
    · exact refused
    · obtain ⟨r, own, named, _⟩ := TrackRequestQuery.execute_ok.mp answered
      exact absurd named (others r own)

/-! ## Somebody else's reference -/

theorem track_leaks_nothing_elsewhere :
    TrackRequestQuery.execute id tracked "FSF-2026-841140" "eve@fsf.sn" =
      TrackRequestQuery.execute id untracked "FSF-2026-841140" "eve@fsf.sn" := by
  have accounts (db : ContactedDatabase) (same : db.accounts = untracked.accounts) :
      db.ownAccounts id "eve@fsf.sn" = [] := by
    rw [ContactedDatabase.ownAccounts, same]
    decide
  have strangers (db : ContactedDatabase) (same : db.accounts = untracked.accounts) :
      db.ownProfiles id "eve@fsf.sn" = [] ∧ db.ownRequests id "eve@fsf.sn" = [] := by
    simp [ContactedDatabase.ownProfiles, ContactedDatabase.ownRequests, accounts db same]
  refine (track_leaks_nothing id tracked untracked "FSF-2026-841140" "eve@fsf.sn" ⟨?_, ?_, ?_, ?_, ?_, ?_⟩).1 <;>
    simp [accounts tracked rfl, accounts untracked rfl, strangers tracked rfl, strangers untracked rfl]

/-- The e-mail of the account is asked for in whatever case. -/
example : (TrackRequestQuery.execute (fun s => String.ofList (s.toList.map Char.toLower)) tracked
    "FSF-2026-841140" "Awa@FSF.sn").isOk = true := by
  decide

end AccreditationBackend
