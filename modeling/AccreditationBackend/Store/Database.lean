import AccreditationBackend.Kernel.Domain

/-! The database: its tables, and its foreign keys as a field. -/

set_option autoImplicit false

namespace AccreditationBackend

open Foundation (Table)

structure Tables where
  users : List Uuid := []
  competitions : List Uuid := []
  media : Table Media := .empty
  requesters : Table RequesterProfile := .empty
  matchRows : Table Match := .empty
  categories : Table AccreditationCategory := .empty
  zones : Table Zone := .empty
  quotas : Table MatchCategoryQuota := .empty
  quotaZones : Table MatchCategoryQuotaZone := .empty
  requests : Table AccreditationRequest := .empty
  complements : Table RequestComplement := .empty
  decisions : List RequestDecision := []
  accreditations : Table Accreditation := .empty
  accreditationZones : Table AccreditationZone := .empty
  scanLogs : List ScanLog := []
  /-- Published on the in-process bus, in order. -/
  events : List DomainEvent := []

/-- The declared foreign keys. The actor of a decision, a complement or a
revocation is the authenticated user, read in the same HTTP request; only the
agent of a scan is checked here. -/
structure Referential (t : Tables) : Prop where
  requester_media : t.requesters.column (·.mediaId) ⊆ t.media.column (·.id)
  match_competition : t.matchRows.column (·.competitionId) ⊆ t.competitions
  quota_match : t.quotas.column (·.matchId) ⊆ t.matchRows.column (·.id)
  quota_category : t.quotas.column (·.categoryId) ⊆ t.categories.column (·.id)
  quotaZone_quota : t.quotaZones.column (·.quotaId) ⊆ t.quotas.column (·.id)
  quotaZone_zone : t.quotaZones.column (·.zoneId) ⊆ t.zones.column (·.id)
  request_requester : t.requests.column (·.requesterId) ⊆ t.requesters.column (·.id)
  request_match : t.requests.column (·.matchId) ⊆ t.matchRows.column (·.id)
  request_category : t.requests.column (·.categoryRequestedId) ⊆ t.categories.column (·.id)
  complement_request : t.complements.column (·.requestId) ⊆ t.requests.column (·.id)
  decision_request : t.decisions.map (·.requestId) ⊆ t.requests.column (·.id)
  accreditation_request : t.accreditations.column (·.requestId) ⊆ t.requests.column (·.id)
  accreditationZone_accreditation :
    t.accreditationZones.column (·.accreditationId) ⊆ t.accreditations.column (·.id)
  accreditationZone_zone : t.accreditationZones.column (·.zoneId) ⊆ t.zones.column (·.id)
  scan_accreditation : t.scanLogs.filterMap (·.accreditationId) ⊆ t.accreditations.column (·.id)
  scan_match : t.scanLogs.map (·.matchId) ⊆ t.matchRows.column (·.id)
  scan_zone : t.scanLogs.filterMap (·.zoneId) ⊆ t.zones.column (·.id)
  scan_agent : t.scanLogs.map (·.scannedById) ⊆ t.users

/-- A state the database can be in: no foreign key dangles. -/
structure Database extends Tables where
  referential : Referential toTables

def Database.empty : Database := ⟨{}, by constructor <;> exact List.nil_subset _⟩

instance : Inhabited Database := ⟨.empty⟩

/-- A small database: one match, one category and one requester, with a quota of `quotaTotal` slots. -/
def sampleDatabase (quotaTotal : Nat) : Database where
  users := ["agent"]
  competitions := ["cup"]
  media := ⟨[{ id := "daily", name := "Daily" }], List.pairwise_singleton _ _⟩
  requesters :=
    ⟨[{ id := "reporter", mediaId := "daily", firstName := "Awa", lastName := "Fall", function := "press" }],
    List.pairwise_singleton _ _⟩
  matchRows := ⟨[{
      id := "final"
      competitionId := "cup"
      homeTeam := "Lions"
      awayTeam := "Eagles"
      kickoffAt := 0
      stadium := "Arena"
      city := "Dakar"
      status := .open }], List.pairwise_singleton _ _⟩
  categories := ⟨[{ id := "press", label := "Presse" }], List.pairwise_singleton _ _⟩
  zones := ⟨[{ id := "stand", label := "Tribune" }], List.pairwise_singleton _ _⟩
  quotas := ⟨[{ id := "quota", matchId := "final", categoryId := "press", quotaTotal }],
    List.pairwise_singleton _ _⟩
  referential := by constructor <;> simp [Table.column, Table.empty]

/-! ## Lookups by unique columns -/

section Lookups

variable (t : Tables)

def Tables.requestById (id : Uuid) : Option AccreditationRequest := t.requests.find (·.id == id)

def Tables.statusOf (id : Uuid) : Option RequestStatus := (t.requestById id).map (·.status)

def Tables.accreditationById (id : Uuid) : Option Accreditation := t.accreditations.find (·.id == id)

def Tables.accreditationByHash (hash : String) : Option Accreditation :=
  t.accreditations.find (·.qrTokenHash == hash)

def Tables.zoneIdsOf (accreditationId : Uuid) : List Uuid :=
  (t.accreditationZones.rows.filter (·.accreditationId == accreditationId)).map (·.zoneId)

end Lookups

def quotaOf (matchId categoryId : Uuid) (q : MatchCategoryQuota) : Bool :=
  q.matchId == matchId && q.categoryId == categoryId

def Tables.quotaRow (t : Tables) (matchId categoryId : Uuid) : Option MatchCategoryQuota :=
  t.quotas.find (quotaOf matchId categoryId)

theorem selects_quotaOf (matchId categoryId : Uuid) : Table.Selects (quotaOf matchId categoryId) := by
  intro a b left right
  simp only [quotaOf, Bool.and_eq_true, beq_iff_eq] at left right
  exact Or.inr (Prod.ext (left.1.trans right.1.symm) (left.2.trans right.2.symm))

theorem selects_matchId (id : Uuid) : Table.Selects (ρ := Match) (·.id == id) := by
  intro a b left right
  exact (beq_iff_eq.mp left).trans (beq_iff_eq.mp right).symm

theorem selects_quotaId (id : Uuid) : Table.Selects (ρ := MatchCategoryQuota) (·.id == id) := by
  intro a b left right
  exact Or.inl ((beq_iff_eq.mp left).trans (beq_iff_eq.mp right).symm)

theorem quotaById_stored {t : Tables} {q : MatchCategoryQuota} (stored : q ∈ t.quotas.rows) :
    t.quotas.find (·.id == q.id) = some q :=
  (Table.find_some_iff (selects_quotaId q.id)).mpr ⟨stored, by simp⟩

theorem selects_requestId (id : Uuid) : Table.Selects (ρ := AccreditationRequest) (·.id == id) := by
  intro a b left right
  exact Or.inl ((beq_iff_eq.mp left).trans (beq_iff_eq.mp right).symm)

theorem requestById_stored {t : Tables} {r : AccreditationRequest} (stored : r ∈ t.requests.rows) :
    t.requestById r.id = some r :=
  (Table.find_some_iff (selects_requestId r.id)).mpr ⟨stored, by simp⟩

theorem selects_accreditationId (id : Uuid) : Table.Selects (ρ := Accreditation) (·.id == id) := by
  intro a b left right
  exact Or.inl ((beq_iff_eq.mp left).trans (beq_iff_eq.mp right).symm)

theorem accreditationById_stored {t : Tables} {a : Accreditation} (stored : a ∈ t.accreditations.rows) :
    t.accreditationById a.id = some a :=
  (Table.find_some_iff (selects_accreditationId a.id)).mpr ⟨stored, by simp⟩

theorem selects_accreditationRequest (id : Uuid) :
    Table.Selects (ρ := Accreditation) (·.requestId == id) := by
  intro a b left right
  exact Or.inr (.inl ((beq_iff_eq.mp left).trans (beq_iff_eq.mp right).symm))

theorem selects_tokenHash (hash : String) :
    Table.Selects (ρ := Accreditation) (·.qrTokenHash == hash) := by
  intro a b left right
  exact Or.inr (.inr (.inr ((beq_iff_eq.mp left).trans (beq_iff_eq.mp right).symm)))

end AccreditationBackend
