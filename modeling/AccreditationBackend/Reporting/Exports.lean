import AccreditationBackend.AccessControl.Service
import AccreditationBackend.Iam.Rows
import AccreditationBackend.Kernel.Instants
import AccreditationBackend.Reporting.Dashboard
import AccreditationBackend.Requests.StatusMachine

/-! The exported reports: which rows each of them loads, and the text of every cell.

A loader yields nothing where a declared relation of a row leads nowhere.
-/

set_option autoImplicit false

namespace AccreditationBackend

open Foundation (Table)

def AccreditationStatus.value : AccreditationStatus → String
  | .active => "ACTIVE"
  | .revoked => "REVOKED"
  | .expired => "EXPIRED"

def ScanResult.value : ScanResult → String
  | .valid => "VALID"
  | .invalid => "INVALID"
  | .expired => "EXPIRED"
  | .revoked => "REVOKED"
  | .alreadyUsed => "ALREADY_USED"
  | .outOfScope => "OUT_OF_SCOPE"

/-- The database with the columns that reports alone read. -/
structure ReportedDatabase extends Database where
  accounts : Table User
  /-- When a request was created. -/
  createdAt : Uuid → Time
  known : users ⊆ accounts.column (·.id)

namespace ExportsService

structure ReportColumn where
  key : String
  header : String
  deriving DecidableEq, Repr

/-- A column with the text it shows of a record. -/
structure ReportField (ρ : Type) extends ReportColumn where
  cell : ρ → String

structure ReportTable where
  columns : List ReportColumn
  rows : List (List (String × String))
  deriving DecidableEq, Repr

/-- Every row has a cell for each column, in the order of the columns. -/
def tabulate {ρ : Type} (fields : List (ReportField ρ)) (records : List ρ) : ReportTable where
  columns := fields.map (·.toReportColumn)
  rows := records.map fun record => fields.map fun field => (field.key, field.cell record)

/-! ## Cells -/

section Cells

variable {ρ : Type}

/-- An instant that may be missing is shown as an empty cell. -/
def instantCell (t : Option Time) : String := (t.map toISOString).getD ""

def requesterName (detail : RequestDetail) : String :=
  s!"{detail.requester.firstName} {detail.requester.lastName}"

def matchLabel (m : Match) : String := s!"{m.homeTeam} vs {m.awayTeam}"

/-- The columns that show whose request it is, and for what. -/
def requestFields (detail : ρ → RequestDetail) : List (ReportField ρ) :=
  [⟨⟨"requesterName", "Demandeur"⟩, fun record => requesterName (detail record)⟩,
    ⟨⟨"mediaName", "Media"⟩, fun record => (detail record).media.name⟩,
    ⟨⟨"matchLabel", "Match"⟩, fun record => matchLabel (detail record).matchRow⟩,
    ⟨⟨"categoryLabel", "Categorie"⟩, fun record => (detail record).categoryRequested.label⟩]

def referenceField : ReportField RequestDetail :=
  ⟨⟨"uniqueReference", "Reference"⟩, (·.request.uniqueReference)⟩

def statusField : ReportField RequestDetail := ⟨⟨"status", "Statut"⟩, (·.request.status.value)⟩

def submittedField : ReportField RequestDetail :=
  ⟨⟨"submittedAt", "Soumise le"⟩, fun detail => instantCell detail.request.submittedAt⟩

end Cells

/-! ## Order

The database sorts a missing instant after all others. A sort is stable here,
where the order of equal instants is left open.
-/

def notLater : Option Time → Option Time → Bool
  | some a, some b => decide (a ≤ b)
  | none, some _ => false
  | _, none => true

section Order

variable {ρ : Type}

def ascending (instant : ρ → Option Time) (rows : List ρ) : List ρ :=
  rows.mergeSort fun a b => notLater (instant a) (instant b)

def descending (instant : ρ → Option Time) (rows : List ρ) : List ρ :=
  rows.mergeSort fun a b => notLater (instant b) (instant a)

end Order

/-! ## Reports over requests and badges -/

def requestFilterWhere (filter : DashboardFilterDto) : RequestWhere where
  matchId := filter.matchId
  categoryRequestedId := filter.categoryId
  competitionId := filter.competitionId
  mediaId := filter.mediaId

section Loaders

variable (db : ReportedDatabase) (filter : DashboardFilterDto)

/-- The requests that satisfy `w`, each joined with its rows. -/
def detailsWhere (w : RequestWhere) (order : List AccreditationRequest → List AccreditationRequest) :
    Option (List RequestDetail) :=
  (order (db.requests.rows.filter (w.holds db.toTables))).mapM fun r => db.requestDetail r.id

def loadRequests : Option ReportTable := do
  let requests ←
    detailsWhere db (requestFilterWhere filter) (descending fun r => some (db.createdAt r.id))
  return tabulate ([referenceField] ++ requestFields id ++ [statusField, submittedField,
    ⟨⟨"decisionAt", "Decision le"⟩, fun detail => instantCell detail.request.decisionAt⟩]) requests

def accreditedFields : List (ReportField AccreditationDetail) :=
  [⟨⟨"number", "N° badge"⟩, (·.accreditation.number)⟩,
    ⟨⟨"status", "Statut"⟩, (·.accreditation.status.value)⟩] ++
  requestFields (·.request) ++
  [⟨⟨"zones", "Zones"⟩, fun detail => ", ".intercalate detail.zoneLabels⟩,
    ⟨⟨"issuedAt", "Emis le"⟩, fun detail => toISOString detail.accreditation.issuedAt⟩,
    ⟨⟨"expiresAt", "Expire le"⟩, fun detail => toISOString detail.accreditation.expiresAt⟩]

def loadAccredited : Option ReportTable := do
  let matching := db.accreditations.rows.filter ((requestFilterWhere filter).holdsOf db.toTables)
  let accreditations ← (descending (fun a => some a.issuedAt) matching).mapM fun a =>
    db.accreditationDetail a.id
  return tabulate accreditedFields accreditations

/-- The label of each of the users that are still there. -/
def resolveUserLabels (ids : List Uuid) : List (Uuid × String) :=
  (db.accounts.rows.filter fun u => ids.contains u.id).map fun u => (u.id, u.displayName.getD u.email)

/-- A decider without an account is shown by its id. -/
def decidedBy (labels : List (Uuid × String)) (r : AccreditationRequest) : String :=
  match r.decisionById with
  | some id => (labels.lookup id).getD id
  | none => ""

def loadRejected : Option ReportTable := do
  let requests ← detailsWhere db { requestFilterWhere filter with statusIn := some [.rejected] }
    (descending (·.decisionAt))
  let labels := resolveUserLabels db (requests.filterMap (·.request.decisionById))
  return tabulate ([referenceField] ++ requestFields id ++
    [⟨⟨"decisionAt", "Refusee le"⟩, fun detail => instantCell detail.request.decisionAt⟩,
      ⟨⟨"decidedBy", "Decidee par"⟩, fun detail => decidedBy labels detail.request⟩,
      ⟨⟨"decisionReason", "Motif"⟩, fun detail => detail.request.decisionReason.getD ""⟩]) requests

/-- Whole days since the submission, rounded down. -/
def daysPending (now : Time) (r : AccreditationRequest) : String :=
  (r.submittedAt.map fun t => toString ((now - t) / 86400000)).getD ""

def loadPending (now : Time) : Option ReportTable := do
  let requests ← detailsWhere db
    { requestFilterWhere filter with statusIn := some DashboardService.pendingStatuses }
    (ascending (·.submittedAt))
  return tabulate ([referenceField] ++ requestFields id ++ [statusField, submittedField,
    ⟨⟨"daysPending", "Jours en attente"⟩, fun detail => daysPending now detail.request⟩]) requests

/-! ## Reports over scans -/

inductive ScanReport where
  | entries | anomalies
  deriving DecidableEq, Repr

/-- A scan joined with its rows; a scan of an unknown token has no badge. -/
structure ScanDetail where
  scan : ScanLog
  zone : Option Zone
  matchRow : Match
  scannedBy : User
  accreditation : Option AccreditationDetail

/-- The columns of an optional relation: absent, or there with its row. -/
def optionally {ρ κ : Type} (look : κ → Option ρ) : Option κ → Option (Option ρ)
  | none => some none
  | some id => (look id).map some

def scanDetail (l : ScanLog) : Option ScanDetail := do
  let zone ← optionally (fun id => db.zones.find (·.id == id)) l.zoneId
  let matchRow ← db.matchRows.find (·.id == l.matchId)
  let scannedBy ← db.accounts.find (·.id == l.scannedById)
  let accreditation ← optionally db.accreditationDetail l.accreditationId
  return { scan := l, zone, matchRow, scannedBy, accreditation }

def scanFields : List (ReportField ScanDetail) :=
  [⟨⟨"scannedAt", "Horodatage"⟩, fun detail => toISOString detail.scan.scannedAt⟩,
    ⟨⟨"matchLabel", "Match"⟩, fun detail => matchLabel detail.matchRow⟩,
    ⟨⟨"result", "Resultat"⟩, (·.scan.result.value)⟩,
    ⟨⟨"reason", "Motif"⟩, (·.scan.reason.getD "")⟩,
    ⟨⟨"zoneLabel", "Zone"⟩, fun detail => (detail.zone.map (·.label)).getD ""⟩,
    ⟨⟨"gate", "Poste"⟩, (·.scan.gate.getD "")⟩,
    ⟨⟨"agent", "Agent"⟩, fun detail => detail.scannedBy.displayName.getD detail.scannedBy.email⟩,
    ⟨⟨"requesterName", "Titulaire"⟩, fun detail =>
      (detail.accreditation.map fun a => requesterName a.request).getD ""⟩,
    ⟨⟨"mediaName", "Media"⟩, fun detail =>
      (detail.accreditation.map (·.request.media.name)).getD ""⟩,
    ⟨⟨"categoryLabel", "Categorie"⟩, fun detail =>
      (detail.accreditation.map (·.request.categoryRequested.label)).getD ""⟩]

def ScanReport.includes : ScanReport → ScanResult → Bool
  | .entries, result => result == .valid
  | .anomalies, result => result != .valid

/-- The condition on a scan. -/
def scanWhere (kind : ScanReport) (l : ScanLog) : Bool :=
  let requestWhere : RequestWhere :=
    { categoryRequestedId := filter.categoryId
      competitionId := filter.competitionId
      mediaId := filter.mediaId }
  let hasRequestFilter := requestWhere != {}
  filter.matchId.all (· == l.matchId) && kind.includes l.result &&
    -- Without a condition on the request, scans of unknown tokens are there too.
    (!hasRequestFilter || (l.accreditationId.bind db.accreditationById).any (requestWhere.holdsOf db.toTables))

def loadScans (kind : ScanReport) : Option ReportTable := do
  let scans ←
    (descending (fun l => some l.scannedAt) (db.scanLogs.filter (scanWhere db filter kind))).mapM
    (scanDetail db)
  return tabulate scanFields scans

/-! ## All of them -/

inductive ReportKey where
  | requests | accredited | rejected | pending | entries | anomalies
  deriving DecidableEq, Repr

/-- The rows of a report; its title and its scope are texts for the reader. -/
def buildReport (now : Time) : ReportKey → Option ReportTable
  | .requests => loadRequests db filter
  | .accredited => loadAccredited db filter
  | .rejected => loadRejected db filter
  | .pending => loadPending db filter now
  | .entries => loadScans db filter .entries
  | .anomalies => loadScans db filter .anomalies

end Loaders

end ExportsService

end AccreditationBackend
