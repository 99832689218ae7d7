import AccreditationBackend.Foundation.Grouping
import AccreditationBackend.Store.Database

/-! The dashboard: indicators counted over the requests, the badges and the scans. -/

set_option autoImplicit false

namespace AccreditationBackend

open Foundation (Table groupCounts)

structure DashboardFilterDto where
  competitionId : Option Uuid := none
  matchId : Option Uuid := none
  mediaId : Option Uuid := none
  categoryId : Option Uuid := none
  deriving DecidableEq, Repr

/-- The condition on a request that a filter makes; an absent key is no condition. -/
structure RequestWhere where
  matchId : Option Uuid := none
  categoryRequestedId : Option Uuid := none
  /-- Of the match. -/
  competitionId : Option Uuid := none
  /-- Of the requester. -/
  mediaId : Option Uuid := none
  statusIn : Option (List RequestStatus) := none
  deriving DecidableEq, Repr

def RequestWhere.holds (w : RequestWhere) (t : Tables) (r : AccreditationRequest) : Bool :=
  w.matchId.all (· == r.matchId) && w.categoryRequestedId.all (· == r.categoryRequestedId) &&
    (w.competitionId.all fun id =>
      (t.matchRows.find (·.id == r.matchId)).any (·.competitionId == id)) &&
    (w.mediaId.all fun id => (t.requesters.find (·.id == r.requesterId)).any (·.mediaId == id)) &&
    w.statusIn.all (·.contains r.status)

/-- The condition `request: where` on a badge. -/
def RequestWhere.holdsOf (w : RequestWhere) (t : Tables) (a : Accreditation) : Bool :=
  (t.requestById a.requestId).any (w.holds t)

namespace DashboardService

def pendingStatuses : List RequestStatus := [.submitted, .underReview, .complete, .pendingValidation]

def validatedStatuses : List RequestStatus := [.validated, .badgeGenerated, .accessUsed]

/-! ## The whole event -/

structure RequestStats where
  total : Nat
  pending : Nat
  validated : Nat
  rejected : Nat
  incomplete : Nat
  deriving DecidableEq, Repr

structure AccreditationStats where
  generated : Nat
  used : Nat
  deriving DecidableEq, Repr

structure ReferentialStats where
  media : Nat
  requesters : Nat
  deriving DecidableEq, Repr

/-- The completion rate is in tenths of a percent. -/
structure GlobalStats where
  requests : RequestStats
  accreditations : AccreditationStats
  referentials : ReferentialStats
  completionRate : Nat
  computedAt : Time
  deriving DecidableEq, Repr

/-- `rate` is the quotient of two numbers as the code rounds it, from a double to one decimal. -/
def getGlobalStats (rate : Nat → Nat → Nat) (now : Time) (db : Database) (filter : DashboardFilterDto) :
    GlobalStats :=
  let requestWhere : RequestWhere :=
    { matchId := filter.matchId
      categoryRequestedId := filter.categoryId
      competitionId := filter.competitionId
      mediaId := filter.mediaId }
  let counted (statusIn : List RequestStatus) :=
    db.requests.count ({ requestWhere with statusIn := some statusIn }.holds db.toTables)
  let total := db.requests.count (requestWhere.holds db.toTables)
  let validated := counted validatedStatuses
  { requests :=
      { total
        pending := counted pendingStatuses
        validated
        rejected := counted [.rejected]
        incomplete := counted [.infoRequested] }
    accreditations :=
      { generated := db.accreditations.count (requestWhere.holdsOf db.toTables)
        used := db.accreditations.count fun a => requestWhere.holdsOf db.toTables a &&
          db.scanLogs.any fun l => l.accreditationId == some a.id && l.result == .valid }
    referentials := { media := db.media.rows.length, requesters := db.requesters.rows.length }
    completionRate := if 0 < total then rate validated total else 0
    computedAt := now }

/-! ## One match day -/

structure MatchDayStats where
  matchId : Uuid
  accredited : Nat
  entries : Nat
  refusals : Nat
  scansByResult : List (ScanResult × Nat)
  zoneBreakdown : List (Option Uuid × Nat)
  lastScans : List ScanLog
  activeDevices : Nat
  computedAt : Time
  deriving DecidableEq, Repr

def getMatchDayStats (now : Time) (db : Database) (matchId : Uuid) : MatchDayStats :=
  let scans := db.scanLogs.filter (·.matchId == matchId)
  let scansByResult := groupCounts (·.result) scans
  { matchId
    accredited := db.accreditations.count fun a =>
      (db.requestById a.requestId).any (·.matchId == matchId) && a.status == .active
    entries := (scansByResult.lookup .valid).getD 0
    refusals := ((scansByResult.filter (·.1 != .valid)).map (·.2)).sum
    scansByResult
    zoneBreakdown := groupCounts (·.zoneId) (scans.filter (·.result == .valid))
    -- The sort is stable where the order of equal instants is left open.
    lastScans := (scans.mergeSort fun a b => decide (b.scannedAt ≤ a.scannedAt)).take 20
    activeDevices := (scans.map (·.deviceId)).dedup.length
    computedAt := now }

end DashboardService

end AccreditationBackend
