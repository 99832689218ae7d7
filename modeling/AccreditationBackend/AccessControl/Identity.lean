import AccreditationBackend.AccessControl.Batches
import AccreditationBackend.AccessControl.Offline
import AccreditationBackend.Accreditations.SignedPayload

/-! The names that a badge goes by offline.

The signed payload names a badge, the export names it, and a record that a device
brings back names it by what the device has read from the payload.
-/

set_option autoImplicit false

namespace AccreditationBackend

open Foundation

/-- The part of a record that the device knows by itself. -/
structure DeviceScan where
  zoneId : Option Uuid := none
  deviceId : String := ""
  gate : Option String := none
  result : ScanResult
  scannedAt : Time
  deriving DecidableEq, Repr

/-- The record of a scan, with the badge and the match of the payload verified. -/
def BadgePayload.scanned (payload : BadgePayload) (scan : DeviceScan) : OfflineScanRecordDto where
  accreditationId := payload.accreditationId
  matchId := payload.matchId
  zoneId := scan.zoneId
  deviceId := scan.deviceId
  gate := scan.gate
  result := scan.result
  scannedAt := scan.scannedAt

/-- The batch that a record comes in, with what is done before and after. -/
structure Journey where
  before : List Operation
  ambient : Ambient
  front : List OfflineScanRecordDto
  back : List OfflineScanRecordDto
  agent : Uuid
  later : List Operation

section Journeys

variable (services : Services) (db : Database) (journey : Journey) (scan : OfflineScanRecordDto)

def Journey.departed : Database := runFrom (perform services) db journey.before

/-- The loop comes to the record: nothing in front of it is refused. -/
def Journey.Reaches : Prop :=
  (outcome services (journey.departed services db)
    (.syncOfflineScans journey.ambient journey.front journey.agent)).isOk = true

def Journey.met : Database :=
  perform services (journey.departed services db)
    (.syncOfflineScans journey.ambient journey.front journey.agent)

def Journey.arrived : Database :=
  runFrom (perform services)
    (perform services (journey.departed services db)
      (.syncOfflineScans journey.ambient (journey.front ++ scan :: journey.back) journey.agent))
    journey.later

end Journeys

/-- The payload and the export name the badge alike, a record with that name refers to
a badge, and once a VALID one is taken in, its badge is used where it was scanned. -/
structure OneIdentity (services : Services) (db : Database) (badge : Accreditation)
    (payload : BadgePayload) : Prop where
  exported : ∀ ops matchId, ∀ entry ∈ (runFrom (perform services) db ops).exportForOfflineUse matchId,
    entry.qrTokenHash = badge.qrTokenHash → entry.accreditationId = payload.accreditationId
  referenced : ∀ ops,
    payload.accreditationId ∈ (runFrom (perform services) db ops).accreditations.column (·.id)
  used : ∀ (journey : Journey) (scan : DeviceScan), scan.result = .valid → journey.agent ∈ db.users →
    journey.Reaches services db →
    (payload.scanned scan).key ∉ scanKeys (journey.met services db).scanLogs →
    ∀ ambient dto agent, agent ∈ db.users → services.hash dto.token = badge.qrTokenHash →
      dto.zoneId = scan.zoneId →
      (onlineVerdict services (journey.arrived services db (payload.scanned scan)).toTables
        (ambient.clock 0) dto).result = .valid →
      outcome services (journey.arrived services db (payload.scanned scan))
        (.verifyScan ambient dto agent) = .ok (.verdict alreadyUsed)

/-- The generation inserted the badge, whether it returned it or failed later. -/
structure Produced (services : Services) (start : Database) (generation : Operation)
    (badge : Accreditation) : Prop where
  stored : badge ∈ (perform services start generation).accreditations.rows
  absent : badge ∉ start.accreditations.rows

/-! ## The log grows -/

theorem scans_grow (stmt : Statement) (db : Database) :
    db.scanLogs <+: (handle.after stmt db).scanLogs := by
  rcases scans_step stmt db with appended | same
  · rw [appended]
    exact List.prefix_append _ _
  · rw [same]

theorem run_scans_grow {A : Type} (p : Op A) (db : Database) :
    db.scanLogs <+: (p.run handle db).2.scanLogs :=
  (Proc.events_linked handle p db).relates (R := fun s t : Database => s.scanLogs <+: t.scanLogs)
    (fun _ => List.prefix_rfl) (fun _ _ _ => List.IsPrefix.trans) fun e member => by
      rw [Proc.events_genuine handle p db e member]
      exact scans_grow e.stmt e.before

theorem ops_scans_grow (services : Services) (start : Database) (ops : List Operation) :
    start.scanLogs <+: (runFrom (perform services) start ops).scanLogs :=
  run_relates services (R := fun s t : Database => s.scanLogs <+: t.scanLogs)
    (fun _ => List.prefix_rfl) (fun _ _ _ => List.IsPrefix.trans) scans_grow start ops

/-! ## One record of a batch -/

theorem syncOfflineScans_append (ambient : Ambient) (agent : Uuid)
    (front back : List OfflineScanRecordDto) (index : Nat) (start : SyncOfflineScansResult) :
    syncOfflineScans ambient agent index (front ++ back) start =
      (syncOfflineScans ambient agent index front start >>= fun result =>
        syncOfflineScans ambient agent (index + front.length) back result) := by
  induction front generalizing index start with
  | nil => rfl
  | cons scan rest ih =>
      have further : index + (scan :: rest).length = index + 1 + rest.length := by
        rw [List.length_cons]
        omega
      simp only [List.cons_append, syncOfflineScans, Proc.query_bind, Proc.read_bind, further]
      congr 1
      funext db
      split
      · exact ih (index + 1) _
      · simp only [Proc.read_bind, Proc.bind_assoc, ih]

theorem syncOfflineScans_first (ambient : Ambient) (agent : Uuid) {scan : OfflineScanRecordDto}
    (rest : List OfflineScanRecordDto) {db : Database} (refers : scan.Refers db.toTables agent)
    (new : scan.key ∉ scanKeys db.scanLogs) (index : Nat) (start : SyncOfflineScansResult) :
    offlineScan scan agent (ambient.clock index) (db.accreditationById scan.accreditationId) ∈
      ((syncOfflineScans ambient agent index (scan :: rest) start).run handle db).2.scanLogs := by
  obtain ⟨next, logged⟩ : ∃ next, handle (.createScanLog (offlineScan scan agent (ambient.clock index)
      (db.accreditationById scan.accreditationId))) db = .ok (_, next) := handle_refers refers
  simp only [syncOfflineScans, Proc.query_bind, Proc.run]
  rw [if_neg ((any_isSameScan db.scanLogs).not.mpr new)]
  simp only [Proc.run]
  rw [issue_bind, Proc.run, logged]
  refine (run_scans_grow _ next).subset ?_
  rw [apply_scans (handle_ok logged)]
  exact List.mem_append_right _ (List.mem_singleton_self _)

section Journeys

variable {services : Services} {db : Database} {journey : Journey} {scan : OfflineScanRecordDto}

theorem Journey.met_run : journey.met services db = runFrom (perform services) db
    (journey.before ++ [.syncOfflineScans journey.ambient journey.front journey.agent]) := by
  rw [runFrom_append]
  rfl

theorem Journey.arrived_run : journey.arrived services db scan = runFrom (perform services) db
    (journey.before ++ .syncOfflineScans journey.ambient (journey.front ++ scan :: journey.back) journey.agent ::
      journey.later) := by
  rw [runFrom_append]
  rfl

theorem Journey.logged (reaches : journey.Reaches services db)
    (refers : scan.Refers (journey.met services db).toTables journey.agent)
    (new : scan.key ∉ scanKeys (journey.met services db).scanLogs) :
    ∃ syncedAt badge, offlineScan scan journey.agent syncedAt badge ∈
      (journey.arrived services db scan).scanLogs := by
  have met : journey.met services db = ((syncOfflineScans journey.ambient journey.agent 0 journey.front
      {}).run handle (journey.departed services db)).2 := congrArg Prod.snd reply_run
  have returned : (((syncOfflineScans journey.ambient journey.agent 0 journey.front {}).run handle
      (journey.departed services db)).1.map Reply.synced).isOk = true :=
    (congrArg (fun result : Except Failure Reply × Database => result.1.isOk) reply_run).symm.trans reaches
  generalize ran : (syncOfflineScans journey.ambient journey.agent 0 journey.front {}).run handle
    (journey.departed services db) = front at met returned
  obtain ⟨result, db'⟩ := front
  cases result with
  | error why => cases returned
  | ok result =>
      subst met
      have whole : perform services (journey.departed services db) (.syncOfflineScans journey.ambient
          (journey.front ++ scan :: journey.back) journey.agent) =
          ((syncOfflineScans journey.ambient journey.agent
            0 (journey.front ++ scan :: journey.back) {}).run handle
              (journey.departed services db)).2 :=
        congrArg Prod.snd reply_run
      have logged := syncOfflineScans_first journey.ambient journey.agent journey.back refers new
        (0 + journey.front.length) result
      rw [syncOfflineScans_append, Proc.run_bind, ran] at whole
      rw [← whole] at logged
      exact ⟨_, _, (ops_scans_grow services _ journey.later).subset logged⟩

end Journeys

/-! ## The badge later on -/

theorem run_users (services : Services) (start : Database) (ops : List Operation) :
    (runFrom (perform services) start ops).users = start.users :=
  run_relates services (R := fun s t : Database => t.users = s.users) (fun _ => rfl)
    (fun _ _ _ first second => second.trans first)
    (fun stmt db => (reference_kept stmt db).users) start ops

theorem zone_exists {db : Database} {id zoneId : Uuid} (granted : zoneId ∈ db.zoneIdsOf id) :
    zoneId ∈ db.zones.column (·.id) := by
  obtain ⟨link, stored, rfl⟩ := List.mem_map.mp granted
  exact db.referential.accreditationZone_zone (List.mem_map_of_mem (List.mem_filter.mp stored).1)

theorem Endures.refers {db t : Database} (endures : Endures db t) {badge : Accreditation}
    {r : AccreditationRequest} (found : db.accreditationById badge.id = some badge)
    (request : db.requestById badge.requestId = some r) {scan : OfflineScanRecordDto} {agent : Uuid}
    (named : scan.accreditationId = badge.id) (matchId : scan.matchId = r.matchId)
    (zone : ∀ zoneId ∈ scan.zoneId, zoneId ∈ t.zoneIdsOf badge.id) (known : agent ∈ t.users) :
    scan.Refers t.toTables agent where
  accreditation := by
    obtain ⟨b, foundB, same⟩ := endures.badge badge.id badge found
    rw [named, ← same.id]
    exact List.mem_map_of_mem (Table.find_some_mem foundB).1
  matchRow := by
    obtain ⟨r', request', kept⟩ := endures.request badge.requestId r request
    rw [matchId, ← kept]
    exact t.referential.request_match (List.mem_map_of_mem (Table.find_some_mem request').1)
  zone zoneId asked := zone_exists (zone zoneId asked)
  agent := known

theorem Fit.named {db : Database} {now : Time} {dto : VerifyScanDto} {a : Accreditation}
    (fit : Fit db.toTables now dto a) {agent : Uuid} (known : agent ∈ db.users) :
    Named db.toTables dto agent where
  matchRow := by
    obtain ⟨r, request, own⟩ := fit.ownMatch
    rw [← own]
    exact db.referential.request_match (List.mem_map_of_mem (Table.find_some_mem request).1)
  zone zoneId asked := zone_exists (fit.zones zoneId asked)
  agent := known

theorem scan_used {services : Services} {db : Database} {ambient : Ambient} {dto : VerifyScanDto}
    {agent : Uuid} {a : Accreditation}
    (found : db.accreditationByHash (services.hash dto.token) = some a)
    (fit : Fit db.toTables (ambient.clock 0) dto a) (used : 0 < db.uses a.id dto.zoneId)
    (known : agent ∈ db.users) :
    outcome services db (.verifyScan ambient dto agent) = .ok (.verdict alreadyUsed) := by
  obtain ⟨joined, verdict, judged, returned, _⟩ :=
    scan_logged services ambient dto agent (fit.named known)
  have valid := onlineVerdict_iff.mpr ⟨a, found, fit⟩
  have refused : verdict.result ≠ .valid := fun admitted => by
    obtain ⟨detail, rfl, _, unused⟩ := judged.fit admitted
    cases found.symm.trans judged.matched.badge
    omega
  obtain same | ⟨same, _⟩ := judged.online
  · exact absurd (same ▸ valid) refused
  · rw [returned, same]
    rfl

/-- The badge, the payload signed for it and its request, right after the generation. -/
structure Issued (db : Database) (badge : Accreditation) (payload : BadgePayload) (requestId : Uuid) :
    Prop where
  found : db.accreditationById badge.id = some badge
  active : badge.status = .active
  named : payload.accreditationId = requestId
  request : ∃ r, db.requestById badge.requestId = some r ∧ r.matchId = payload.matchId

theorem Issued.used {services : Services} {db : Database} {badge : Accreditation} {payload : BadgePayload}
    {requestId : Uuid} (issued : Issued db badge payload requestId)
    (same : payload.accreditationId = badge.id) {journey : Journey} {scan : DeviceScan}
    (valid : scan.result = .valid) (carrier : journey.agent ∈ db.users) (reaches : journey.Reaches services db)
    (new : (payload.scanned scan).key ∉ scanKeys (journey.met services db).scanLogs)
    (ambient : Ambient) (dto : VerifyScanDto) (agent : Uuid) (known : agent ∈ db.users)
    (token : services.hash dto.token = badge.qrTokenHash) (zone : dto.zoneId = scan.zoneId)
    (passes : (onlineVerdict services (journey.arrived services db (payload.scanned scan)).toTables
      (ambient.clock 0) dto).result = .valid) :
    outcome services (journey.arrived services db (payload.scanned scan))
      (.verifyScan ambient dto agent) =
      .ok (.verdict alreadyUsed) := by
  obtain ⟨r, request, ownMatch⟩ := issued.request
  have toMet : Endures db (journey.met services db) := by
    rw [Journey.met_run]
    exact run_endures services db _
  have toArrived : Endures db (journey.arrived services db (payload.scanned scan)) := by
    rw [Journey.arrived_run]
    exact run_endures services db _
  obtain ⟨a, found, fit⟩ := onlineVerdict_iff.mp passes
  obtain ⟨b, foundB, sameB⟩ := toArrived.byHash (token ▸ byHash_iff.mpr ⟨issued.found, rfl⟩)
  cases found.symm.trans foundB
  -- The zone of the scan is one of the badge, and has been from the start.
  have granted (zoneId : Uuid) (asked : zoneId ∈ scan.zoneId) :
      zoneId ∈ (journey.met services db).zoneIdsOf badge.id := by
    have kept := fit.zones zoneId (zone ▸ asked)
    rw [sameB.id, toArrived.zones badge.id (by simp [issued.found])] at kept
    rwa [toMet.zones badge.id (by simp [issued.found])]
  have metUsers : (journey.met services db).users = db.users := by
    rw [Journey.met_run]
    exact run_users services db _
  have arrivedUsers : (journey.arrived services db (payload.scanned scan)).users = db.users := by
    rw [Journey.arrived_run]
    exact run_users services db _
  have refers : (payload.scanned scan).Refers (journey.met services db).toTables journey.agent :=
    toMet.refers issued.found request same ownMatch.symm granted (metUsers ▸ carrier)
  obtain ⟨syncedAt, row, logged⟩ := Journey.logged reaches refers new
  refine scan_used found fit (List.countP_pos_iff.mpr ⟨_, logged, ?_⟩) (arrivedUsers ▸ known)
  simp [isUse, offlineScan, BadgePayload.scanned, same, sameB.id, zone, valid]

theorem Issued.identity {db : Database} {badge : Accreditation} {payload : BadgePayload}
    {requestId : Uuid} (issued : Issued db badge payload requestId) (services : Services) :
    OneIdentity services db badge payload ↔ badge.id = requestId := by
  obtain ⟨r, request, ownMatch⟩ := issued.request
  have byHash : db.accreditationByHash badge.qrTokenHash = some badge :=
    byHash_iff.mpr ⟨issued.found, rfl⟩
  constructor
  -- Right after the generation the badge is in the export of its match.
  · intro identity
    have stored := (Table.find_some_mem issued.found).1
    have active : db.activeFor payload.matchId badge = true :=
      activeFor_iff.mpr ⟨issued.active, r, request, ownMatch⟩
    exact (identity.exported [] payload.matchId _
      (List.mem_map_of_mem (List.mem_filter.mpr ⟨stored, active⟩)) rfl).trans issued.named
  · intro named
    have same : payload.accreditationId = badge.id := issued.named.trans named.symm
    refine ⟨fun ops matchId entry member token => ?_, fun ops => ?_, ?_⟩
    · obtain ⟨b, foundB, sameB⟩ := (run_endures services db ops).byHash byHash
      obtain ⟨a, stored, rfl⟩ := List.mem_map.mp member
      have foundA :
          (runFrom (perform services) db ops).accreditationByHash badge.qrTokenHash = some a :=
        byHash_iff.mpr ⟨accreditationById_stored (List.mem_filter.mp stored).1, token⟩
      cases foundA.symm.trans foundB
      exact sameB.id.trans same.symm
    · obtain ⟨b, foundB, sameB⟩ := (run_endures services db ops).badge badge.id badge issued.found
      rw [same, ← sameB.id]
      exact List.mem_map_of_mem (Table.find_some_mem foundB).1
    · exact fun journey scan => issued.used same

theorem published_badges (event : DomainEvent) (db : Database) :
    (handle.after (.publish event) db).accreditations = db.accreditations := by
  rcases after_cases (.publish event) db with same | ⟨reply, applied⟩
  · rw [same]
  · exact (apply_badges applied rfl).1

theorem Produced.issued {hash : String → String} {key : SigningKey} {start : Database} {ambient : Ambient}
    {requestId : Uuid} {zoneIds : List Uuid} {options : GenerateAccreditationOptions} {badge : Accreditation}
    (produced : Produced (signingServices hash key) start
      (.generateAccreditation ambient requestId zoneIds options) badge) {payload : BadgePayload}
    (signed : badge.cryptoSignature.rawPayload = EcdsaSignerService.canonicalize payload.record) :
    badge.id = ambient.freshId ∧ Issued (perform (signingServices hash key) start
      (.generateAccreditation ambient requestId zoneIds options)) badge payload requestId := by
  have alone : perform (signingServices hash key) start
      (.generateAccreditation ambient requestId zoneIds options) =
      ((generateAccreditation (signingServices hash key) ambient (ambient.clock 0) requestId zoneIds options).run
        handle start).2 := congrArg Prod.snd reply_run
  have stored := produced.stored
  have endures := run_endures (signingServices hash key) start
    [.generateAccreditation ambient requestId zoneIds options]
  rw [runFrom_cons, runFrom_nil] at endures
  rcases generateAccreditation_cases (signingServices hash key) ambient
    (ambient.clock 0) requestId zoneIds
    options start with ⟨why, ran⟩ | ⟨detail, number, t, joined, created, announced⟩
  · rw [alone, ran] at stored
    exact absurd stored produced.absent
  · have rows : (perform (signingServices hash key) start
        (.generateAccreditation ambient requestId zoneIds options)).accreditations =
        t.accreditations := by
      rcases announced with ⟨why, ran⟩ | ran <;> rw [alone, ran]
      exact published_badges _ t
    have inserted :
        badge = issuedBadge (signingServices hash key) ambient (ambient.clock 0) requestId zoneIds
        options detail number := by
      rw [rows, (badge_created created).1, List.mem_append, List.mem_singleton] at stored
      exact stored.resolve_left produced.absent
    have found := accreditationById_stored produced.stored
    subst inserted
    -- The text signed is that of the payload made here.
    obtain rfl := canonicalize_injective (signed.symm.trans (rfl : _ = EcdsaSignerService.canonicalize
      (badgePayload detail number zoneIds options (ambient.clock 0)
        (detail.matchRow.kickoffAt + defaultValidityDays * 86400000)).record))
    have request := (requestDetail_parts joined).1
    refine ⟨rfl, found, rfl, ?_, endures.request requestId _ request⟩
    exact beq_iff_eq.mp (Table.find_some_mem request).2

/-- A badge has one identity offline exactly when the id drawn for it is that of its request. -/
theorem one_identity (hash : String → String) (key : SigningKey) (start : Database) (ambient : Ambient)
    (requestId : Uuid) (zoneIds : List Uuid) (options : GenerateAccreditationOptions) (badge : Accreditation)
    (payload : BadgePayload)
    (produced : Produced (signingServices hash key) start
      (.generateAccreditation ambient requestId zoneIds options) badge)
    (signed : badge.cryptoSignature.rawPayload = EcdsaSignerService.canonicalize payload.record) :
    OneIdentity (signingServices hash key) (perform (signingServices hash key) start
      (.generateAccreditation ambient requestId zoneIds options)) badge payload ↔
      ambient.freshId = requestId := by
  obtain ⟨named, issued⟩ := produced.issued signed
  rw [← named]
  exact issued.identity (signingServices hash key)

/-! ## A badge drawn with an id of its own -/

/-- The sample's request gets a badge with the id drawn. -/
def badgeDrawn (freshId : Uuid) : Operation :=
  .generateAccreditation { freshId, rawToken := "token" } "dossier" ["stand"] {}

theorem badge_produced (freshId : Uuid)
    (issued : (perform (signingServices id sampleKey) requestedDatabase
      (badgeDrawn freshId)).accreditations.rows ≠ []) :
    ∃ badge payload, Produced (signingServices id sampleKey) requestedDatabase
      (badgeDrawn freshId) badge ∧
      badge.cryptoSignature.rawPayload =
        EcdsaSignerService.canonicalize (BadgePayload.record payload) := by
  have stored := List.head_mem issued
  obtain ⟨payload, truthful⟩ :=
    generateAccreditation_true id sampleKey requested_unsigned
      { freshId, rawToken := "token" } "dossier"
      ["stand"] {} _ stored
  have empty : requestedDatabase.accreditations.rows = [] := by decide
  exact ⟨_, payload, ⟨stored, by rw [empty]; exact List.not_mem_nil⟩, truthful.signed⟩

theorem one_identity_dossier :
    ∃ badge payload, OneIdentity (signingServices id sampleKey)
      (perform (signingServices id sampleKey) requestedDatabase (badgeDrawn "dossier"))
        badge payload := by
  obtain ⟨badge, payload, produced, signed⟩ := badge_produced "dossier" (by decide)
  exact ⟨badge, payload, (one_identity id sampleKey requestedDatabase _ _ _ _ badge payload produced signed).mpr rfl⟩

/-- The payload names the request, the export the badge. -/
theorem two_identities :
    ¬ ∀ badge payload, Produced (signingServices id sampleKey) requestedDatabase
      (badgeDrawn "badge") badge →
      badge.cryptoSignature.rawPayload =
        EcdsaSignerService.canonicalize (BadgePayload.record payload) →
      OneIdentity (signingServices id sampleKey)
        (perform (signingServices id sampleKey) requestedDatabase (badgeDrawn "badge"))
          badge payload := by
  intro claimed
  obtain ⟨badge, payload, produced, signed⟩ := badge_produced "badge" (by decide)
  obtain ⟨named, issued⟩ := produced.issued signed
  have same := (issued.identity _).mp (claimed badge payload produced signed)
  rw [named] at same
  revert same
  decide

end AccreditationBackend
