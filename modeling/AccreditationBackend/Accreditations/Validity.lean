import AccreditationBackend.Accreditations.Endurance
import AccreditationBackend.Requests.LoneRuns
import AccreditationBackend.Requests.SlotRuns

/-! Whether the active badges outlast the kick-off of their match, in sequential runs. -/

set_option autoImplicit false

namespace AccreditationBackend

open Foundation

/-- No active badge ends before the kick-off of its match. -/
def BadgesReach (db : Database) : Prop :=
  ∀ a r m, db.accreditationById a.id = some a → a.status = .active → db.requestById a.requestId = some r →
    db.matchRows.find (·.id == r.matchId) = some m → m.kickoffAt ≤ a.expiresAt

/-- An active badge that reaches the kick-off, where a scan does not find it expired. -/
def AccreditationDetail.ReachesKickoff (detail : AccreditationDetail) : Prop :=
  detail.accreditation.status = .active →
    detail.request.matchRow.kickoffAt ≤ detail.accreditation.expiresAt ∧
      ∀ dto, (evaluate detail.request.matchRow.kickoffAt detail dto).result ≠ .expired

/-- The update moves the kick-off past the end of an active badge of the match. -/
def OutrunsBadge (db : Database) (op : Operation) : Prop :=
  match op with
  | .updateMatch id dto =>
      (Statement.updateMatch id dto).fits = true ∧
        (∀ competitionId ∈ dto.competitionId, competitionId ∈ db.competitions) ∧
        ∃ kickoff ∈ dto.kickoffAt, ∃ a r, db.accreditationById a.id = some a ∧ a.status = .active ∧
          db.requestById a.requestId = some r ∧ r.matchId = id ∧ a.expiresAt < kickoff
  | _ => False

/-! ## What a new badge is given -/

def Statement.createsBadge : Statement → Bool
  | .createAccreditation .. => true
  | _ => false

def Plain (stmt : Statement) : Prop := stmt.createsBadge = false

/-- A new badge ends a day after the kick-off of its match, as it is then. -/
def Timed (e : Event store Database) : Prop :=
  match e.stmt with
  | .createAccreditation row _ => ∃ detail, e.before.requestDetail row.requestId = some detail ∧
      row.expiresAt = detail.matchRow.kickoffAt + defaultValidityDays * 86400000
  | _ => True

section Timing

variable {A B : Type} {p : Op A} {f : A → Op B} {db : Database}

abbrev Foundation.Proc.Timely (p : Op A) (db : Database) : Prop :=
  p.Leads handle Timed (fun _ _ => True) db

theorem timed_of_plain {e : Event store Database} (plain : Plain e.stmt) : Timed e := by
  obtain ⟨stmt, before, after⟩ := e
  cases stmt <;> trivial

theorem timely_of_plain (plain : p.Issues Plain) (db : Database) : p.Timely db :=
  Proc.leads_mono handle p db
    (Proc.leads_of_issues handle (R := fun _ _ => True) (fun _ => trivial)
      (fun _ _ _ _ _ => trivial) (fun _ _ _ => trivial)
      p plain db) (fun _ => timed_of_plain) fun _ _ _ => trivial

theorem timely_bind (timely : p.Timely db) (rest : ∀ value t, (f value).Timely t) :
    (p >>= f).Timely db := by
  rw [Proc.Timely, Proc.leads_bind]
  refine Proc.leads_mono handle p db timely (fun _ holds => holds) fun r t _ => ?_
  cases r with
  | ok value => exact rest value t
  | error why => trivial

theorem timely_silent (silent : p.Issues fun _ => False) (rest : ∀ value, (f value).Timely db) :
    (p >>= f).Timely db :=
  Proc.leads_silent handle silent rest fun _ => trivial

theorem attempt_plain (ambient : Ambient) (step : GenerationStep) :
    (ambient.attempt step).Issues Plain :=
  attempt_issues _ _

theorem publish_plain (event : DomainEvent) : (publish event).Issues Plain :=
  publish_issues (by rintro _ ⟨_, rfl⟩; rfl) event

theorem writeStatus_plain (w : StatusWrite) : (issue (.writeStatus w)).Issues Plain :=
  issue_issues (show Plain (.writeStatus w) from rfl)

variable (services : Services) (ambient : Ambient)

theorem generateAccreditation_timely (issuedAt : Time) (requestId : Uuid) (zoneIds : List Uuid)
    (options : GenerateAccreditationOptions) (db : Database) :
    (generateAccreditation services ambient issuedAt requestId zoneIds options).Timely db := by
  unfold generateAccreditation
  refine timely_silent (attempt_issues _ _) fun _ => ?_
  rw [Proc.query_bind, Proc.Timely, Proc.leads_read]
  cases found : db.requestDetail requestId with
  | none => trivial
  | some detail =>
      rw [orThrow_some_bind]
      refine timely_silent (attempt_issues _ _) fun _ => ?_
      refine timely_silent (generateUnique_issues _ _ _ _ _ _) fun number => ?_
      refine timely_silent (attempt_issues _ _) fun _ => ?_
      refine timely_silent (attempt_issues _ _) fun _ => ?_
      rw [issue_bind]
      refine Proc.leads_exec handle _ _ _ _ _ ⟨detail, found, rfl⟩
        (fun accreditation t _ => ?_) fun _ _ => trivial
      -- What follows the insertion only renders and announces.
      refine timely_of_plain ?_ t
      refine Proc.issues_bind _ _ _ (attempt_plain _ _) fun _ => ?_
      refine Proc.issues_bind _ _ _ (attempt_plain _ _) fun _ => ?_
      refine Proc.issues_bind _ _ _ (attempt_plain _ _) fun _ => ?_
      refine Proc.issues_bind _ _ _ (attempt_plain _ _) fun _ => ?_
      exact Proc.issues_bind _ _ _ (publish_plain _) fun _ => trivial

theorem decide_timely (input : DecideRequestUseCase.DecideRequestInput) (db : Database) :
    (DecideRequestUseCase.execute services ambient input).Timely db := by
  unfold DecideRequestUseCase.execute
  refine loadRequest_leads (fun request _ _ => guard_leads (fun _ => ?_) fun _ => trivial)
    fun _ => trivial
  cases verdict : input.status with
  | rejected =>
      simp only [reduceCtorEq, if_false]
      refine timely_of_plain (Proc.issues_bind _ _ _ (writeStatus_plain _) fun updated => ?_) db
      exact Proc.issues_bind _ _ _ (publish_plain _) fun _ => trivial
  | validated =>
      simp only [if_true]
      refine timely_bind (timely_of_plain (reserveQuotaOrThrow_issues fun _ _ _ => rfl) db)
        fun _ db₁ => ?_
      refine timely_bind (timely_of_plain (writeStatus_plain _) db₁) fun updated db₂ => ?_
      refine timely_bind (timely_of_plain (publish_plain _) db₂) fun _ db₃ => ?_
      refine timely_bind (generateAccreditation_timely services ambient _ _ _ _ db₃) fun _ db₄ => ?_
      exact timely_of_plain (writeStatus_plain _) db₄

/-- The operations that can issue a badge. -/
def Operation.issuesBadges : Operation → Bool
  | .decide .. => true
  | .generateAccreditation .. => true
  | _ => false

theorem footprint_plain {op : Operation} (other : op.issuesBadges = false) {stmt : Statement}
    (footprint : op.Footprint services stmt) : Plain stmt := by
  cases op <;> simp only [Operation.issuesBadges, Bool.true_eq_false] at other <;>
    simp only [Operation.Footprint, WritesTo, Publishes, LogsScan] at footprint <;>
    unfold Plain <;> grind [Statement.createsBadge]

theorem events_timed (db : Database) (op : Operation) : ∀ e ∈ events services db op, Timed e := by
  refine ((Proc.leads_iff handle Timed (fun _ _ => True) _ db).mp ?_).1
  cases op with
  | decide ambient input => exact reply_leads (decide_timely services ambient input db)
  | generateAccreditation ambient requestId zoneIds options =>
      exact reply_leads (generateAccreditation_timely services ambient _ requestId zoneIds options db)
  | _ =>
      exact timely_of_plain
        (Proc.issues_mono _ (execute_footprint services _) fun _ => footprint_plain services rfl) db

end Timing

/-! ## One statement -/

section Steps

variable {db : Database} {stmt : Statement}

theorem active_origin {a : Accreditation}
    (found : (handle.after stmt db).accreditationById a.id = some a) (active : a.status = .active) :
    (∃ zoneIds, stmt = .createAccreditation a zoneIds) ∨ ∃ b, db.accreditationById b.id = some b ∧
      b.status = .active ∧ b.requestId = a.requestId ∧ b.expiresAt = a.expiresAt := by
  have step := badge_step (selects_accreditationId a.id) (onKey_accreditationId a.id) stmt db
  unfold Tables.accreditationById at found ⊢
  rw [found] at step
  generalize before : db.accreditations.find (·.id == a.id) = b at step
  cases step with
  | created => exact .inl ⟨_, rfl⟩
  | @assigned id input b named => exact .inr ⟨b, before, active, rfl, rfl⟩
  | revoked named => cases active
  | unchanged => exact .inr ⟨a, before, active, rfl, rfl⟩

theorem badgesReach_step (reach : BadgesReach db) (timed : Timed (handle.event stmt db))
    (stays : ∀ id dto, stmt = .updateMatch id dto → ¬ OutrunsBadge db (.updateMatch id dto)) :
    BadgesReach (handle.after stmt db) := by
  cases fits : stmt.fits
  case false => rwa [after_unfit fits]
  intro a r m badge active request matchRow
  rcases active_origin badge active with ⟨zoneIds, rfl⟩ | ⟨b, before, live, same, ends⟩
  · obtain ⟨detail, found, ends⟩ := timed
    rw [Handler.event_before] at found
    obtain ⟨requestFound, matchFound⟩ := requestDetail_parts found
    -- The insertion touches neither the request nor the match.
    have requestStep := request_step (.createAccreditation a zoneIds) db a.requestId
    rw [request, requestFound] at requestStep
    cases requestStep
    have matchStep := match_step (.createAccreditation a zoneIds) db detail.request.matchId
    rw [matchRow, matchFound] at matchStep
    cases matchStep
    rw [ends]
    exact Int.le_add_of_nonneg_right (by decide)
  · obtain ⟨r', requestFound⟩ := Table.find_of_column
      (db.referential.accreditation_request (List.mem_map_of_mem (Table.find_some_mem before).1))
    obtain ⟨m', matchFound⟩ := Table.find_of_column
      (db.referential.request_match (List.mem_map_of_mem (Table.find_some_mem requestFound).1))
    have reached := reach b r' m' before live requestFound matchFound
    obtain ⟨r'', requestAfter, sameMatch⟩ := (endures_step stmt db).request b.requestId r' requestFound
    rw [same] at requestAfter
    cases request.symm.trans requestAfter
    have matchStep := match_step stmt db r'.matchId
    rw [← sameMatch, matchRow, sameMatch, matchFound] at matchStep
    rw [← ends]
    cases matchStep with
    | unchanged => exact reached
    | @updated dto _ known =>
        cases moved : dto.kickoffAt with
        | none => simpa [UpdateMatchDto.apply, moved] using reached
        | some kickoff =>
            by_contra late
            refine stays _ dto rfl ⟨fits, known, kickoff, moved, b, r', before, live, requestFound, rfl, ?_⟩
            simpa [UpdateMatchDto.apply, moved] using late

end Steps

/-! ## Operations -/

section Operations

variable (services : Services) {db : Database}

theorem updateMatch_performed (db : Database) (id : Uuid) (dto : UpdateMatchDto) :
    perform services db (.updateMatch id dto) = handle.after (.updateMatch id dto) db ∨
      ∃ event, perform services db (.updateMatch id dto) =
        handle.after (.publish event) (handle.after (.updateMatch id dto) db) := by
  have alone : perform services db (.updateMatch id dto) = ((updateMatch id dto).run handle db).2 :=
    congrArg Prod.snd reply_run
  rw [alone, updateMatch, getMatch, Proc.query_bind, Proc.read_bind, Proc.run]
  cases found : db.matchRows.find (·.id == id) with
  | none =>
      left
      rcases after_cases (.updateMatch id dto) db with same | ⟨reply, applied⟩
      · rw [same]
        rfl
      · simp only [Tables.apply, found, bind_ok, orFail_ok, reduceCtorEq, false_and, exists_false] at applied
  | some m =>
      rw [orThrow_some_bind, issue_bind, Proc.run]
      cases replied : handle (.updateMatch id dto) db with
      | error why =>
          left
          rw [handle.after_error replied]
      | ok result =>
          rw [handle.after_ok replied]
          dsimp only
          split
          · right
            exact ⟨_, rfl⟩
          · left
            rfl

theorem footprint_updateMatch {op : Operation} {id : Uuid} {dto : UpdateMatchDto}
    (footprint : op.Footprint services (.updateMatch id dto)) : op = .updateMatch id dto := by
  cases op <;> simp only [Operation.Footprint, WritesTo, Publishes, GrantsBadge, LogsScan, reduceCtorEq,
    Statement.updateMatch.injEq] at footprint <;> grind

theorem badgesReach_kept {op : Operation} (reach : BadgesReach db) (stays : ¬ OutrunsBadge db op) :
    BadgesReach (perform services db op) := by
  by_cases update : ∃ id dto, op = .updateMatch id dto
  · obtain ⟨id, dto, rfl⟩ := update
    have moved : BadgesReach (handle.after (.updateMatch id dto) db) :=
      badgesReach_step reach (timed_of_plain rfl) fun _ _ same => by
        cases same
        exact stays
    rcases updateMatch_performed services db id dto with same | ⟨event, same⟩
    · rwa [same]
    · rw [same]
      exact badgesReach_step moved (timed_of_plain rfl) fun _ _ impossible => by cases impossible
  · refine perform_keeps services (fun stmt s member reach => ?_) reach
    refine badgesReach_step reach (events_timed services db op _ member) fun id dto same => ?_
    subst same
    exact absurd
      ⟨id, dto, footprint_updateMatch services (events_footprint services db op _ member)⟩ update

theorem published (event : DomainEvent) (db : Database) :
    (handle.after (.publish event) db).toTables =
      { db.toTables with events := db.events ++ [event] } := after_applied rfl rfl

theorem match_updated {id : Uuid} {m : Match} (found : db.matchRows.find (·.id == id) = some m)
    {dto : UpdateMatchDto}
    (fits : (Statement.updateMatch id dto).fits = true)
    (known : ∀ competitionId ∈ dto.competitionId, competitionId ∈ db.competitions) :
    ∃ events, (perform services db (.updateMatch id dto)).toTables =
      { db.toTables with matchRows := db.matchRows.update (·.id == id) dto.apply dto.apply_key, events } := by
  have tables := after_applied fits (apply_updateMatch found known)
  rcases updateMatch_performed services db id dto with same | ⟨event, same⟩
  · exact ⟨db.events, by rw [same, tables]⟩
  · exact ⟨db.events ++ [event], by rw [same, published, tables]⟩

theorem badgesReach_broken {op : Operation} (outruns : OutrunsBadge db op) :
    ¬ BadgesReach (perform services db op) := by
  cases op with
  | updateMatch id dto =>
      obtain ⟨fits, known, kickoff, moved, a, r, badge, active, request, rfl, late⟩ := outruns
      obtain ⟨m, matchFound⟩ := Table.find_of_column
        (db.referential.request_match (List.mem_map_of_mem (Table.find_some_mem request).1))
      obtain ⟨events, final⟩ := match_updated services matchFound fits known
      have read : (perform services db (.updateMatch r.matchId dto)).matchRows.find
        (·.id == r.matchId) = some (dto.apply m) := by
        rw [final]
        refine (Table.find_update db.matchRows _ _ dto.apply_key _ fun _ => rfl).trans ?_
        rw [matchFound, Option.map_some, if_pos (Table.find_some_mem matchFound).2]
      intro reach
      have reached :=
        reach a r (dto.apply m) (by rw [final]; exact badge) active (by rw [final]; exact request) read
      simp only [UpdateMatchDto.apply, Option.mem_def.mp moved, Option.getD_some] at reached
      exact absurd late (Int.not_lt.mpr reached)
  | _ => exact outruns.elim

end Operations

/-! ## Runs -/

theorem evaluate_unexpired {now : Time} {detail : AccreditationDetail}
    (active : detail.accreditation.status = .active) (live : now ≤ detail.accreditation.expiresAt)
    (dto : VerifyScanDto) :
    (evaluate now detail dto).result ≠ .expired := by
  have unended : ¬ detail.accreditation.expiresAt < now := Int.not_lt.mpr live
  unfold evaluate
  simp only [active, reduceCtorEq, if_false, false_or, unended]
  split
  · exact nofun
  · split <;> exact nofun

theorem accreditationDetail_parts {t : Tables} {id : Uuid} {detail : AccreditationDetail}
    (found : t.accreditationDetail id = some detail) :
    t.accreditationById id = some detail.accreditation ∧
    t.requestDetail detail.accreditation.requestId = some detail.request := by
  simp only [Tables.accreditationDetail, Option.bind_eq_bind, Option.bind_eq_some_iff,
    Option.pure_def, Option.some.injEq] at found
  obtain ⟨a, badge, joined, request, rfl⟩ := found
  exact ⟨badge, request⟩

theorem badgesReach_iff {db : Database} :
    BadgesReach db ↔ ∀ id detail, db.accreditationDetail id = some detail → detail.ReachesKickoff := by
  constructor
  · intro reach id detail found active
    obtain ⟨badge, joined⟩ := accreditationDetail_parts found
    obtain ⟨request, matchRow⟩ := requestDetail_parts joined
    have named : detail.accreditation.id = id := beq_iff_eq.mp (Table.find_some_mem badge).2
    rw [← named] at badge
    have reached := reach _ _ _ badge active request matchRow
    exact ⟨reached, evaluate_unexpired active reached⟩
  · intro each a r m badge active request matchRow
    obtain ⟨detail, found, rfl, _⟩ := accreditationDetail_found db badge
    obtain ⟨request', matchRow'⟩ := requestDetail_parts (accreditationDetail_parts found).2
    rw [request] at request'
    cases request'
    rw [matchRow] at matchRow'
    cases matchRow'
    exact (each _ detail found active).1

/-- In every state of a run each active badge reaches the kick-off of its match,
and is not expired there, exactly when no update moves a kick-off past the end
of an active badge. -/
theorem badges_reach_kickoff (services : Services) (start : Database)
    (reach : ∀ id detail, start.accreditationDetail id = some detail → detail.ReachesKickoff)
    (ops : List Operation) :
    (∀ front back, ops = front ++ back → ∀ id detail,
        (runFrom (perform services) start front).accreditationDetail id = some detail →
          detail.ReachesKickoff) ↔
      Along (perform services) (fun db op => ¬ OutrunsBadge db op) start ops := by
  simp only [← badgesReach_iff] at reach ⊢
  exact runFrom_exact (fun _ _ reach stays => badgesReach_kept services reach stays)
    (fun _ _ _ after outruns => badgesReach_broken services outruns after) reach

theorem badges_reach_kickoff_validated :
    ∃ detail,
      (runFrom (perform sampleServices) (sampleDatabase 1) dossierValidated).accreditationDetail
        "badge" = some detail ∧ detail.ReachesKickoff :=
  ⟨_, rfl, (badges_reach_kickoff sampleServices (sampleDatabase 1)
    (fun _ _ found => by cases found) dossierValidated).mpr
    ⟨id, id, id, id, id, trivial⟩ dossierValidated [] (List.append_nil _).symm "badge" _ rfl⟩

/-- The match is put off by two days: its badge is still active, and has ended before the kick-off. -/
theorem badge_outrun :
    ∃ detail, (perform sampleServices (runFrom (perform sampleServices) (sampleDatabase 1) dossierValidated)
        (.updateMatch "final" { kickoffAt := some 172800000 })).accreditationDetail
          "badge" = some detail ∧
      detail.accreditation.status = .active ∧
        detail.accreditation.expiresAt < detail.request.matchRow.kickoffAt ∧
      (evaluate detail.request.matchRow.kickoffAt detail { token := "token", matchId := "final" }).result = .expired :=
  ⟨_, rfl, by decide⟩

end AccreditationBackend
