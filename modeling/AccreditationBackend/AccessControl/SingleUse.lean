import Mathlib.Data.Fintype.Card
import AccreditationBackend.AccessControl.Verdicts

/-! One badge scanned at several gates at once.

A scan counts the earlier uses of the pair and logs its verdict in a later
statement. The count clears one scan at a time only if no scan counts while
another one that counted none has still to log.
-/

set_option autoImplicit false

namespace AccreditationBackend

open Foundation

/-- How far a scan has come with the pair: it has counted no use, or logged one. -/
inductive Admission where
  | outside | cleared | admitted
  deriving DecidableEq, Repr

section Pair

variable (id : Uuid) (zoneId : Option Uuid)

def countsUses (e : Event store Database) : Bool :=
  match e.stmt with
  | .countUses id' zoneId' => id' == id && zoneId' == zoneId
  | _ => false

def countsNone (e : Event store Database) : Bool := countsUses id zoneId e && e.before.uses id zoneId == 0

variable {ι : Type} [DecidableEq ι]

/-- The last statement of the call has counted no use: its verdict is still to be logged. -/
def awaitsLog (past : History ι store Database) (i : ι) : Bool :=
  (past.filter (·.1 == i)).getLast?.any fun x => countsNone id zoneId x.2

/-- No call counts the uses of the pair while another one awaits its log. -/
def CountsInTurn (history : History ι store Database) : Prop :=
  ∀ n < history.length, ∀ x ∈ history[n]?, countsUses id zoneId x.2 = true →
    ∀ j, j ≠ x.1 → awaitsLog id zoneId (history.take n) j = false

instance [Fintype ι] (history : History ι store Database) : Decidable (CountsInTurn id zoneId history) :=
  inferInstanceAs (Decidable (∀ n < history.length, ∀ x ∈ history[n]?, countsUses id zoneId x.2 = true →
    ∀ j, j ≠ x.1 → awaitsLog id zoneId (history.take n) j = false))

variable {id zoneId}

theorem awaitsLog_own (past : History ι store Database) (i : ι) (e : Event store Database) :
    awaitsLog id zoneId (past ++ [(i, e)]) i = countsNone id zoneId e := by
  simp [awaitsLog, List.filter_append]

theorem awaitsLog_other (past : History ι store Database) {i j : ι} (other : j ≠ i)
    (e : Event store Database) :
    awaitsLog id zoneId (past ++ [(i, e)]) j = awaitsLog id zoneId past j := by
  simp [awaitsLog, List.filter_append, Ne.symm other]

/-! ## The outline of a scan -/

variable (id zoneId) in
/-- The token leads to the badge, and a use is logged only after none was counted. -/
def gateDiscipline (hash : String) : Discipline store Database Admission where
  Knows _ db := ∀ a, db.accreditationByHash hash = some a → a.id = id
  Grants _ := True
  Commits g e g' :=
    match e.stmt with
    | .countUses id' zoneId' =>
        id' = id ∧ zoneId' = zoneId ∧ g = .outside ∧
          g' = if e.before.uses id zoneId = 0 then .cleared else .outside
    | .createScanLog row =>
        g ≠ .admitted ∧ (isUse id zoneId row = true → g = .cleared) ∧
          g' = if e.before.uses id zoneId < e.after.uses id zoneId then .admitted else .outside
    | _ => False

theorem uses_logged {row reply : ScanLog} {db db' : Database}
    (logged : handle (.createScanLog row) db = .ok (reply, db')) :
    db'.uses id zoneId = db.uses id zoneId + if isUse id zoneId row = true then 1 else 0 := by
  simp only [Tables.uses, apply_scans (handle_ok logged), Statement.scans, List.countP_append,
    List.countP_singleton]

theorem accreditationDetail_id {t : Tables} {id : Uuid} {detail : AccreditationDetail}
    (joined : t.accreditationDetail id = some detail) : detail.accreditation.id = id := by
  simp only [Tables.accreditationDetail, Option.bind_eq_bind, Option.pure_def, Option.bind_eq_some_iff,
    Option.some.injEq] at joined
  obtain ⟨a, found, _, _, rfl⟩ := joined
  exact beq_iff_eq.mp (Table.find_some_mem found).2

/-- The last statement of a scan: a use is admitted exactly when it is logged. -/
theorem log_outline {A : Type} {hash : String} {row : ScanLog} {value : A}
    {Q : Except Failure A → Admission → Prop} {g : Admission} (fresh : g ≠ .admitted)
    (cleared : isUse id zoneId row = true → g = .cleared)
    (logged : ∀ g', (isUse id zoneId row = true → g' = .admitted) → Q (.ok value) g')
    (refused : ∀ why g', Q (.error why) g') :
    (do let _ ← issue (.createScanLog row); return value : Op A).Outline handle
      (gateDiscipline id zoneId hash) Q g := by
  intro db _ _
  refine ⟨_, ⟨fresh, cleared, rfl⟩, ?_⟩
  rw [Handler.event_before, Handler.event_after]
  cases replied : handle (.createScanLog row) db with
  | error why => exact refused why _
  | ok result =>
      refine logged _ fun use => ?_
      rw [handle.after_ok replied, uses_logged replied, if_pos use, if_pos (Nat.lt_succ_self _)]

theorem judge_outline {hash : String} {now : Time} {detail : AccreditationDetail} {dto : VerifyScanDto}
    (badge : detail.accreditation.id = id) (zone : dto.zoneId = zoneId) :
    (judge now detail dto).Outline handle (gateDiscipline id zoneId hash)
      (fun r g => ∃ verdict, r = .ok verdict ∧
        g = if verdict.result = .valid then .cleared else .outside) .outside := by
  subst badge zone
  unfold judge
  dsimp only
  by_cases valid : (evaluate now detail dto).result = .valid
  · rw [if_pos valid, wasAlreadyUsed_bind]
    intro db _ _
    refine ⟨_, ⟨rfl, rfl, rfl, rfl⟩, ?_⟩
    rw [handle_countUses, Handler.event_before]
    by_cases unused : db.uses detail.accreditation.id dto.zoneId = 0
    · refine ⟨evaluate now detail dto, ?_, ?_⟩
      · simp [unused]
      · rw [if_pos unused, if_pos valid]
    · refine ⟨alreadyUsed, ?_, ?_⟩
      · simp [Nat.pos_of_ne_zero unused]
      · rw [if_neg unused]
        rfl
  · rw [if_neg valid]
    exact ⟨evaluate now detail dto, rfl, by rw [if_neg valid]⟩

theorem verifyScan_outline {services : Services} {ambient : Ambient} {dto : VerifyScanDto} {agent : Uuid}
    (zone : dto.zoneId = zoneId) :
    (verifyScan services ambient dto agent).Outline handle
      (gateDiscipline id zoneId (services.hash dto.token))
      (fun r g => ∀ verdict, r = .ok verdict → verdict.result = .valid → g = .admitted) .outside := by
  unfold verifyScan findByRawToken
  simp only [Proc.query_bind]
  intro db knows
  dsimp only
  cases found : db.accreditationByHash (services.hash dto.token) with
  | none =>
      refine log_outline (by decide) (fun use => ?_) (fun _ _ verdict same valid => ?_)
        fun _ _ _ returned => by cases returned
      · simp [isUse, onlineScan] at use
      · cases same
        cases valid
  | some a =>
      intro db' _
      dsimp only
      cases joined : db'.accreditationDetail a.id with
      | none => exact fun _ returned => by cases returned
      | some detail =>
          have badge : detail.accreditation.id = id :=
            (accreditationDetail_id joined).trans (knows a found)
          refine Proc.outline_seq (judge_outline badge zone) ?_
          rintro r g ⟨verdict, rfl, rfl⟩
          refine log_outline ?_ (fun use => ?_) (fun _ admitted shown same valid => ?_)
            fun _ _ _ returned => by cases returned
          · split <;> decide
          · simp only [isUse, onlineScan, Bool.and_eq_true, beq_iff_eq] at use
            exact if_pos use.2
          · cases same
            refine admitted ?_
            simp only [isUse, onlineScan, Bool.and_eq_true, beq_iff_eq, Option.some.injEq]
            exact ⟨⟨badge, zone⟩, valid⟩

/-! ## The log and the calls -/

/-- One call at most is past the count, and it accounts for the one use there is. -/
structure Guarded (id : Uuid) (zoneId : Option Uuid) (hash : String)
    (past : History ι store Database) (db : Database) (g : ι → Admission) : Prop where
  badge : ∀ a, db.accreditationByHash hash = some a → a.id = id
  one : ∀ i j, g i ≠ .outside → g j ≠ .outside → i = j
  waits : ∀ i, g i = .cleared → awaitsLog id zoneId past i = true
  logged : ∀ i, g i = .admitted → 0 < db.uses id zoneId
  uses : db.uses id zoneId = 0 ∨ db.uses id zoneId = 1 ∧ ∃ i, g i = .admitted

variable {hash : String} {past : History ι store Database} {db : Database} {g : ι → Admission} {i : ι}

theorem Guarded.badge_kept (guarded : Guarded id zoneId hash past db g) (stmt : Statement)
    (scan : stmt.writesBadges = false) (a : Accreditation)
    (found : (handle.after stmt db).accreditationByHash hash = some a) : a.id = id := by
  refine guarded.badge a ?_
  rcases after_cases stmt db with same | ⟨reply, applied⟩
  · rwa [same] at found
  · unfold Tables.accreditationByHash at found ⊢
    rwa [(apply_badges applied scan).1] at found

/-- Whoever is inside after a call moved was inside before, unless it is that call. -/
theorem unmoved {stage stage' : Admission} {j : ι} (moved : Function.update g i stage' j = stage)
    (other : stage' ≠ stage) : j ≠ i ∧ g j = stage := by
  by_cases same : j = i
  · subst same
    rw [Function.update_self] at moved
    exact absurd moved other
  · rw [Function.update_of_ne same] at moved
    exact ⟨same, moved⟩

theorem inside_alone {stage : Admission} (outside : ∀ j, j ≠ i → g j = .outside) {j : ι}
    (inside : Function.update g i stage j ≠ .outside) : j = i := by
  by_contra other
  rw [Function.update_of_ne other] at inside
  exact inside (outside j other)

theorem Guarded.outside_others (guarded : Guarded id zoneId hash past db g)
    (inside : g i ≠ .outside) (j : ι) (other : j ≠ i) :
    g j = .outside := by
  by_contra inside'
  exact other (guarded.one j i inside' inside)

theorem Guarded.waits_kept (guarded : Guarded id zoneId hash past db g) (e : Event store Database)
    {stage : Admission} (moved : stage ≠ .cleared) (j : ι)
    (cleared : Function.update g i stage j = .cleared) :
    awaitsLog id zoneId (past ++ [(i, e)]) j = true := by
  obtain ⟨other, still⟩ := unmoved cleared moved
  rw [awaitsLog_other past other]
  exact guarded.waits j still

/-- A first count clears its call when no other one can still log a use. -/
theorem Guarded.cleared (guarded : Guarded id zoneId hash past db g)
    (alone : ∀ j, j ≠ i → awaitsLog id zoneId past j = false) (unused : db.uses id zoneId = 0) :
    Guarded id zoneId hash (past ++ [(i, handle.event (.countUses id zoneId) db)]) db
      (Function.update g i .cleared) := by
  -- Without a use no call is admitted, and none other is cleared: all others are outside.
  have outside (j : ι) (other : j ≠ i) : g j = .outside := by
    cases stage : g j with
    | outside => rfl
    | cleared => cases (alone j other).symm.trans (guarded.waits j stage)
    | admitted => exact absurd (guarded.logged j stage) (by omega)
  refine ⟨guarded.badge, fun j k inside inside' => ?_, fun j cleared => ?_, fun j admitted => ?_, .inl unused⟩
  · rw [inside_alone outside inside, inside_alone outside inside']
  · have self : j = i := inside_alone outside (by rw [cleared]; decide)
    rw [self, awaitsLog_own]
    simp [countsNone, countsUses, unused]
  · exact guarded.logged j (unmoved admitted (by decide)).2

theorem Guarded.counted (guarded : Guarded id zoneId hash past db g)
    (alone : ∀ j, j ≠ i → awaitsLog id zoneId past j = false) (waiting : g i = .outside) :
    Guarded id zoneId hash (past ++ [(i, handle.event (.countUses id zoneId) db)])
      (handle.after (.countUses id zoneId) db)
      (Function.update g i (if db.uses id zoneId = 0 then .cleared else .outside)) := by
  rw [handle.after_ok (handle_countUses id zoneId db)]
  by_cases unused : db.uses id zoneId = 0
  · rw [if_pos unused]
    exact guarded.cleared alone unused
  · have still : Function.update g i .outside = g := by rw [← waiting, Function.update_eq_self]
    rw [if_neg unused]
    refine ⟨guarded.badge, ?_, guarded.waits_kept _ (by decide), ?_, ?_⟩ <;> rw [still]
    · exact guarded.one
    · exact guarded.logged
    · exact guarded.uses

theorem Guarded.admitted (guarded : Guarded id zoneId hash past db g) (cleared : g i = .cleared)
    {stmt : Statement} (scan : stmt.writesBadges = false)
    (more : (handle.after stmt db).uses id zoneId = db.uses id zoneId + 1) :
    Guarded id zoneId hash (past ++ [(i, handle.event stmt db)]) (handle.after stmt db)
      (Function.update g i .admitted) := by
  have outside := guarded.outside_others (i := i) (by rw [cleared]; decide)
  have unused : db.uses id zoneId = 0 := by
    rcases guarded.uses with zero | ⟨_, j, admitted⟩
    · exact zero
    · by_cases self : j = i
      · cases cleared.symm.trans (self ▸ admitted)
      · cases (outside j self).symm.trans admitted
  refine ⟨guarded.badge_kept stmt scan, fun j k inside inside' => ?_, guarded.waits_kept _ (by decide),
    fun _ _ => by omega, .inr ⟨by omega, i, Function.update_self i _ g⟩⟩
  rw [inside_alone outside inside, inside_alone outside inside']

theorem Guarded.left (guarded : Guarded id zoneId hash past db g) (fresh : g i ≠ .admitted)
    {stmt : Statement} (scan : stmt.writesBadges = false)
    (same : (handle.after stmt db).uses id zoneId = db.uses id zoneId) :
    Guarded id zoneId hash (past ++ [(i, handle.event stmt db)]) (handle.after stmt db)
      (Function.update g i .outside) := by
  have before (j : ι) (inside : Function.update g i .outside j ≠ .outside) : g j ≠ .outside := by
    rw [(unmoved rfl inside.symm).2]
    exact inside
  refine ⟨guarded.badge_kept stmt scan, fun j k inside inside' => ?_, guarded.waits_kept _ (by decide),
    fun j admitted => ?_, ?_⟩
  · exact guarded.one j k (before j inside) (before k inside')
  · rw [same]
    exact guarded.logged j (unmoved admitted (by decide)).2
  · rw [same]
    refine guarded.uses.imp_right fun ⟨one, j, admitted⟩ => ⟨one, j, ?_⟩
    rwa [Function.update_of_ne]
    rintro rfl
    exact fresh admitted

theorem Guarded.scanned (guarded : Guarded id zoneId hash past db g) {row : ScanLog}
    (fresh : g i ≠ .admitted) (cleared : isUse id zoneId row = true → g i = .cleared) :
    Guarded id zoneId hash (past ++ [(i, handle.event (.createScanLog row) db)])
      (handle.after (.createScanLog row) db)
      (Function.update g i
        (if db.uses id zoneId < (handle.after (.createScanLog row) db).uses id zoneId then .admitted
          else .outside)) := by
  have grown : (isUse id zoneId row = true ∧
      (handle.after (.createScanLog row) db).uses id zoneId = db.uses id zoneId + 1) ∨
      (handle.after (.createScanLog row) db).uses id zoneId = db.uses id zoneId := by
    cases replied : handle (.createScanLog row) db with
    | error why => exact .inr (by rw [handle.after_error replied])
    | ok result =>
        rw [handle.after_ok replied, uses_logged replied]
        by_cases use : isUse id zoneId row = true
        · exact .inl ⟨use, by rw [if_pos use]⟩
        · exact .inr (by rw [if_neg use]; rfl)
  rcases grown with ⟨use, more⟩ | same
  · rw [if_pos (by omega)]
    exact guarded.admitted (cleared use) rfl more
  · rw [if_neg (by omega)]
    exact guarded.left fresh rfl same

theorem Guarded.step (guarded : Guarded id zoneId hash past db g) {stmt : Statement} {g' : Admission}
    (alone : countsUses id zoneId (handle.event stmt db) = true → ∀ j, j ≠ i → awaitsLog id zoneId past j = false)
    (commits : (gateDiscipline id zoneId hash).Commits (g i) (handle.event stmt db) g') :
    Guarded id zoneId hash (past ++ [(i, handle.event stmt db)]) (handle.after stmt db)
      (Function.update g i g') := by
  cases stmt
  case countUses id' zoneId' =>
    obtain ⟨rfl, rfl, waiting, rfl⟩ := commits
    exact guarded.counted (alone (by simp [countsUses])) waiting
  case createScanLog row =>
    obtain ⟨fresh, cleared, rfl⟩ := commits
    exact guarded.scanned fresh cleared
  all_goals exact commits.elim

/-! ## Scans in turn -/

/-- The call has ended, and let its holder in. -/
def letsIn (p : Op Reply) : Bool := p.ended.any fun r => r.toOption.any Reply.isValid

theorem execute_scan_outline {services : Services} {ambient : Ambient} {dto : VerifyScanDto}
    {agent : Uuid} {token : String} (named : dto.token = token) (zone : dto.zoneId = zoneId) :
    ((Operation.verifyScan ambient dto agent).execute services).Outline handle
      (gateDiscipline id zoneId (services.hash token))
      (fun r g => r.toOption.any Reply.isValid = true → g = .admitted) .outside := by
  subst named
  refine Proc.outline_seq (verifyScan_outline zone) ?_
  intro r g admitted
  cases r with
  | error why => exact fun valid => by cases valid
  | ok verdict => exact fun valid => admitted verdict rfl (beq_iff_eq.mp valid)

end Pair

/-- Calls that all scan one token in one zone, each at its own gate. -/
def scanning {ι : Type} (token : String) (zoneId : Option Uuid) (ambient : ι → Ambient)
    (dto : ι → VerifyScanDto) (agent : ι → Uuid) (i : ι) : Operation :=
  .verifyScan (ambient i) { dto i with token, zoneId } (agent i)

section InTurn

variable {ι : Type} [DecidableEq ι] (services : Services) (start : Database) (token : String)
  (zoneId : Option Uuid) {a : Accreditation}
  (badge : start.accreditationByHash (services.hash token) = some a)
  (unused : start.uses a.id zoneId = 0) (ambient : ι → Ambient) (dto : ι → VerifyScanDto)
  (agent : ι → Uuid)
  (schedule : List ι)
  (inTurn : CountsInTurn a.id zoneId
    ((operationPool services start (scanning token zoneId ambient dto agent)).play handle schedule).1)

include badge unused inTurn

/-- At the end of the play the ghosts tell who was let in. -/
theorem scans_guarded :
    ∃ g past, Guarded a.id zoneId (services.hash token) past
      ((operationPool services start (scanning token zoneId ambient dto agent)).play handle schedule).2.store g ∧
      ∀ i, letsIn (((operationPool services start (scanning token zoneId ambient dto agent)).play handle
        schedule).2.procs i) = true → g i = .admitted := by
  have opened : Guarded a.id zoneId (services.hash token) [] start (fun _ : ι => Admission.outside) := by
    refine ⟨fun b found => ?_, fun i _ inside => absurd rfl inside, fun _ cleared => ?_, fun _ admitted => ?_,
      .inl unused⟩
    · rw [badge] at found
      cases found
      rfl
    · cases cleared
    · cases admitted
  obtain ⟨g, guarded, outlines⟩ :=
    Pool.play_outline handle (gateDiscipline a.id zoneId (services.hash token))
      (J := Guarded a.id zoneId (services.hash token))
      (F := fun past i e => countsUses a.id zoneId e = true → ∀ j, j ≠ i →
        awaitsLog a.id zoneId past j = false)
      (Q := fun _ r g => r.toOption.any Reply.isValid = true → g = .admitted)
      (fun _ _ _ _ guarded => guarded.badge) (fun _ _ _ _ => trivial)
      (fun _ _ _ _ _ _ guarded alone commits => guarded.step alone commits)
      schedule (operationPool services start (scanning token zoneId ambient dto agent)) []
        (fun _ => .outside) opened
      (fun i => execute_scan_outline rfl rfl)
      (fun front i e back split counts j other => by
        have alone := inTurn front.length (by rw [split]; simp) (i, e) (by rw [split]; simp) counts j other
        rwa [split, List.take_left] at alone)
  refine ⟨g, _, guarded, fun i valid => ?_⟩
  obtain ⟨r, ended, isValid⟩ := (Option.any_eq_true _ _).mp valid
  exact Proc.outline_ended handle _ (outlines i) ended isValid

/-- A badge scanned at many gates lets its holder in once per zone, as long as
no scan counts the uses while another one that counted none has still to log. -/
theorem single_use :
    ((operationPool services start (scanning token zoneId ambient dto agent)).play handle
        schedule).2.store.scanLogs.countP (isOnlineUse a.id zoneId) ≤ 1 ∧
      ∀ i j, letsIn (((operationPool services start (scanning token zoneId ambient dto agent)).play handle
          schedule).2.procs i) = true →
        letsIn (((operationPool services start (scanning token zoneId ambient dto agent)).play handle
          schedule).2.procs j) = true → i = j := by
  obtain ⟨g, past, guarded, admitted⟩ :=
    scans_guarded services start token zoneId badge unused ambient dto agent schedule inTurn
  constructor
  · refine (List.countP_mono_left fun l _ online => ?_).trans (?_ : Tables.uses _ a.id zoneId ≤ 1)
    · exact (Bool.and_eq_true_iff.mp online).1
    · rcases guarded.uses with none_ | ⟨one, _⟩ <;> omega
  · intro i j first second
    exact guarded.one i j (by rw [admitted i first]; decide) (by rw [admitted j second]; decide)

end InTurn

/-! ## A badge shared at two gates -/

/-- A badge of the sample, issued and not used. -/
def issued : List Operation :=
  [.saveDraft { freshId := "dossier" } ⟨"reporter", "final", "press", {}⟩,
    .generateAccreditation { freshId := "badge", rawToken := "token" } "dossier" ["stand"] {}]

def badgeIssued : Database := runFrom (perform sampleServices) (sampleDatabase 1) issued

def sharedBadge : Accreditation := badgeIssued.accreditations.rows.head (by decide)

def atTwoGates : Fin 2 → Operation :=
  scanning "token" (some "stand") (fun _ => {})
    (fun _ => { token := "token", matchId := "final" }) fun _ => "agent"

/-- Both gates count before either logs, and both let the holder in. -/
theorem let_in_twice :
    badgeIssued.accreditationByHash (sampleServices.hash "token") = some sharedBadge ∧
      badgeIssued.uses sharedBadge.id (some "stand") = 0 ∧
      ¬ ((operationPool sampleServices badgeIssued atTwoGates).play handle
        [0, 1, 0, 1, 0, 1, 0, 1]).2.store.scanLogs.countP
          (isOnlineUse sharedBadge.id (some "stand")) ≤ 1 ∧
      ¬ ∀ i j, letsIn (((operationPool sampleServices badgeIssued atTwoGates).play handle
          [0, 1, 0, 1, 0, 1, 0, 1]).2.procs i) = true →
        letsIn (((operationPool sampleServices badgeIssued atTwoGates).play handle
          [0, 1, 0, 1, 0, 1, 0, 1]).2.procs j) = true → i = j := by
  refine ⟨by decide, by decide, by decide, fun same => ?_⟩
  cases same 0 1 (by decide) (by decide)

/-- The gates look the badge up together, but count and log in turn. -/
theorem single_use_in_turn :
    ((operationPool sampleServices badgeIssued atTwoGates).play handle
      [0, 1, 0, 1, 0, 0, 1, 1]).2.store.scanLogs.countP (isOnlineUse sharedBadge.id (some "stand")) ≤ 1 :=
  (single_use sampleServices badgeIssued "token" (some "stand") (a := sharedBadge) (by decide) (by decide) _ _ _
    [0, 1, 0, 1, 0, 0, 1, 1] (by decide)).1

end AccreditationBackend
