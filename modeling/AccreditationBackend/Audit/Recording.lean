import AccreditationBackend.Audit.Journal
import AccreditationBackend.Iam.Effects

/-! The audit journal over a run: events are recorded while accounts come and go. -/

set_option autoImplicit false

namespace AccreditationBackend

open Foundation

/-! ## What a row is about -/

/-- The object an event is about. A refused login may be of nobody. -/
def PublishedEvent.subject : PublishedEvent → String × Option Uuid
  | .domain (.requestSubmitted requestId _) => ("request", some requestId)
  | .domain (.requestComplementRequested requestId _ _) => ("request", some requestId)
  | .domain (.requestDecided requestId _ _ _ _) => ("request", some requestId)
  | .domain (.requestCancelled requestId _) => ("request", some requestId)
  | .domain (.accreditationGenerated accreditationId _ _) => ("accreditation", some accreditationId)
  | .domain (.accreditationRevoked accreditationId _ _) => ("accreditation", some accreditationId)
  | .domain (.matchUpdated matchId _) => ("match", some matchId)
  | .domain (.matchRequestsClosed matchId) => ("match", some matchId)
  | .user (.accountCreated userId ..) => ("user", some userId)
  | .user (.roleUpdated userId ..) => ("user", some userId)
  | .user (.statusUpdated userId ..) => ("user", some userId)
  | .user (.passwordReset userId _) => ("user", some userId)
  | .user (.deleted userId ..) => ("user", some userId)
  | .user (.loginSucceeded userId ..) => ("user", some userId)
  | .user (.loginFailed _ _ _ _ userId) => ("user", userId)
  | .document (.uploaded documentId ..) => ("document", some documentId)
  | .document (.reviewed documentId ..) => ("document", some documentId)

def PublishedEvent.author (event : PublishedEvent) : Option Uuid := AuditListener.actorId event.properties

theorem namesId_keys :
    AuditListener.namesId "requestId" = true ∧ AuditListener.namesId "accreditationId" = true ∧
      AuditListener.namesId "matchId" = true ∧ AuditListener.namesId "userId" = true ∧
      AuditListener.namesId "documentId" = true ∧ AuditListener.namesId "email" = false ∧
      AuditListener.namesId "reason" = false ∧ AuditListener.namesId "ipAddress" = false ∧
      AuditListener.namesId "userAgent" = false := by
  decide +kernel

/-- The first key that ends with `Id` is the one of the object the event's name starts with. -/
theorem onAnyDomainEvent_subject (event : PublishedEvent) :
    (AuditListener.onAnyDomainEvent event).objectType = event.subject.1 ∧
      (AuditListener.onAnyDomainEvent event).objectId = event.subject.2 := by
  constructor
  · change AuditListener.objectType event.eventName = event.subject.1
    cases event with
    | domain event =>
        cases event <;> simp only [PublishedEvent.eventName, DomainEvent.eventName, PublishedEvent.subject] <;>
          decide +kernel
    | user event =>
        cases event <;> simp only [PublishedEvent.eventName, UserEvent.eventName, PublishedEvent.subject] <;>
          decide +kernel
    | document event =>
        cases event <;> simp only [PublishedEvent.eventName, DocumentEvent.eventName, PublishedEvent.subject] <;>
          decide +kernel
  · change AuditListener.objectId (AuditListener.fields event.properties) = event.subject.2
    cases event with
    | domain event =>
        cases event <;>
          simp [PublishedEvent.properties, DomainEvent.properties, AuditListener.fields, AuditListener.objectId,
            PublishedEvent.subject, namesId_keys]
    | user event =>
        cases event <;>
          simp [PublishedEvent.properties, UserEvent.properties, AuditListener.fields, AuditListener.objectId,
            PublishedEvent.subject, namesId_keys]
    | document event =>
        cases event <;>
          simp [PublishedEvent.properties, DocumentEvent.properties, AuditListener.fields,
            AuditListener.objectId, PublishedEvent.subject, namesId_keys]

/-! ## Rows in the database -/

/-- A column of JSON values: what it gives back is the same value, its members in some order. -/
structure JsonColumn where
  given : String → String
  keeps : ∀ s members, JSON.parse s = some members →
    ∃ members', JSON.parse (given s) = some members' ∧ members'.Perm members

def AuditLog.stored (column : JsonColumn) (row : AuditLog) : AuditLog :=
  { row with oldValue := row.oldValue.map column.given, newValue := row.newValue.map column.given }

theorem AccountReferential.createAuditLog {t : AccountTables} (sound : AccountReferential t) (row : AuditLog)
    (known : ∀ actor ∈ row.actorId, actor ∈ t.users.column (·.id)) :
    AccountReferential { t with archive := { t.archive with auditLogs := t.archive.auditLogs ++ [row] } } where
  token_user := sound.token_user
  profile_user := sound.profile_user
  profile_media := sound.profile_media
  archived :=
    { sound.archived with
      audit_actor := fun r member k named => by
        obtain old | new := List.mem_append.mp member
        · exact sound.archived.audit_actor r old k named
        · cases List.mem_singleton.mp new
          exact known k named }

def Accounts.createAuditLog (column : JsonColumn) (row : AuditLog) (db : Accounts) : Except Failure Accounts :=
  if row.id ∈ db.archive.auditLogs.map (·.id) then .error .uniqueViolation
  else if known : ∀ actor ∈ row.actorId, actor ∈ db.users.column (·.id) then
    .ok ⟨_, db.referential.createAuditLog (row.stored column) known⟩
  else .error .foreignKeyViolation

/-- An event, and the time at which it was heard. -/
structure JournalEntry where
  createdAt : Time
  event : PublishedEvent
  deriving DecidableEq, Repr

/-- The row that the listener creates. -/
def JournalEntry.row (entry : JournalEntry) (id : Uuid) : AuditLog :=
  auditLog id entry.createdAt (AuditListener.onAnyDomainEvent entry.event)

/-- What happens to the journal: an event is heard, or some call writes to the accounts. -/
inductive JournalStep where
  | hear (id : Uuid) (entry : JournalEntry)
  | write (stmt : AccountStatement)

def JournalStep.logId : JournalStep → Option Uuid
  | .hear id _ => some id
  | .write _ => none

/-- Nobody waits for the listener, and nobody hears of its failure. -/
def Accounts.heard (column : JsonColumn) (id : Uuid) (entry : JournalEntry) (db : Accounts) : Accounts :=
  match db.createAuditLog column (entry.row id) with
  | .ok db' => db'
  | .error _ => db

def JournalStep.perform (column : JsonColumn) (db : Accounts) : JournalStep → Accounts
  | .hear id entry => db.heard column id entry
  | .write stmt => handleAccount.after stmt db

def Accounts.journal (column : JsonColumn) (db : Accounts) (steps : List JournalStep) : Accounts :=
  steps.foldl (JournalStep.perform column) db

/-- Its author, if it has one, has an account. -/
def PublishedEvent.Authored (event : PublishedEvent) (db : Accounts) : Prop :=
  ∀ actor ∈ event.author, actor ∈ db.users.column (·.id)

instance (event : PublishedEvent) (db : Accounts) : Decidable (event.Authored db) :=
  inferInstanceAs (Decidable (∀ actor ∈ event.author, actor ∈ db.users.column (·.id)))

/-- The events heard whose authors had accounts then. -/
def recorded (column : JsonColumn) : List JournalStep → Accounts → List JournalEntry
  | [], _ => []
  | .hear id entry :: rest, db =>
      if entry.event.Authored db then entry :: recorded column rest (db.heard column id entry)
      else recorded column rest (db.heard column id entry)
  | .write stmt :: rest, db => recorded column rest (handleAccount.after stmt db)

/-! ## What a row tells -/

/-- Its author put back, the row gives the event; without the author its account was deleted. -/
structure AuditLog.Tells (steps : List JournalStep) (row : AuditLog) (entry : JournalEntry) : Prop where
  createdAt : row.createdAt = entry.createdAt
  told : { row with actorId := entry.event.author }.event = some entry.event
  objectType : row.objectType = entry.event.subject.1
  objectId : row.objectId = entry.event.subject.2
  author : row.actorId = entry.event.author ∨
    row.actorId = none ∧ ∃ actor ∈ entry.event.author, .write (.deleteUser actor) ∈ steps

theorem stored_tells (column : JsonColumn) (id : Uuid) (entry : JournalEntry) (steps : List JournalStep) :
    ((entry.row id).stored column).Tells steps entry where
  createdAt := rfl
  told := by
    refine event_recorded rfl rfl ?_
    obtain ⟨s, members, written, parsed, perm⟩ := toJson_records (AuditListener.fields entry.event.properties)
    obtain ⟨members', given, reordered⟩ := column.keeps s members parsed
    exact ⟨column.given s, members', congrArg (Option.map column.given) written, given, reordered.trans perm⟩
  objectType := (onAnyDomainEvent_subject entry.event).1
  objectId := (onAnyDomainEvent_subject entry.event).2
  author := .inl rfl

theorem AuditLog.Tells.forgotten {steps : List JournalStep} {row : AuditLog} {entry : JournalEntry} {id : Uuid}
    (tells : row.Tells steps entry) (named : row.actorId = some id)
    (deleted : .write (.deleteUser id) ∈ steps) : { row with actorId := none }.Tells steps entry :=
  { tells with
    author := by
      refine .inr ⟨rfl, id, ?_, deleted⟩
      obtain same | ⟨none_, -⟩ := tells.author
      · exact Option.mem_def.mpr (same.symm.trans named)
      · exact absurd (none_.symm.trans named) (by simp) }

/-! ## One step -/

section Steps

variable (column : JsonColumn) {db : Accounts}

theorem heard_authored {id : Uuid} {entry : JournalEntry} (unused : id ∉ db.archive.auditLogs.map (·.id))
    (authored : entry.event.Authored db) :
    (db.heard column id entry).archive.auditLogs =
      db.archive.auditLogs ++ [(entry.row id).stored column] := by
  have known : ∀ actor ∈ (entry.row id).actorId, actor ∈ db.users.column (·.id) := authored
  have free : (entry.row id).id ∉ db.archive.auditLogs.map (·.id) := unused
  simp only [Accounts.heard, Accounts.createAuditLog, if_neg free, dif_pos known]

theorem heard_unauthored (id : Uuid) {entry : JournalEntry} (unauthored : ¬ entry.event.Authored db) :
    db.heard column id entry = db := by
  have refused : ∃ why, db.createAuditLog column (entry.row id) = .error why := by
    unfold Accounts.createAuditLog
    split
    · exact ⟨_, rfl⟩
    · exact ⟨_, dif_neg unauthored⟩
  obtain ⟨why, refused⟩ := refused
  rw [Accounts.heard, refused]

theorem auditActor_onDelete (id : Uuid) (logs : List AuditLog) :
    auditActor.onDelete id logs =
      logs.map fun row => if row.actorId == some id then { row with actorId := none } else row := rfl

theorem write_logs (stmt : AccountStatement) (db : Accounts) :
    (handleAccount.after stmt db).archive.auditLogs = db.archive.auditLogs ∨
      ∃ id, stmt = .deleteUser id ∧
        (handleAccount.after stmt db).archive.auditLogs = auditActor.onDelete id db.archive.auditLogs := by
  obtain same | ⟨reply, applied⟩ := account_after_cases stmt db
  · exact .inl (by rw [same])
  · generalize (handleAccount.after stmt db).toAccountTables = t at applied
    cases stmt <;> simp only [AccountTables.apply, bind_ok, orFail_ok, require_ok, pure_ok, Except.ok.injEq,
      Prod.mk.injEq] at applied
    case deleteUser id =>
      obtain ⟨u, _, deleted⟩ | ⟨_, _, _, rfl⟩ := apply_deleteUser applied
      · exact .inr ⟨id, rfl, by rw [(deleteUser_ok deleted).2.2.2.2.2]; rfl⟩
      · exact .inl rfl
    all_goals grind

end Steps

/-! ## The run -/

section Run

variable (column : JsonColumn)

/-- The ids of the rows to come are unlike each other and unused. -/
def FreshLogs (steps : List JournalStep) (db : Accounts) : Prop :=
  (steps.filterMap JournalStep.logId).Nodup ∧
    ∀ id ∈ steps.filterMap JournalStep.logId, id ∉ db.archive.auditLogs.map (·.id)

theorem write_logIds (stmt : AccountStatement) (db : Accounts) :
    (handleAccount.after stmt db).archive.auditLogs.map (·.id) = db.archive.auditLogs.map (·.id) := by
  obtain same | ⟨id, -, forgot⟩ := write_logs stmt db
  · rw [same]
  · rw [forgot, auditActor_onDelete, List.map_map]
    refine List.map_congr_left fun row _ => ?_
    dsimp only [Function.comp_apply]
    split <;> rfl

theorem FreshLogs.written {stmt : AccountStatement} {rest : List JournalStep} {db : Accounts}
    (fresh : FreshLogs (.write stmt :: rest) db) : FreshLogs rest (handleAccount.after stmt db) := by
  refine ⟨fresh.1, fun id member => ?_⟩
  rw [write_logIds]
  exact fresh.2 id member

theorem FreshLogs.heard {id : Uuid} {entry : JournalEntry} {rest : List JournalStep} {db : Accounts}
    (fresh : FreshLogs (.hear id entry :: rest) db) : FreshLogs rest (db.heard column id entry) := by
  obtain ⟨apart, distinct⟩ := List.nodup_cons.mp fresh.1
  refine ⟨distinct, fun other member => ?_⟩
  have unused := fresh.2 other (List.mem_cons_of_mem _ member)
  by_cases authored : entry.event.Authored db
  · rw [heard_authored column (fresh.2 id List.mem_cons_self) authored, List.map_append, List.mem_append]
    rintro (old | new)
    · exact unused old
    · obtain rfl : other = id := List.mem_singleton.mp new
      exact apart member
  · rwa [heard_unauthored column id authored]

/-- A deleted user is forgotten by the rows that name it, and they still tell the rest. -/
theorem tells_written {steps : List JournalStep} {stmt : AccountStatement} (among : .write stmt ∈ steps)
    {db : Accounts} {told : List JournalEntry}
    (tells : List.Forall₂ (AuditLog.Tells steps) db.archive.auditLogs told) :
    List.Forall₂ (AuditLog.Tells steps) (handleAccount.after stmt db).archive.auditLogs told := by
  obtain same | ⟨id, rfl, forgot⟩ := write_logs stmt db
  · rwa [same]
  · rw [forgot, auditActor_onDelete, List.forall₂_map_left_iff]
    refine tells.imp fun row entry tells => ?_
    split
    next named => exact tells.forgotten (beq_iff_eq.mp named) among
    next => exact tells

theorem journal_told (steps : List JournalStep) {all : List JournalStep} (among : steps ⊆ all) {db : Accounts}
    (fresh : FreshLogs steps db) {told : List JournalEntry}
    (tells : List.Forall₂ (AuditLog.Tells all) db.archive.auditLogs told) :
    List.Forall₂ (AuditLog.Tells all) (db.journal column steps).archive.auditLogs
      (told ++ recorded column steps db) := by
  induction steps generalizing db told with
  | nil => rwa [recorded, List.append_nil]
  | cons step rest ih =>
      obtain ⟨first, later⟩ := List.cons_subset.mp among
      cases step with
      | write stmt => exact ih later fresh.written (tells_written first tells)
      | hear id entry =>
          rw [recorded]
          split
          next authored =>
            rw [List.append_cons]
            refine ih later (fresh.heard column) ?_
            rw [heard_authored column (fresh.2 id List.mem_cons_self) authored]
            exact List.rel_append tells (.cons (stored_tells column id entry all) .nil)
          next unauthored =>
            refine ih later (fresh.heard column) ?_
            rwa [heard_unauthored column id unauthored]

end Run

end AccreditationBackend
