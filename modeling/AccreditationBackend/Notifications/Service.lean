import AccreditationBackend.Iam.Contacts
import AccreditationBackend.Kernel.Instants
import AccreditationBackend.Notifications.Templates

/-! The sending of a notification: its texts, its log and its mail. -/

set_option autoImplicit false

namespace AccreditationBackend

open Foundation (Table Interface Handler Proc Keyed)

instance : Keyed NotificationLog := Keyed.by (·.id)

structure SendMailInput where
  to_ : String
  subject : String
  html : String
  deriving DecidableEq, Repr

/-- How the mailer took a mail: with what the provider answered, or with the message of an error. -/
abbrev MailResult := Except String (Option String)

/-- A mail given to the mailer. -/
structure Mail where
  input : SendMailInput
  result : MailResult

/-- The mailer decides on each mail by itself. `inherited` are the properties that
every JavaScript object has, and `messageOf` the message of a refused statement. -/
structure NotificationServices where
  mailer : Nat → SendMailInput → MailResult
  inherited : String → Option String := fun _ => none
  messageOf : Failure → String := fun _ => ""

/-- Ids of the logs and readings of the clock, by the rounds of a loop. -/
structure NotificationAmbient where
  logId : Nat → Uuid
  clock : Nat → Time := fun _ => 0

/-! ## Rendering -/

namespace TemplateRendererService

/-- `\w` or a dot. -/
def isKeyChar (c : Char) : Bool :=
  ('a' ≤ c && c ≤ 'z') || ('A' ≤ c && c ≤ 'Z') || ('0' ≤ c && c ≤ '9') || c == '_' || c == '.'

/-- A placeholder at the start of the text, with the number of its characters. -/
def placeholder : List Char → Option (String × Nat)
  | '{' :: '{' :: inside =>
      let fromKey := inside.dropWhile isJsSpace
      let key := fromKey.takeWhile isKeyChar
      match (fromKey.dropWhile isKeyChar).dropWhile isJsSpace with
      | '}' :: '}' :: rest =>
          if key = [] then none else some (String.ofList key, inside.length - rest.length + 2)
      | _ => none
  | _ => none

/-- The first argument counts the characters of a placeholder that are still to be passed over. -/
def renderFrom (value : String → Option String) : Nat → List Char → List Char
  | _, [] => []
  | skip + 1, _ :: rest => renderFrom value skip rest
  | 0, c :: rest =>
      match placeholder (c :: rest) with
      | some (key, length) => ((value key).getD "").toList ++ renderFrom value (length - 1) rest
      | none => c :: renderFrom value 0 rest

def render (template : String) (value : String → Option String) : String :=
  String.ofList (renderFrom value 0 template.toList)

end TemplateRendererService

/-- A text without braces is rendered as it stands. -/
theorem render_plain (value : String → Option String) {text : List Char} (plain : '{' ∉ text) :
    TemplateRendererService.renderFrom value 0 text = text := by
  induction text with
  | nil => rfl
  | cons c rest ih =>
      simp only [List.mem_cons, not_or] at plain
      have none_ : TemplateRendererService.placeholder (c :: rest) = none := by
        unfold TemplateRendererService.placeholder
        split
        next same => exact absurd (List.cons.inj same).1.symm plain.1
        next => rfl
      rw [TemplateRendererService.renderFrom, none_, ih plain.2]

example : TemplateRendererService.render "\x7b\x7b a.b \x7d\x7d, \x7b\x7b\x7bx\x7d\x7d, \x7b\x7b -\x7d\x7d"
    (fun key => if key = "a.b" then some "Lions" else none) = "Lions, \x7b, \x7b\x7b -\x7d\x7d" := by
  decide

/-! ## Statements -/

inductive NotificationStatement where
  | createLog (row : NotificationLog)
  | sendMail (input : SendMailInput)
  /-- Inside the `try`: a refusal is taken as a reply. -/
  | markSent (id : Uuid) (sentAt : Time) (providerResponse : Option String)
  | markFailed (id : Uuid) (providerResponse : String)

abbrev NotificationStatement.Reply : NotificationStatement → Type
  | .createLog _ => NotificationLog
  | .sendMail _ => MailResult
  | .markSent .. => Except Failure Unit
  | .markFailed .. => Unit

abbrev notificationStore : Interface := ⟨NotificationStatement, NotificationStatement.Reply⟩

structure NotificationState where
  db : ContactedDatabase
  templates : Table NotificationTemplate := .empty
  logs : Table NotificationLog := .empty
  /-- All that has been given to the mailer, in order. -/
  mails : List Mail := []

def sentLog (sentAt : Time) (providerResponse : Option String) (log : NotificationLog) :
    NotificationLog :=
  { log with
    status := .sent
    sentAt := some sentAt
    providerResponse := providerResponse.or log.providerResponse }

def failedLog (providerResponse : String) (log : NotificationLog) : NotificationLog :=
  { log with status := .failed, providerResponse := some providerResponse }

theorem sentLog_key (sentAt : Time) (providerResponse : Option String) (log : NotificationLog) :
    Keyed.key (sentLog sentAt providerResponse log) = Keyed.key log := rfl

theorem failedLog_key (providerResponse : String) (log : NotificationLog) :
    Keyed.key (failedLog providerResponse log) = Keyed.key log := rfl

def NotificationState.apply (services : NotificationServices) :
    (stmt : NotificationStatement) → NotificationState →
      Except Failure (stmt.Reply × NotificationState)
  | .createLog row, s => do
      require (∀ id ∈ row.recipientUserId.toList, id ∈ s.db.accounts.column (·.id))
        .foreignKeyViolation
      let logs ← orFail (s.logs.insert row) .uniqueViolation
      return (row, { s with logs })
  | .sendMail input, s =>
      let result := services.mailer s.mails.length input
      .ok (result, { s with mails := s.mails ++ [{ input, result }] })
  | .markSent id sentAt providerResponse, s =>
      match s.logs.find (·.id == id) with
      | none => .ok (.error .recordNotFound, s)
      | some _ =>
          .ok (.ok (), { s with
            logs := s.logs.update (·.id == id) (sentLog sentAt providerResponse)
              (sentLog_key sentAt providerResponse) })
  | .markFailed id providerResponse, s => do
      let _ ← orFail (s.logs.find (·.id == id)) .recordNotFound
      return ((), { s with
        logs := s.logs.update (·.id == id) (failedLog providerResponse)
          (failedLog_key providerResponse) })

def handleNotification (services : NotificationServices) :
    Handler notificationStore NotificationState Failure :=
  fun stmt s => s.apply services stmt

abbrev NotificationOp (A : Type) := Proc notificationStore NotificationState Failure A

def notify (stmt : NotificationStatement) : NotificationOp stmt.Reply :=
  Proc.command (I := notificationStore) stmt

@[simp] theorem notify_bind {A : Type} (stmt : NotificationStatement)
    (f : stmt.Reply → NotificationOp A) :
    (notify stmt >>= f) = .exec stmt f := rfl

/-! ## Sending -/

structure SendNotificationInput where
  event : NotificationEvent
  recipientEmail : String
  recipientUserId : Option Uuid := none
  variables_ : List (String × String) := []
  deriving DecidableEq, Repr

/-- The log of a notification before its mail is given to the mailer. -/
def pendingLog (id : Uuid) (input : SendNotificationInput) : NotificationLog where
  id := id
  event := input.event
  channel := .email
  recipientUserId := input.recipientUserId
  recipientAddress := input.recipientEmail
  status := .pending

namespace NotificationsService

/-- What follows the mail: the rest of the `try`, or the `catch`. -/
def settle (services : NotificationServices) (id : Uuid) (sentAt : Time) :
    MailResult → NotificationOp Unit
  | .ok providerResponse => do
      let marked : Except Failure Unit ← notify (.markSent id sentAt providerResponse)
      -- An error of the update is caught like one of the mailer.
      match marked with
      | .ok _ => return
      | .error why => notify (.markFailed id (services.messageOf why))
  | .error message => notify (.markFailed id message)

def send (services : NotificationServices) (ambient : NotificationAmbient) (index : Nat)
    (input : SendNotificationInput) : NotificationOp Unit := do
  let text ← Proc.query fun s => source s.templates input.event
  let value (key : String) := (input.variables_.lookup key).or (services.inherited key)
  let log : NotificationLog ← notify (.createLog (pendingLog (ambient.logId index) input))
  let mailed : MailResult ← notify (.sendMail {
    to_ := input.recipientEmail
    subject := TemplateRendererService.render text.subject value
    html := TemplateRendererService.render text.body value })
  settle services log.id (ambient.clock index) mailed

end NotificationsService

/-! ## One notification -/

/-- A log as the result of its mail leaves it. -/
def settledLog (sentAt : Time) (log : NotificationLog) : MailResult → NotificationLog
  | .ok providerResponse => sentLog sentAt providerResponse log
  | .error message => failedLog message log

theorem selects_notificationLogId (id : Uuid) : Table.Selects (ρ := NotificationLog) (·.id == id) := by
  intro a b left right
  exact (beq_iff_eq.mp left).trans (beq_iff_eq.mp right).symm

theorem handle_createLog {services : NotificationServices} {s : NotificationState}
    {row : NotificationLog} {logs : Table NotificationLog}
    (inserted : s.logs.insert row = some logs)
    (known : ∀ id ∈ row.recipientUserId, id ∈ s.db.accounts.column (·.id)) :
    handleNotification services (.createLog row) s = .ok (row, { s with logs }) := by
  have allowed : ∀ id ∈ row.recipientUserId.toList, id ∈ s.db.accounts.column (·.id) := by
    simpa using known
  rw [handleNotification, NotificationState.apply, require, if_pos allowed, inserted]
  rfl

theorem settledLog_key (sentAt : Time) (result : MailResult) (log : NotificationLog) :
    Keyed.key (settledLog sentAt log result) = Keyed.key log := by
  cases result <;> rfl

theorem settle_run (services : NotificationServices) {s : NotificationState} {row : NotificationLog}
    (found : s.logs.find (·.id == row.id) = some row) (sentAt : Time) (result : MailResult) :
    (NotificationsService.settle services row.id sentAt result).run (handleNotification services) s =
      (.ok (), { s with
        logs := s.logs.update (·.id == row.id) (settledLog sentAt · result)
          (settledLog_key sentAt result) }) := by
  cases result with
  | ok providerResponse =>
      rw [NotificationsService.settle, notify_bind]
      simp only [Proc.run, handleNotification, NotificationState.apply, found]
      rfl
  | error message =>
      rw [NotificationsService.settle, notify, Proc.command]
      simp only [Proc.run, handleNotification, NotificationState.apply, found, orFail]
      rfl

/-- A notification leaves one log, settled by what the mailer made of its one mail. -/
theorem send_run (services : NotificationServices) (ambient : NotificationAmbient) (index : Nat)
    (input : SendNotificationInput) {s : NotificationState}
    (known : ∀ id ∈ input.recipientUserId, id ∈ s.db.accounts.column (·.id))
    (fresh : ambient.logId index ∉ s.logs.column (·.id)) :
    ∃ logs mail, mail.input.to_ = input.recipientEmail ∧
      mail.result = services.mailer s.mails.length mail.input ∧
      logs.rows = s.logs.rows ++
        [settledLog (ambient.clock index) (pendingLog (ambient.logId index) input) mail.result] ∧
      (NotificationsService.send services ambient index input).run (handleNotification services) s =
        (.ok (), { s with logs, mails := s.mails ++ [mail] }) := by
  have accepted : ∃ logs, s.logs.insert (pendingLog (ambient.logId index) input) = some logs :=
    Table.insert_accepted.mpr fun a stored clash => fresh (List.mem_map.mpr ⟨a, stored, clash⟩)
  obtain ⟨logs, inserted⟩ := accepted
  have selects := selects_notificationLogId (pendingLog (ambient.logId index) input).id
  have own : ((pendingLog (ambient.logId index) input).id == (pendingLog (ambient.logId index) input).id) = true :=
    beq_self_eq_true _
  have found : logs.find (·.id == (pendingLog (ambient.logId index) input).id) =
      some (pendingLog (ambient.logId index) input) :=
    (Table.find_some_iff selects).mpr
      ⟨by rw [Table.insert_rows inserted]; exact List.mem_append_right _ (List.mem_singleton_self _), own⟩
  unfold NotificationsService.send
  simp only [Proc.query_bind, Proc.run]
  rw [notify_bind, Proc.run, handle_createLog inserted known]
  dsimp only
  rw [notify_bind, Proc.run]
  exact ⟨_, ⟨_, _⟩, rfl, rfl, Table.update_inserted _ _ inserted selects own, settle_run services found _ _⟩

end AccreditationBackend
