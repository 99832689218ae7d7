import AccreditationBackend.Foundation.Intake
import AccreditationBackend.Notifications.Service

/-! The notifications that follow a change of a match. -/

set_option autoImplicit false

namespace AccreditationBackend

open Foundation

/-- `status: { notIn: ['REJECTED', 'CANCELLED'] }`, on the requests of the match. -/
def concerns (matchId : Uuid) (r : AccreditationRequest) : Bool :=
  r.matchId == matchId && !([.rejected, .cancelled] : List RequestStatus).contains r.status

structure NotificationRecipient where
  email : String
  userId : Uuid
  deriving DecidableEq, Repr

namespace NotificationListener

def resolveRequesterRecipient (requesterProfileId : Uuid) :
    NotificationOp (Option NotificationRecipient) :=
  Proc.query fun s => (s.db.profileOf requesterProfileId).map fun (profile, user) =>
    { email := user.email, userId := profile.userId }

def matchUpdatedInput (recipient : NotificationRecipient) (matchLabel changedFields : String) :
    SendNotificationInput where
  event := .matchUpdated
  recipientEmail := recipient.email
  recipientUserId := recipient.userId
  variables_ := [("matchLabel", matchLabel), ("changedFields", changedFields)]

/-- The loop of `onMatchUpdated`, with the number of its rounds so far. -/
def notifyEach (services : NotificationServices) (ambient : NotificationAmbient)
    (matchLabel changedFields : String) : Nat → List Uuid → NotificationOp Unit
  | _, [] => return
  | index, requesterId :: rest => do
      match ← resolveRequesterRecipient requesterId with
      | none => notifyEach services ambient matchLabel changedFields (index + 1) rest
      | some recipient => do
          NotificationsService.send services ambient index
            (matchUpdatedInput recipient matchLabel changedFields)
          notifyEach services ambient matchLabel changedFields (index + 1) rest

def onMatchUpdated (services : NotificationServices) (ambient : NotificationAmbient) (matchId : Uuid)
    (changedFields : List String) : NotificationOp Unit := do
  match ← Proc.query fun s => s.db.matchRows.find (·.id == matchId) with
  | none => return
  | some m => do
      -- `distinct` keeps the first request of each requester.
      let requesters ← Proc.query fun s =>
        admitted [] ((s.db.requests.rows.filter (concerns matchId)).map (·.requesterId))
      notifyEach services ambient (m.homeTeam ++ " vs " ++ m.awayTeam)
        (", ".intercalate changedFields) 0 requesters

end NotificationListener

/-! ## Who is concerned, and what it is told -/

/-- It has a request on the match that is neither rejected nor cancelled. -/
def Concerned (db : ContactedDatabase) (matchId requesterId : Uuid) : Prop :=
  ∃ r ∈ db.requests.rows, r.requesterId = requesterId ∧ r.matchId = matchId ∧
    r.status ≠ .rejected ∧ r.status ≠ .cancelled

instance (db : ContactedDatabase) (matchId requesterId : Uuid) :
    Decidable (Concerned db matchId requesterId) :=
  inferInstanceAs (Decidable (∃ r ∈ _, _))

/-- The log and the mail of one requester. -/
structure Delivery where
  requesterId : Uuid
  log : NotificationLog
  mail : Mail

/-- The mail goes to the account of the requester, as the mail of this position, and the
log says what became of it. -/
structure Delivery.Genuine (services : NotificationServices) (db : ContactedDatabase) (position : Nat)
    (delivery : Delivery) (profile : ProfileLink) (user : User) : Prop where
  owner : db.profileOf delivery.requesterId = some (profile, user)
  event : delivery.log.event = .matchUpdated
  channel : delivery.log.channel = .email
  recipient : delivery.log.recipientUserId = some profile.userId
  address : delivery.log.recipientAddress = user.email
  addressed : delivery.mail.input.to_ = user.email
  answered : delivery.mail.result = services.mailer position delivery.mail.input
  settled : delivery.log.status = if delivery.mail.result.isOk then .sent else .failed

section Concern

variable {db : ContactedDatabase} {matchId requesterId : Uuid}

theorem concerned_iff :
    Concerned db matchId requesterId ↔
      requesterId ∈ (db.requests.rows.filter (concerns matchId)).map (·.requesterId) := by
  simp only [Concerned, concerns, List.mem_map, List.mem_filter, Bool.and_eq_true, beq_iff_eq,
    Bool.not_eq_true', List.contains_eq_mem, decide_eq_false_iff_not, List.mem_cons, List.not_mem_nil,
    or_false, not_or]
  constructor
  · rintro ⟨r, stored, rfl, rfl, pending⟩
    exact ⟨r, ⟨stored, rfl, pending⟩, rfl⟩
  · rintro ⟨r, ⟨stored, rfl, pending⟩, rfl⟩
    exact ⟨r, stored, rfl, rfl, pending⟩

theorem not_concerned (missing : db.matchRows.find (·.id == matchId) = none) :
    ¬ Concerned db matchId requesterId := by
  rintro ⟨r, stored, -, rfl, -⟩
  have existing := db.referential.request_match (List.mem_map_of_mem (f := (·.matchId)) stored)
  obtain ⟨m, found⟩ := Table.find_of_column existing
  rw [missing] at found
  cases found

end Concern

theorem settledLog_status (sentAt : Time) (log : NotificationLog) (result : MailResult) :
    (settledLog sentAt log result).status = if result.isOk then .sent else .failed := by
  cases result <;> rfl

/-! ## The loop -/

section Loop

variable (services : NotificationServices) (ambient : NotificationAmbient)

/-- The ids that the rounds from this one on will give to their logs are free. -/
def FreeFrom (index : Nat) (s : NotificationState) : Prop :=
  ∀ later, index ≤ later → ambient.logId later ∉ s.logs.column (·.id)

variable {ambient}

theorem FreeFrom.next (injective : Function.Injective ambient.logId) {index : Nat}
    {s t : NotificationState} (free : FreeFrom ambient index s) {log : NotificationLog}
    (own : log.id = ambient.logId index) (rows : t.logs.rows = s.logs.rows ++ [log]) :
    FreeFrom ambient (index + 1) t := by
  intro later behind
  rw [Table.column, rows, List.map_append, List.mem_append]
  rintro (before | new)
  · exact free later (Nat.le_of_succ_le behind) before
  · have same := injective ((List.mem_singleton.mp new).trans own)
    omega

theorem deliver (index : Nat) (matchLabel changedFields : String) {s : NotificationState}
    {requesterId : Uuid} {profile : ProfileLink} {user : User}
    (owner : s.db.profileOf requesterId = some (profile, user)) (free : FreeFrom ambient index s) :
    ∃ logs, ∃ delivery : Delivery, delivery.requesterId = requesterId ∧
      delivery.log.id = ambient.logId index ∧
      delivery.Genuine services s.db s.mails.length profile user ∧
      logs.rows = s.logs.rows ++ [delivery.log] ∧
      (NotificationsService.send services ambient index (NotificationListener.matchUpdatedInput
          { email := user.email, userId := profile.userId } matchLabel changedFields)).run
            (handleNotification services) s =
        (.ok (), { s with logs, mails := s.mails ++ [delivery.mail] }) := by
  obtain ⟨_, account, same⟩ := ContactedDatabase.profileOf_iff.mp owner
  have known : ∀ id ∈ (some profile.userId : Option Uuid), id ∈ s.db.accounts.column (·.id) := by
    rintro id ⟨⟩
    exact List.mem_map.mpr ⟨user, account, same⟩
  obtain ⟨logs, mail, addressed, answered, rows, ran⟩ := send_run services ambient index
    (NotificationListener.matchUpdatedInput { email := user.email, userId := profile.userId }
      matchLabel changedFields) known (free index (Nat.le_refl _))
  refine ⟨logs, ⟨requesterId, _, mail⟩, rfl, settledLog_key _ _ _, ?_, rows, ran⟩
  exact ⟨owner, by cases mail.result <;> rfl, by cases mail.result <;> rfl, by cases mail.result <;> rfl,
    by cases mail.result <;> rfl, addressed, answered, settledLog_status _ _ _⟩

/-- Every requester of the list gets its delivery, whatever became of the mails before it. -/
theorem notifyEach_run (injective : Function.Injective ambient.logId) (matchLabel changedFields : String)
    (index : Nat) (requesters : List Uuid) {s : NotificationState} (free : FreeFrom ambient index s)
    (known : ∀ requesterId ∈ requesters, ∃ profile user, s.db.profileOf requesterId = some (profile, user)) :
    ∃ logs, ∃ deliveries : List Delivery, deliveries.map (·.requesterId) = requesters ∧
      (∀ (k : Nat) (delivery : Delivery), deliveries[k]? = some delivery →
        ∃ profile user, delivery.Genuine services s.db (s.mails.length + k) profile user) ∧
      logs.rows = s.logs.rows ++ deliveries.map (·.log) ∧
      (NotificationListener.notifyEach services ambient matchLabel changedFields index requesters).run
          (handleNotification services) s =
        (.ok (), { s with logs, mails := s.mails ++ deliveries.map (·.mail) }) := by
  induction requesters generalizing index s with
  | nil =>
      refine ⟨s.logs, [], rfl, fun k _ found => by simp at found, (List.append_nil _).symm, ?_⟩
      simp only [NotificationListener.notifyEach, Proc.pure_eq, Proc.run, List.map_nil,
        List.append_nil]
  | cons requesterId rest ih =>
      obtain ⟨profile, user, owner⟩ := known requesterId List.mem_cons_self
      obtain ⟨logs, delivery, of, own, genuine, rows, ran⟩ :=
        deliver services index matchLabel changedFields owner free
      obtain ⟨logs', deliveries, ofRest, genuineRest, rows', ranRest⟩ := ih (index + 1)
        (s := { s with logs, mails := s.mails ++ [delivery.mail] }) (free.next injective own rows)
        fun other member => known other (List.mem_cons_of_mem _ member)
      refine ⟨logs', delivery :: deliveries, by rw [List.map_cons, of, ofRest], ?_, ?_, ?_⟩
      · rintro (_ | k) chosen found
        · cases found
          exact ⟨profile, user, genuine⟩
        · have later := genuineRest k chosen found
          rwa [List.length_append, List.length_singleton, Nat.add_assoc, Nat.add_comm 1] at later
      · rw [rows', rows, List.append_assoc, List.singleton_append, List.map_cons]
      · simp only [NotificationListener.notifyEach, NotificationListener.resolveRequesterRecipient,
          Proc.query_bind, Proc.run, owner, Option.map_some]
        rw [Proc.run_bind, ran]
        dsimp only
        rw [ranRest, List.append_assoc, List.singleton_append, List.map_cons]

end Loop

/-! ## Everyone concerned is told once -/

/-- The requester of a delivery is told by its account, so by its log. -/
theorem Delivery.Genuine.log_of {services : NotificationServices} {db : ContactedDatabase}
    {position : Nat} {delivery : Delivery} {profile other : ProfileLink} {user : User}
    (genuine : delivery.Genuine services db position profile user)
    (stored : other ∈ db.owners.rows) :
    delivery.log.recipientUserId = some other.userId ↔ delivery.requesterId = other.id := by
  obtain ⟨⟨inside, named⟩, -⟩ := ContactedDatabase.profileOf_iff.mp genuine.owner
  rw [genuine.recipient, Option.some.injEq, ← named]
  constructor
  · exact fun same => congrArg (·.id) (Table.eq_of_clash inside stored (.inr same))
  · exact fun same => congrArg (·.userId) (Table.eq_of_clash inside stored (.inl same))

/-- A change of a match is told to everyone concerned, each exactly once and nobody else:
the handler returns, and every new log is settled by what the mailer made of its own mail. -/
theorem concerned_told_once (services : NotificationServices) (ambient : NotificationAmbient)
    (s : NotificationState) (matchId : Uuid) (changedFields : List String)
    (injective : Function.Injective ambient.logId)
    (unused : ∀ index, ambient.logId index ∉ s.logs.column (·.id)) :
    ∃ logs, ∃ deliveries : List Delivery,
      (NotificationListener.onMatchUpdated services ambient matchId changedFields).run
          (handleNotification services) s =
        (.ok (), { s with logs, mails := s.mails ++ deliveries.map (·.mail) }) ∧
      logs.rows = s.logs.rows ++ deliveries.map (·.log) ∧
      (∀ profile ∈ s.db.owners.rows,
        (deliveries.map (·.log)).countP (·.recipientUserId == some profile.userId) =
          if Concerned s.db matchId profile.id then 1 else 0) ∧
      ∀ (k : Nat) (delivery : Delivery), deliveries[k]? = some delivery →
        Concerned s.db matchId delivery.requesterId ∧
          ∃ profile user, delivery.Genuine services s.db (s.mails.length + k) profile user := by
  cases existing : s.db.matchRows.find (·.id == matchId) with
  | none =>
      refine ⟨s.logs, [], ?_, (List.append_nil _).symm, fun profile _ => ?_, fun k _ found => by simp at found⟩
      · simp only [NotificationListener.onMatchUpdated, Proc.query_bind, Proc.run, existing,
          Proc.pure_eq, List.map_nil, List.append_nil]
      · rw [if_neg (not_concerned existing), List.map_nil, List.countP_nil]
  | some m =>
      have known : ∀ requesterId ∈ admitted []
          ((s.db.requests.rows.filter (concerns matchId)).map (·.requesterId)),
          ∃ profile user, s.db.profileOf requesterId = some (profile, user) := by
        intro requesterId member
        obtain ⟨r, stored, rfl, -⟩ := concerned_iff.mpr (mem_admitted.mp member).1
        exact ContactedDatabase.profileOf_requester stored
      obtain ⟨logs, deliveries, of, genuine, rows, ran⟩ := notifyEach_run services injective
        (m.homeTeam ++ " vs " ++ m.awayTeam) (", ".intercalate changedFields) 0 _
        (fun later _ => unused later) known
      refine ⟨logs, deliveries, ?_, rows, fun profile stored => ?_, fun k delivery found => ?_⟩
      · simpa only [NotificationListener.onMatchUpdated, Proc.query_bind, Proc.run, existing] using ran
      · have told : (deliveries.map (·.log)).countP (·.recipientUserId == some profile.userId) =
            (deliveries.map (·.requesterId)).count profile.id := by
          rw [List.count_eq_countP, List.countP_map, List.countP_map]
          refine List.countP_congr fun delivery member => ?_
          obtain ⟨k, found⟩ := List.getElem?_of_mem member
          obtain ⟨_, _, own⟩ := genuine k delivery found
          simpa only [Function.comp_apply, beq_iff_eq] using own.log_of stored
        rw [told, of, count_admitted]
        simp only [← concerned_iff, List.not_mem_nil, not_false_eq_true, and_true]
      · refine ⟨?_, genuine k delivery found⟩
        have member : delivery.requesterId ∈ deliveries.map (·.requesterId) :=
          List.mem_map_of_mem (List.mem_of_getElem? found)
        rw [of] at member
        exact concerned_iff.mpr (mem_admitted.mp member).1

/-- No mail reaches this address. -/
def unreachable : NotificationServices where
  mailer _ input := if input.to_ = "awa@fsf.sn" then .error "550" else .ok none

def unaryIds : NotificationAmbient where
  logId index := String.ofList (List.replicate index '1')

def galleryRequest (id requesterId : Uuid) (status : RequestStatus) : AccreditationRequest where
  id := id
  uniqueReference := "FSF-2026-00000" ++ id
  requesterId := requesterId
  matchId := "final"
  categoryRequestedId := "press"
  status := status

def galleryAccount (id email : String) : User where
  id := id
  email := email
  passwordHash := "secret"
  kind := .requester

/-- Three requesters on one match: the first with two requests, the second with one that
was rejected besides another, the third with a rejected one alone. -/
def gallery : ContactedDatabase where
  toDatabase :=
    { sampleDatabase 0 with
      requesters := ⟨[
        { id := "reporter", mediaId := "daily", firstName := "Awa", lastName := "Fall", function := "press" },
        { id := "editor", mediaId := "daily", firstName := "Binta", lastName := "Sow", function := "press" },
        { id := "stringer", mediaId := "daily", firstName := "Coumba", lastName := "Ba", function := "press" }],
        by simp [Keyed.Clash, Keyed.key]⟩
      requests := ⟨[galleryRequest "1" "reporter" .submitted, galleryRequest "2" "editor" .rejected,
        galleryRequest "3" "reporter" .draft, galleryRequest "4" "editor" .underReview,
        galleryRequest "5" "stringer" .rejected], by simp [Keyed.Clash, Keyed.key, galleryRequest]⟩
      referential := by constructor <;> simp [sampleDatabase, Table.column, Table.empty, galleryRequest] }
  accounts := ⟨[galleryAccount "awa" "awa@fsf.sn", galleryAccount "binta" "binta@fsf.sn",
    galleryAccount "coumba" "coumba@fsf.sn"], by simp [Keyed.Clash, Keyed.key, galleryAccount]⟩
  owners := ⟨[{ id := "reporter", userId := "awa" }, { id := "editor", userId := "binta" },
    { id := "stringer", userId := "coumba" }], by simp [Keyed.Clash, Keyed.key]⟩
  profiles := rfl
  owner_account := by simp [Table.column, galleryAccount]

/-- A mail that was sent long before. -/
def oldLog : NotificationLog where
  id := "old"
  event := .matchUpdated
  channel := .email
  recipientUserId := none
  recipientAddress := "awa@fsf.sn"
  status := .sent

def galleryState : NotificationState where
  db := gallery
  logs := ⟨[oldLog], List.pairwise_singleton _ _⟩

/-- The address that no mail reaches does not keep the next mail back. -/
theorem concerned_told_once_gallery :
    ∃ t new, (NotificationListener.onMatchUpdated unreachable unaryIds "final" ["stadium"]).run
          (handleNotification unreachable) galleryState = (.ok (), t) ∧
      t.logs.rows = oldLog :: new ∧
      new.countP (·.recipientUserId == some "awa") = 1 ∧ new.countP (·.recipientUserId == some "binta") = 1 ∧
      new.countP (·.recipientUserId == some "coumba") = 0 ∧
      ∀ log ∈ new, log.status = if log.recipientUserId = some "awa" then .failed else .sent := by
  have injective : Function.Injective unaryIds.logId := by
    intro first second same
    simpa using congrArg List.length (String.ofList_injective same)
  have unused (index : Nat) : unaryIds.logId index ∉ galleryState.logs.column (·.id) := by
    intro used
    have same : String.ofList (List.replicate index '1') = "old" := List.mem_singleton.mp used
    have letter : 'o' ∈ List.replicate index '1' := by
      rw [← String.toList_ofList (l := List.replicate index '1'), same]
      decide
    exact absurd (List.eq_of_mem_replicate letter) (by decide)
  obtain ⟨logs, deliveries, ran, rows, once, told⟩ := concerned_told_once unreachable unaryIds galleryState "final"
    ["stadium"] injective unused
  refine ⟨_, _, ran, rows, ?_, ?_, ?_, ?_⟩
  · exact once { id := "reporter", userId := "awa" } (by decide)
  · exact once { id := "editor", userId := "binta" } (by decide)
  · exact once { id := "stringer", userId := "coumba" } (by decide)
  · intro log member
    obtain ⟨delivery, inside, rfl⟩ := List.mem_map.mp member
    obtain ⟨k, found⟩ := List.getElem?_of_mem inside
    obtain ⟨-, profile, user, genuine⟩ := told k delivery found
    obtain ⟨-, stored, same⟩ := ContactedDatabase.profileOf_iff.mp genuine.owner
    have answer : unreachable.mailer (0 + k) delivery.mail.input =
        if user.email = "awa@fsf.sn" then .error "550" else .ok none := by
      rw [← genuine.addressed]
      rfl
    have mailed : user.email = "awa@fsf.sn" ↔ user.id = "awa" :=
      (by decide : ∀ u ∈ gallery.accounts.rows, u.email = "awa@fsf.sn" ↔ u.id = "awa") user stored
    rw [genuine.settled, genuine.answered.trans answer, genuine.recipient, ← same]
    by_cases awa : user.id = "awa"
    · simp [mailed.mpr awa, awa, Except.isOk, Except.toBool]
    · simp [mt mailed.mp awa, awa, Except.isOk, Except.toBool]

end AccreditationBackend
