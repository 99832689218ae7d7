import AccreditationBackend.Iam.Operations

/-! The deletion of a user, and what is left of its history.

The database forbids the deletion of a user whom some columns name, and forgets
the user in others.
-/

set_option autoImplicit false

namespace AccreditationBackend

open Foundation

namespace Archive

variable (a : Archive) (id : Uuid)

/-- A column that forgets a deleted user names this one. -/
def forgets : Bool :=
  documentReviewedBy.inUse id a.documents || accreditationRevokedBy.inUse id a.accreditations ||
    notificationRecipient.inUse id a.notificationLogs || loginAttemptUser.inUse id a.loginAttempts ||
    auditActor.inUse id a.auditLogs

/-- A row of the archive refers to the user. -/
def mentions : Bool :=
  documentUploadedBy.inUse id a.documents || documentReviewedBy.inUse id a.documents ||
    complementRequestedBy.inUse id a.complements || decisionActor.inUse id a.decisions ||
    accreditationRevokedBy.inUse id a.accreditations || scanPerformedBy.inUse id a.scanLogs ||
    notificationRecipient.inUse id a.notificationLogs || loginAttemptUser.inUse id a.loginAttempts ||
    auditActor.inUse id a.auditLogs

variable {a id} {users profiles : List Uuid}

theorem blocks_eq_false : a.blocks id = false ↔
    documentUploadedBy.inUse id a.documents = false ∧
    complementRequestedBy.inUse id a.complements = false ∧
      decisionActor.inUse id a.decisions = false ∧ scanPerformedBy.inUse id a.scanLogs = false := by
  have named :
      a.blocks id =
        (documentUploadedBy.inUse id a.documents || false ||
          complementRequestedBy.inUse id a.complements ||
    decisionActor.inUse id a.decisions || false || scanPerformedBy.inUse id a.scanLogs || false ||
      false || false) := rfl
  simp [named, and_assoc]

/-- Where nothing forbids the deletion, only the columns that forget can name the user. -/
theorem mentions_eq_forgets (free : a.blocks id = false) : a.mentions id = a.forgets id := by
  obtain ⟨uploaded, requested, decided, scanned⟩ := blocks_eq_false.mp free
  simp [mentions, forgets, uploaded, requested, decided, scanned]

/-- A deletion leaves the archive as it was exactly when no column has to forget the user. -/
theorem onDelete_eq_self : a.onDelete id = a ↔ a.forgets id = false := by
  have reviewed : documentReviewedBy.onDelete id a.documents = a.documents ↔
    documentReviewedBy.inUse id a.documents = false :=
    Reference.onDelete_eq_iff rfl
  have revoked : accreditationRevokedBy.onDelete id a.accreditations = a.accreditations ↔
      accreditationRevokedBy.inUse id a.accreditations = false := Reference.onDelete_eq_iff rfl
  have notified : notificationRecipient.onDelete id a.notificationLogs = a.notificationLogs ↔
      notificationRecipient.inUse id a.notificationLogs = false := Reference.onDelete_eq_iff rfl
  have attempted : loginAttemptUser.onDelete id a.loginAttempts = a.loginAttempts ↔
      loginAttemptUser.inUse id a.loginAttempts = false := Reference.onDelete_eq_iff rfl
  have audited :
      auditActor.onDelete id a.auditLogs = a.auditLogs ↔ auditActor.inUse id a.auditLogs = false :=
    Reference.onDelete_eq_iff rfl
  rw [forgets]
  simp only [Bool.or_eq_false_iff, ← reviewed, ← revoked, ← notified, ← attempted, ← audited, and_assoc]
  -- The columns that forbid a deletion change nothing.
  constructor
  · intro same
    exact ⟨congrArg Archive.documents same, congrArg Archive.accreditations same,
      congrArg Archive.notificationLogs same,
      congrArg Archive.loginAttempts same, congrArg Archive.auditLogs same⟩
  · rintro ⟨documents, accreditations, notificationLogs, loginAttempts, auditLogs⟩
    have followed : a.onDelete id = { a with
        documents := documentReviewedBy.onDelete id a.documents
        accreditations := accreditationRevokedBy.onDelete id a.accreditations
        notificationLogs := notificationRecipient.onDelete id a.notificationLogs
        loginAttempts := loginAttemptUser.onDelete id a.loginAttempts
        auditLogs := auditActor.onDelete id a.auditLogs } := rfl
    rw [followed, documents, accreditations, notificationLogs, loginAttempts, auditLogs]

theorem Within.mentioned (within : a.Within users profiles) (mentioned : a.mentions id = true) :
    id ∈ users := by
  simp only [mentions, Bool.or_eq_true] at mentioned
  rcases mentioned with (((((((used | used) | used) | used) | used) | used) | used) | used) | used
  · exact within.document_uploadedBy.used used
  · exact within.document_reviewedBy.used used
  · exact within.complement_requestedBy.used used
  · exact within.decision_actor.used used
  · exact within.accreditation_revokedBy.used used
  · exact within.scan_performedBy.used used
  · exact within.notification_recipient.used used
  · exact within.loginAttempt_user.used used
  · exact within.audit_actor.used used

end Archive

/-! ## The deletion of an internal account -/

section Deletion

variable {db : Accounts} {id : Uuid} {user : User}

theorem deleteStaffUser_missing (missing : db.userById id = none) (actorId : Uuid) :
    (deleteStaffUser id actorId).run handleAccount db =
      (.error (.failed (.domain userNotFound)), db) := by
  simp only [deleteStaffUser, findById, Proc.query_bind, Proc.run, missing]
  rfl

theorem deleteStaffUser_self (found : db.userById id = some user) :
    (deleteStaffUser id id).run handleAccount db = (.error (.failed (.domain cannotDeleteSelf)), db) := by
  simp only [deleteStaffUser, findById, Proc.query_bind, Proc.run, found, orRefuse_some_bind]
  rfl

theorem deleteStaffUser_refused (found : db.userById id = some user) {actorId : Uuid}
    (other : id ≠ actorId) (restricted : db.restricted id = true) :
    ∃ t, (deleteStaffUser id actorId).run handleAccount db =
      (.error (.failed (.domain userHasHistory)), t) := by
  have refused : db.toAccountTables.deleteUser id = .error .foreignKeyViolation := by
    simp [AccountTables.deleteUser, found, restricted, orFail, require, bind, Except.bind]
  have applied :
      db.toAccountTables.apply (.deleteUser id) =
        .ok (.error .foreignKeyViolation, db.toAccountTables) := by
    simp only [AccountTables.apply, refused]
  simp only [deleteStaffUser, findById, Proc.query_bind, Proc.run, found, orRefuse_some_bind]
  rw [if_neg other, writeAccount_bind, Proc.run, handleAccount_replies applied]
  exact ⟨_, rfl⟩

theorem deleteStaffUser_done (found : db.userById id = some user) {actorId : Uuid} (other : id ≠ actorId)
    (free : db.restricted id = false) :
    ∃ t, (deleteStaffUser id actorId).run handleAccount db = (.ok (), t) ∧
      t.archive = db.archive.onDelete id := by
  have deleted : db.toAccountTables.deleteUser id = .ok (user,
      { db.toAccountTables with
        users := db.users.delete (·.id == id)
        refreshTokens := db.refreshTokens.delete (·.userId == id)
        profiles := db.profiles.delete (·.userId == id)
        archive := db.archive.onDelete id }) := by
    simp [AccountTables.deleteUser, found, free, orFail, require, bind, Except.bind, pure, Except.pure]
  have applied : db.toAccountTables.apply (.deleteUser id) = .ok (.ok user,
      { db.toAccountTables with
        users := db.users.delete (·.id == id)
        refreshTokens := db.refreshTokens.delete (·.userId == id)
        profiles := db.profiles.delete (·.userId == id)
        archive := db.archive.onDelete id }) := by
    simp only [AccountTables.apply, deleted]
  have same := congrArg AccountTables.archive (account_after_applied applied)
  simp only [deleteStaffUser, findById, Proc.query_bind, Proc.run, found, orRefuse_some_bind]
  rw [if_neg other, writeAccount_bind, Proc.run, handleAccount_replies applied]
  exact ⟨_, rfl, same⟩

end Deletion

/-- The deletion takes nothing from the history, and who has one is told so,
exactly when it is not a deletion that goes through although a column that
forgets names the user. -/
theorem deletion_spares_history (db : Accounts) (id actorId : Uuid) :
    (((deleteStaffUser id actorId).run handleAccount db).1.isOk = true →
        ((deleteStaffUser id actorId).run handleAccount db).2.archive = db.archive) ∧
      (db.archive.mentions id = true → id ≠ actorId →
        ((deleteStaffUser id actorId).run handleAccount db).1 =
          .error (.failed (.domain userHasHistory))) ↔
    ¬ ((db.userById id).isSome = true ∧ id ≠ actorId ∧ db.restricted id = false ∧
      db.archive.forgets id = true) := by
  cases found : db.userById id with
  | none =>
      rw [deleteStaffUser_missing found]
      refine iff_of_true ⟨fun ok => by (cases ok), fun mentioned => ?_⟩ fun all => by cases all.1
      obtain ⟨u, known⟩ := Table.find_of_column (db.referential.archived.mentioned mentioned)
      cases found.symm.trans known
  | some user =>
      by_cases self : id = actorId
      · subst self
        rw [deleteStaffUser_self found]
        exact iff_of_true ⟨fun ok => by (cases ok), fun _ other => absurd rfl other⟩
          fun all => all.2.1 rfl
      · cases restricted : db.restricted id with
        | true =>
            obtain ⟨t, ran⟩ := deleteStaffUser_refused found self restricted
            rw [ran]
            exact iff_of_true ⟨fun ok => by (cases ok), fun _ _ => rfl⟩ fun all => by cases all.2.2.1
        | false =>
            obtain ⟨t, ran, archive⟩ := deleteStaffUser_done found self restricted
            have free : db.archive.blocks id = false := (Bool.or_eq_false_iff.mp restricted).1
            rw [ran, archive, Archive.mentions_eq_forgets free]
            cases forgotten : db.archive.forgets id with
            | false =>
                exact iff_of_true ⟨fun _ => Archive.onDelete_eq_self.mpr forgotten,
                  fun mentioned => by cases mentioned⟩
                  fun all => by cases all.2.2.2
            | true =>
                refine iff_of_false (fun both => ?_) fun spared => spared ⟨rfl, self, rfl, rfl⟩
                cases forgotten.symm.trans (Archive.onDelete_eq_self.mp (both.1 rfl))

/-- Two administrators, one of whom has acted: the audit log says so. -/
def auditedAccounts : Accounts where
  users := ⟨[{
      id := "awa"
      email := "awa@fsf.sn"
      passwordHash := "secret"
      kind := .staff
      role := some .admin
      status := .active }, {
      id := "binta"
      email := "binta@fsf.sn"
      passwordHash := "secret"
      kind := .staff
      role := some .admin
      status := .active }], by decide⟩
  archive := { auditLogs := [{
      id := "l1"
      actorId := some "binta"
      action := "user.status_updated"
      objectType := "User"
      createdAt := 0 }] }
  referential := by
    refine ⟨List.nil_subset _, List.nil_subset _, List.nil_subset _, ⟨?_, ?_, ?_, ?_, ?_, ?_, ?_, ?_, ?_, ?_⟩⟩ <;>
      unfold Reference.Within <;> decide

/-- The account is deleted, and its action has no author any more. -/
theorem history_forgotten :
    ((deleteStaffUser "binta" "awa").run handleAccount auditedAccounts).1.isOk = true ∧
      auditedAccounts.archive.mentions "binta" = true ∧
      ((deleteStaffUser "binta" "awa").run handleAccount auditedAccounts).2.archive ≠
        auditedAccounts.archive := by
  decide

end AccreditationBackend
