import AccreditationBackend.Audit.Recording
import AccreditationBackend.Kernel.Pagination

/-! Reading the audit journal, page after page.

The rows of a query stand in the order of their times, which are kept to the
millisecond: rows of one millisecond may come in another order on each page, and
one of them may then be shown twice, and another not at all.
-/

set_option autoImplicit false

namespace AccreditationBackend

open Foundation

structure ListAuditDto extends PageRequest where
  objectType : Option String := none
  objectId : Option String := none

/-- An absent or empty text is no condition. -/
def ListAuditDto.selects (query : ListAuditDto) (objectType : String) (objectId : Option String) : Bool :=
  (query.objectType.all fun wanted => wanted == "" || objectType == wanted) &&
    (query.objectId.all fun wanted => wanted == "" || objectId == some wanted)

def ListAuditDto.asksFor (query : ListAuditDto) (entry : JournalEntry) : Bool :=
  query.selects entry.event.subject.1 entry.event.subject.2

/-- The `WHERE` clause. -/
def Accounts.auditTrail (db : Accounts) (query : ListAuditDto) : List AuditLog :=
  db.archive.auditLogs.filter fun row => query.selects row.objectType row.objectId

namespace AuditService

/-- `ORDER BY "createdAt" DESC` is all the order there is: the ranking is the database's choice. -/
def list (ranking : Ranking AuditLog.createdAt) (query : ListAuditDto) (db : Accounts) : PageResult AuditLog :=
  pageOf (ranking.rank (db.auditTrail query)) query.toPageRequest

/-- The rows that a reader has seen who has turned all pages of a query. -/
def readThrough (rankings : Nat → Ranking AuditLog.createdAt) (query : ListAuditDto) (db : Accounts) :
    List AuditLog :=
  (List.range (list (rankings 0) query db).totalPages).flatMap fun before =>
    (list (rankings before) { query with toPageRequest := query.turnTo before } db).items

end AuditService

/-! ## What the pages tell -/

/-- The rows tell the entries, newest first, as far as their times keep them apart. -/
structure TrailTold (steps : List JournalStep) (entries : List JournalEntry) (rows : List AuditLog) : Prop where
  /-- At each time there are as many rows as entries. -/
  times : rows.map (·.createdAt) = (ranked (·.createdAt) entries).map (·.createdAt)
  each : ∀ row ∈ rows, ∃ entry ∈ entries, row.Tells steps entry
  /-- An entry that shares its time with no other is told once. -/
  alone : ∀ entry ∈ entries, entries.countP (·.createdAt == entry.createdAt) = 1 →
    ∃ row, rows.filter (·.createdAt == entry.createdAt) = [row] ∧ row.Tells steps entry
  exact : (entries.map (·.createdAt)).Nodup →
    List.Forall₂ (AuditLog.Tells steps) rows (ranked (·.createdAt) entries)

section Told

variable {steps : List JournalStep} {entries : List JournalEntry} {rows : List AuditLog}

/-- The times of the rows say how many there are for an entry, and that each row tells some
entry of its own time says which. -/
theorem TrailTold.of_times (times : rows.map (·.createdAt) = (ranked (·.createdAt) entries).map (·.createdAt))
    (each : ∀ row ∈ rows, ∃ entry ∈ entries, row.Tells steps entry) : TrailTold steps entries rows where
  times := times
  each := each
  alone := by
    intro entry listed only
    have many : (rows.filter (·.createdAt == entry.createdAt)).length = 1 := by
      have counted := congrArg (List.countP (· == entry.createdAt)) times
      rw [List.countP_map, List.countP_map, ((ranked_ranks _ entries).perm.countP_eq _)] at counted
      rw [← List.countP_eq_length_filter]
      exact counted.trans only
    obtain ⟨row, alone⟩ := List.length_eq_one_iff.mp many
    have shown : row ∈ rows.filter (·.createdAt == entry.createdAt) := alone ▸ List.mem_singleton_self row
    obtain ⟨among, atTime⟩ := List.mem_filter.mp shown
    obtain ⟨other, listed', tells⟩ := each row among
    have same : other.createdAt = entry.createdAt := tells.createdAt.symm.trans (beq_iff_eq.mp atTime)
    -- The two are one entry of the list: there is no other at this time.
    obtain ⟨one, single⟩ := List.length_eq_one_iff.mp ((List.countP_eq_length_filter ..).symm.trans only)
    have first : entry ∈ entries.filter (·.createdAt == entry.createdAt) :=
      List.mem_filter.mpr ⟨listed, beq_self_eq_true _⟩
    have second : other ∈ entries.filter (·.createdAt == entry.createdAt) :=
      List.mem_filter.mpr ⟨listed', beq_iff_eq.mpr same⟩
    rw [single, List.mem_singleton] at first second
    exact ⟨row, alone, first.trans second.symm ▸ tells⟩
  exact := by
    intro apart
    have level : List.Forall₂ (fun row entry => row.createdAt = entry.createdAt) rows
        (ranked (·.createdAt) entries) := by
      rw [← List.forall₂_eq_eq_eq, List.forall₂_map_left_iff, List.forall₂_map_right_iff] at times
      exact times
    have ordered : ∀ entry ∈ ranked (·.createdAt) entries, entry ∈ entries :=
      fun entry => (ranked_ranks _ entries).perm.mem_iff.mp
    have paired := (List.forall₂_and_left _ _).mpr
      ⟨ordered, ((List.forall₂_and_left _ _).mpr ⟨each, level⟩).flip⟩
    refine paired.flip.imp fun row entry both => ?_
    obtain ⟨listed, ⟨other, listed', tells⟩, same⟩ := both
    obtain rfl : other = entry :=
      List.inj_on_of_nodup_map apart listed' listed (tells.createdAt.symm.trans same)
    exact tells

theorem filter_told (query : ListAuditDto) (tells : List.Forall₂ (AuditLog.Tells steps) rows entries) :
    List.Forall₂ (AuditLog.Tells steps) (rows.filter fun row => query.selects row.objectType row.objectId)
      (entries.filter query.asksFor) := by
  induction tells with
  | nil => exact .nil
  | cons tells _ ih =>
      rw [List.filter_cons, List.filter_cons, tells.objectType, tells.objectId]
      unfold ListAuditDto.asksFor
      split
      · exact .cons tells ih
      · exact ih

theorem row_told (tells : List.Forall₂ (AuditLog.Tells steps) rows entries) :
    ∀ row ∈ rows, ∃ entry ∈ entries, row.Tells steps entry := by
  induction tells with
  | nil => exact List.forall_mem_nil _
  | cons tells _ ih =>
      refine List.forall_mem_cons.mpr ⟨⟨_, List.mem_cons_self, tells⟩, fun row among => ?_⟩
      obtain ⟨entry, listed, tells⟩ := ih row among
      exact ⟨entry, List.mem_cons_of_mem _ listed, tells⟩

end Told

/-- Whatever happens to the accounts while events are heard, and in whatever order each
page takes the rows of one millisecond, the pages of a query tell the recorded events that
it selects: each row gives its event back, but for an author whose account has been deleted. -/
theorem trail_told (column : JsonColumn) (steps : List JournalStep) {db : Accounts}
    (fresh : FreshLogs steps db) (empty : db.archive.auditLogs = []) (query : ListAuditDto)
    (rankings : Nat → Ranking AuditLog.createdAt) :
    TrailTold steps ((recorded column steps db).filter query.asksFor)
      (AuditService.readThrough rankings query (db.journal column steps)) := by
  have silent : List.Forall₂ (AuditLog.Tells steps) db.archive.auditLogs [] := by
    rw [empty]
    exact .nil
  have told := filter_told query (journal_told column steps (List.Subset.refl _) fresh silent)
  have timed : (((db.journal column steps).auditTrail query).map (·.createdAt)) =
      ((recorded column steps db).filter query.asksFor).map (·.createdAt) := by
    rw [← List.forall₂_eq_eq_eq, List.forall₂_map_left_iff, List.forall₂_map_right_iff]
    exact told.imp fun _ _ tells => tells.createdAt
  -- The announced number of pages depends on the number of rows alone, not on their order.
  have first := (rankings 0).ranks ((db.journal column steps).auditTrail query)
  have whole : pagesUpTo ((rankings 0).rank ((db.journal column steps).auditTrail query)) query.toPageRequest
      (AuditService.list (rankings 0) query (db.journal column steps)).totalPages =
        (rankings 0).rank ((db.journal column steps).auditTrail query) :=
    (pages_total _ query.toPageRequest).whole
  refine .of_times ?_ fun row shown => ?_
  · refine (rankedPages_keys rankings _ query.toPageRequest first _).trans ?_
    rw [whole]
    exact first.keys (ranked_ranks _ _) (.of_eq timed)
  · exact row_told told row (rankedPages_mem rankings _ query.toPageRequest shown)

/-- A column that gives every value back as it was written. -/
def textColumn : JsonColumn := ⟨id, fun _ members parsed => ⟨members, parsed, .refl _⟩⟩

/-- Binta logs in; within one later millisecond Awa gives her a role, suspends and deletes her. -/
def bintaSteps : List JournalStep := [
  .write (.createUser { id := "binta", email := "binta@fsf.sn", passwordHash := "", kind := .staff }),
  .hear "1" ⟨10, .user (.loginSucceeded "binta" "binta@fsf.sn" "binta" none (some "Safari"))⟩,
  .hear "2" ⟨15, .domain (.matchRequestsClosed "final")⟩,
  .hear "3" ⟨20, .user (.roleUpdated "binta" none .superviseur "awa")⟩,
  .hear "4" ⟨20, .user (.statusUpdated "binta" .active .suspended "awa")⟩,
  .write (.deleteUser "binta"),
  .hear "5" ⟨20, .user (.deleted "binta" "binta@fsf.sn" "awa")⟩]

/-- Two ways to take the rows of one millisecond, page about. -/
def pageAbout (before : Nat) : Ranking AuditLog.createdAt := if before % 2 = 0 then .earliest _ else .latest _

def aboutBinta : ListAuditDto := { page := 2, pageSize := 2, objectId := some "binta" }

/-- The login is told once; of the three others one is on both pages, and one on none. -/
theorem trail_told_binta :
    TrailTold bintaSteps
      [⟨10, .user (.loginSucceeded "binta" "binta@fsf.sn" "binta" none (some "Safari"))⟩,
        ⟨20, .user (.roleUpdated "binta" none .superviseur "awa")⟩,
        ⟨20, .user (.statusUpdated "binta" .active .suspended "awa")⟩,
        ⟨20, .user (.deleted "binta" "binta@fsf.sn" "awa")⟩]
      (AuditService.readThrough pageAbout aboutBinta (sampleAccounts.journal textColumn bintaSteps)) ∧
    (AuditService.readThrough pageAbout aboutBinta (sampleAccounts.journal textColumn bintaSteps)).map (·.id) =
      ["3", "4", "3", "1"] := by
  refine ⟨?_, by decide +kernel⟩
  have fresh : FreshLogs bintaSteps sampleAccounts := by
    unfold FreshLogs
    decide +kernel
  have told := trail_told textColumn bintaSteps fresh rfl aboutBinta pageAbout
  have entries : (recorded textColumn bintaSteps sampleAccounts).filter aboutBinta.asksFor =
      [⟨10, .user (.loginSucceeded "binta" "binta@fsf.sn" "binta" none (some "Safari"))⟩,
        ⟨20, .user (.roleUpdated "binta" none .superviseur "awa")⟩,
        ⟨20, .user (.statusUpdated "binta" .active .suspended "awa")⟩,
        ⟨20, .user (.deleted "binta" "binta@fsf.sn" "awa")⟩] := by decide +kernel
  rw [entries] at told
  exact told

end AccreditationBackend
