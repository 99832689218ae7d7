import AccreditationBackend.Accreditations.Endurance
import AccreditationBackend.Accreditations.Signing

/-! Whether the signed payload of a badge tells the truth about it, in sequential runs. -/

set_option autoImplicit false

namespace AccreditationBackend

open Foundation

/-- The payload signed for a badge says what the store says; no other payload has its text. -/
structure Truthful (t : Tables) (a : Accreditation) (payload : BadgePayload) : Prop where
  signed : a.cryptoSignature.rawPayload = EcdsaSignerService.canonicalize payload.record
  number : payload.number = a.number
  matchId : (t.requestById a.requestId).map (·.matchId) = some payload.matchId
  zoneIds : payload.zoneIds.Perm (t.zoneIdsOf a.id)
  boothNumber : payload.boothNumber = a.assignedBoothNumber
  flashSlot : payload.flashSlot = a.assignedFlashSlot
  expiresAt : payload.expiresAt = a.expiresAt / 1000

def SignaturesTrue (t : Tables) : Prop := ∀ a ∈ t.accreditations.rows, ∃ payload, Truthful t a payload

def Operation.onBadges : Operation → Bool
  | .generateAccreditation .. => true
  | .updateAssignments .. => true
  | .revoke .. => true
  | _ => false

/-- The input has nothing to change about the badge. -/
def AssignmentInput.Repeats (input : AssignmentInput) (a : Accreditation) : Prop :=
  (∀ booth ∈ input.assignedBoothNumber, booth = a.assignedBoothNumber) ∧
    ∀ slot ∈ input.assignedFlashSlot, slot = a.assignedFlashSlot

/-- An update of the assignments that the column accepts finds them as it writes them, if it
finds the badge at all. -/
def LeavesAssignments (db : Database) : Operation → Prop
  | .updateAssignments id input => (Statement.updateAssignments id input).fits = true →
      ∀ a, db.accreditationById id = some a → input.Repeats a
  | _ => True

theorem AssignmentInput.repeats_iff {input : AssignmentInput} {a : Accreditation} :
    input.Repeats a ↔ (input.apply a).assignedBoothNumber = a.assignedBoothNumber ∧
      (input.apply a).assignedFlashSlot = a.assignedFlashSlot := by
  unfold Repeats AssignmentInput.apply
  cases input.assignedBoothNumber <;> cases input.assignedFlashSlot <;> simp

/-! ## One statement -/

section Statements

variable {stmt : Statement} {db : Database}

theorem Truthful.step {a b : Accreditation} {payload : BadgePayload}
    (truthful : Truthful db.toTables a payload)
    (found : db.accreditationById a.id = some a) (id : b.id = a.id)
    (requestId : b.requestId = a.requestId)
    (signature : b.cryptoSignature = a.cryptoSignature) (number : b.number = a.number)
    (booth : b.assignedBoothNumber = a.assignedBoothNumber)
    (slot : b.assignedFlashSlot = a.assignedFlashSlot)
    (expires : b.expiresAt = a.expiresAt) : Truthful (handle.after stmt db).toTables b payload where
  signed := by rw [signature, truthful.signed]
  number := by rw [number, truthful.number]
  matchId := by
    obtain ⟨r, before, same⟩ := Option.map_eq_some_iff.mp truthful.matchId
    obtain ⟨r', after, kept⟩ := (endures_step stmt db).request a.requestId r before
    rw [requestId, after, Option.map_some, kept, same]
  zoneIds := by
    rw [id, zones_kept stmt db (by simp [found])]
    exact truthful.zoneIds
  boothNumber := by rw [booth, truthful.boothNumber]
  flashSlot := by rw [slot, truthful.flashSlot]
  expiresAt := by rw [expires, truthful.expiresAt]

theorem signaturesTrue_step (held : SignaturesTrue db.toTables)
    (created : ∀ row zoneIds, stmt = .createAccreditation row zoneIds →
      ∃ payload, Truthful (handle.after stmt db).toTables row payload)
    (assigned : ∀ id input a, stmt = .updateAssignments id input → db.accreditationById id = some a →
      input.Repeats a) :
    SignaturesTrue (handle.after stmt db).toTables := by
  intro b stored
  have step := badge_step (selects_accreditationId b.id) (onKey_accreditationId b.id) stmt db
  have after : (handle.after stmt db).accreditations.find (·.id == b.id) = some b :=
    accreditationById_stored stored
  rw [after] at step
  generalize before : db.accreditations.find (·.id == b.id) = old at step
  have truth (a : Accreditation) (same : old = some a) (id : a.id = b.id) :
      db.accreditationById a.id = some a ∧ ∃ payload, Truthful db.toTables a payload := by
    rw [same] at before
    exact ⟨by rw [id]; exact before, held a (Table.find_some_mem before).1⟩
  cases step with
  | created => exact created _ _ rfl
  | @assigned id input a named =>
      obtain ⟨found, payload, truthful⟩ := truth a rfl rfl
      obtain ⟨booth, slot⟩ := AssignmentInput.repeats_iff.mp (assigned id input a rfl (named ▸ found))
      exact ⟨payload, truthful.step found rfl rfl rfl rfl booth slot rfl⟩
  | @revoked id _ _ _ a named =>
      obtain ⟨found, payload, truthful⟩ := truth a rfl rfl
      exact ⟨payload, truthful.step found rfl rfl rfl rfl rfl rfl rfl⟩
  | unchanged =>
      obtain ⟨found, payload, truthful⟩ := truth b rfl rfl
      exact ⟨payload, truthful.step found rfl rfl rfl rfl rfl rfl rfl⟩

end Statements

/-! ## One operation -/

section Operations

variable (hash : String → String) (key : SigningKey) {db : Database}

theorem generateAccreditation_true (held : SignaturesTrue db.toTables) (ambient : Ambient)
    (requestId : Uuid) (zoneIds : List Uuid) (options : GenerateAccreditationOptions) :
    SignaturesTrue (perform (signingServices hash key) db
      (.generateAccreditation ambient requestId zoneIds options)).toTables := by
  have alone :
      perform (signingServices hash key) db (.generateAccreditation ambient requestId zoneIds options) =
      ((generateAccreditation (signingServices hash key) ambient (ambient.clock 0) requestId zoneIds options).run
        handle db).2 :=
    congrArg Prod.snd reply_run
  rw [alone]
  rcases generateAccreditation_cases (signingServices hash key) ambient
    (ambient.clock 0) requestId zoneIds
    options db with ⟨why, ran⟩ | ⟨detail, number, t, joined, created, announced⟩
  · rw [ran]
    exact held
  · have issued : SignaturesTrue t.toTables := by
      rw [← handle.after_ok created]
      refine signaturesTrue_step held (fun row zoneIds' same => ?_) fun _ _ _ impossible =>
        by cases impossible
      cases same
      -- What is signed is what the row is made of.
      refine ⟨badgePayload detail number zoneIds options (ambient.clock 0)
        (detail.matchRow.kickoffAt + defaultValidityDays * 86400000), rfl, rfl, ?_, ?_, rfl, rfl, rfl⟩
      · obtain ⟨r, after, kept⟩ := (endures_step (.createAccreditation _ zoneIds) db).request requestId _
          (requestDetail_parts joined).1
        exact (congrArg (Option.map (·.matchId)) after).trans (congrArg some kept)
      · rw [handle.after_ok created]
        exact List.Perm.of_eq (zoneIdsOf_created created).symm
    rcases announced with ⟨why, ran⟩ | ran <;> rw [ran]
    · exact issued
    · exact signaturesTrue_step issued (fun _ _ impossible => by cases impossible)
        fun _ _ _ impossible => by cases impossible

theorem revoke_true (held : SignaturesTrue db.toTables) (ambient : Ambient) (id : Uuid) (reason : String)
    (revokedById : Uuid) :
    SignaturesTrue
      (perform (signingServices hash key) db (.revoke ambient id reason revokedById)).toTables := by
  refine perform_keeps _ (J := fun db => SignaturesTrue db.toTables) (fun stmt s member kept => ?_) held
  rcases events_footprint (signingServices hash key) db
    (.revoke ambient id reason revokedById) _ member with
    same | ⟨event, same⟩ <;>
    exact signaturesTrue_step kept (fun _ _ created => by cases same.symm.trans created)
      fun _ _ _ assigned => by cases same.symm.trans assigned

theorem updateAssignments_performed (services : Services) (db : Database) (id : Uuid)
    (input : AssignmentInput) :
    perform services db (.updateAssignments id input) =
      handle.after (.updateAssignments id input) db := by
  have alone :
      perform services db (.updateAssignments id input) =
        ((updateAssignments id input).run handle db).2 :=
    congrArg Prod.snd reply_run
  rw [alone, updateAssignments, Proc.query_bind, Proc.run]
  cases found : db.accreditationById id with
  | none =>
      rcases after_cases (.updateAssignments id input) db with same | ⟨reply, applied⟩
      · rw [same]
        rfl
      · simp only [Tables.accreditationById] at found
        simp only [Tables.apply, found, bind_ok, orFail_ok, reduceCtorEq, false_and, exists_false] at applied
  | some a =>
      rw [orThrow_some_bind]
      exact congrArg Prod.snd (issue_run _ _)

theorem assignments_written {id : Uuid} {a : Accreditation} (found : db.accreditationById id = some a)
    (input : AssignmentInput) (fits : (Statement.updateAssignments id input).fits = true) :
    (handle.after (.updateAssignments id input) db).accreditationById id = some (input.apply a) := by
  have looked : db.accreditations.find (·.id == id) = some a := found
  have tables : (handle.after (.updateAssignments id input) db).toTables = _ :=
    after_applied fits (by rw [Tables.apply, looked]; rfl)
  rw [tables]
  refine (Table.find_update _ _ _ input.apply_key _ fun _ => rfl).trans ?_
  rw [looked, Option.map_some, if_pos (Table.find_some_mem looked).2]

theorem updateAssignments_true_iff (held : SignaturesTrue db.toTables) (id : Uuid)
    (input : AssignmentInput) :
    SignaturesTrue (perform (signingServices hash key) db (.updateAssignments id input)).toTables ↔
      LeavesAssignments db (.updateAssignments id input) := by
  rw [updateAssignments_performed]
  constructor
  · intro after fits a found
    have stored := (Table.find_some_mem (assignments_written found input fits)).1
    obtain ⟨payload, truthful⟩ := held a (Table.find_some_mem found).1
    obtain ⟨payload', truthful'⟩ := after (input.apply a) stored
    -- The signature is the old one, and it tells the old assignments.
    obtain rfl := canonicalize_injective (truthful.signed.symm.trans truthful'.signed)
    exact AssignmentInput.repeats_iff.mpr ⟨truthful'.boothNumber.symm.trans truthful.boothNumber,
      truthful'.flashSlot.symm.trans truthful.flashSlot⟩
  · intro leaves
    cases fits : (Statement.updateAssignments id input).fits
    case false => rwa [after_unfit fits]
    exact signaturesTrue_step held (fun _ _ impossible => by cases impossible)
      fun id' input' a same found => by cases same; exact leaves fits a found

end Operations

/-! ## Runs -/

/-- In a run over the badges, the payloads stay true exactly as long as no update
of the assignments changes them: only the issue of a badge signs it. -/
theorem signed_payloads_true (hash : String → String) (key : SigningKey) (start : Database)
    (ops : List Operation) (badges : ∀ op ∈ ops, op.onBadges = true)
    (held : SignaturesTrue start.toTables) :
    (∀ front back, ops = front ++ back →
      SignaturesTrue (runFrom (perform (signingServices hash key)) start front).toTables) ↔
      Along (perform (signingServices hash key)) LeavesAssignments start ops := by
  refine runFrom_exact_within (Q := fun _ (op : Operation) => op.onBadges = true)
    (I := fun db : Database => SignaturesTrue db.toTables) (fun db op held onBadges leaves => ?_)
    (fun db op held onBadges after => ?_) held (along_of_forall badges start)
  · cases op with
    | generateAccreditation ambient requestId zoneIds options =>
        exact generateAccreditation_true hash key held ambient requestId zoneIds options
    | updateAssignments id input => exact (updateAssignments_true_iff hash key held id input).mpr leaves
    | revoke ambient id reason revokedById =>
        exact revoke_true hash key held ambient id reason revokedById
    | _ => cases onBadges
  · cases op with
    | updateAssignments id input => exact (updateAssignments_true_iff hash key held id input).mp after
    | _ => trivial

/-! ## A booth assigned later -/

def sampleKey : SigningKey := ⟨fun _ => "", "", fun _ => ""⟩

/-- A match, and a request for it. -/
def requestedDatabase : Database :=
  perform (signingServices id sampleKey) (sampleDatabase 1)
    (.saveDraft { freshId := "dossier" } ⟨"reporter", "final", "press", {}⟩)

def badgeGenerated : Operation :=
  .generateAccreditation { freshId := "badge", rawToken := "token" } "dossier" ["stand"] {}

theorem requested_unsigned : SignaturesTrue requestedDatabase.toTables := by
  have none_ : requestedDatabase.accreditations.rows = [] := by decide
  intro a stored
  rw [none_] at stored
  cases stored

def badgeRevoked : List Operation := [badgeGenerated, .revoke {} "badge" "lost" "agent"]

theorem signed_payloads_true_revoked :
    SignaturesTrue
      (runFrom (perform (signingServices id sampleKey)) requestedDatabase badgeRevoked).toTables :=
  (signed_payloads_true id sampleKey requestedDatabase badgeRevoked (by decide) requested_unsigned).mpr
    ⟨trivial, trivial, trivial⟩ badgeRevoked [] (List.append_nil _).symm

/-- The badge is given a booth after its issue, and its payload still says that it has none. -/
theorem booth_unsigned :
    ¬ ∀ front back,
      [badgeGenerated, .updateAssignments "badge" { assignedBoothNumber := some (some 5) }] =
        front ++ back →
      SignaturesTrue
        (runFrom (perform (signingServices id sampleKey)) requestedDatabase front).toTables := by
  intro held
  have issued := held [badgeGenerated] [_] rfl
  have after :=
    held [badgeGenerated, .updateAssignments "badge" { assignedBoothNumber := some (some 5) }] [] rfl
  have leaves := (updateAssignments_true_iff id sampleKey issued "badge" _).mp after
  have boothless : ((runFrom (perform (signingServices id sampleKey)) requestedDatabase
      [badgeGenerated]).accreditationById "badge").map (·.assignedBoothNumber) = some none := by
    decide
  obtain ⟨a, found, booth⟩ := Option.map_eq_some_iff.mp boothless
  have same := (leaves rfl a found).1 (some 5) rfl
  rw [booth] at same
  cases same

end AccreditationBackend
