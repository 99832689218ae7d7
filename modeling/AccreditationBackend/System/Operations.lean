import AccreditationBackend.Foundation.Runs
import AccreditationBackend.Foundation.Interleaving
import AccreditationBackend.Requests.Commands
import AccreditationBackend.AccessControl.Service

/-! The operations of the backend as one machine over the database. -/

set_option autoImplicit false

namespace AccreditationBackend

open Foundation

inductive Operation where
  | saveDraft (ambient : Ambient) (input : SaveDraftRequestUseCase.SaveDraftInput)
  | submit (ambient : Ambient) (input : SubmitRequestUseCase.SubmitRequestInput)
  | requestComplement (ambient : Ambient) (input : RequestComplementUseCase.RequestComplementInput)
  | resolveComplement (ambient : Ambient) (input : ResolveComplementUseCase.ResolveComplementInput)
  | transition (input : TransitionRequestStatusUseCase.TransitionRequestStatusInput)
  | decide (ambient : Ambient) (input : DecideRequestUseCase.DecideRequestInput)
  | cancel (input : CancelRequestUseCase.CancelRequestInput)
  | setQuota (ambient : Ambient) (matchId : Uuid) (dto : SetQuotaDto)
  | updateMatch (id : Uuid) (dto : UpdateMatchDto)
  | generateAccreditation (ambient : Ambient) (requestId : Uuid) (zoneIds : List Uuid)
      (options : GenerateAccreditationOptions)
  | updateAssignments (accreditationId : Uuid) (input : AssignmentInput)
  | revoke (ambient : Ambient) (accreditationId : Uuid) (reason : String) (revokedById : Uuid)
  | verifyScan (ambient : Ambient) (dto : VerifyScanDto) (scannedById : Uuid)
  | syncOfflineScans (ambient : Ambient) (scans : List OfflineScanRecordDto) (scannedById : Uuid)

inductive Reply where
  | request (row : AccreditationRequest)
  | complement (row : RequestComplement)
  | quota (row : MatchCategoryQuota)
  | matchRow (row : Match)
  | accreditation (row : Accreditation)
  | verdict (verdict : ScanVerdict)
  | synced (result : SyncOfflineScansResult)
  deriving DecidableEq, Repr

def Operation.execute (services : Services) : Operation → Op Reply
  | .saveDraft ambient input => return .request (← SaveDraftRequestUseCase.execute ambient input)
  | .submit ambient input => return .request (← SubmitRequestUseCase.execute ambient input)
  | .requestComplement ambient input =>
      return .complement (← RequestComplementUseCase.execute ambient input)
  | .resolveComplement ambient input =>
      return .complement (← ResolveComplementUseCase.execute ambient input)
  | .transition input => return .request (← TransitionRequestStatusUseCase.execute input)
  | .decide ambient input => return .request (← DecideRequestUseCase.execute services ambient input)
  | .cancel input => return .request (← CancelRequestUseCase.execute input)
  | .setQuota ambient matchId dto => return .quota (← AccreditationBackend.setQuota ambient matchId dto)
  | .updateMatch id dto => return .matchRow (← AccreditationBackend.updateMatch id dto)
  | .generateAccreditation ambient requestId zoneIds options =>
      return .accreditation
        (← AccreditationBackend.generateAccreditation services ambient (ambient.clock 0) requestId zoneIds options)
  | .updateAssignments accreditationId input =>
      return .accreditation (← AccreditationBackend.updateAssignments accreditationId input)
  | .revoke ambient accreditationId reason revokedById =>
      return .accreditation (← AccreditationBackend.revoke ambient accreditationId reason revokedById)
  | .verifyScan ambient dto scannedById =>
      return .verdict (← AccreditationBackend.verifyScan services ambient dto scannedById)
  | .syncOfflineScans ambient scans scannedById =>
      return .synced (← AccreditationBackend.syncOfflineScans ambient scannedById 0 scans {})

section Sequential

variable (services : Services)

/-- What the caller gets back when the operation runs alone. -/
def outcome (db : Database) (op : Operation) : Except Failure Reply :=
  ((op.execute services).run handle db).1

def perform (db : Database) (op : Operation) : Database := ((op.execute services).run handle db).2

/-- The statements of one operation that runs alone. -/
def events (db : Database) (op : Operation) : List (Event store Database) :=
  (op.execute services).events handle db

/-- The statements of a whole sequential run, in order. -/
def trail : Database → List Operation → List (Event store Database)
  | _, [] => []
  | db, op :: rest => events services db op ++ trail (perform services db op) rest

theorem trail_linked (db : Database) (ops : List Operation) :
    Linked db (trail services db ops) (runFrom (perform services) db ops) := by
  induction ops generalizing db with
  | nil => rfl
  | cons op rest ih => exact (Proc.events_linked handle (op.execute services) db).append (ih _)

/-- What each statement keeps, an operation that runs alone keeps. -/
theorem perform_relates {R : Database → Database → Prop} (refl : ∀ s, R s s)
    (trans : ∀ s t u, R s t → R t u → R s u) {op : Operation} {db : Database}
    (each : ∀ stmt s, handle.event stmt s ∈ events services db op → R s (handle.after stmt s)) :
    R db (perform services db op) := by
  refine (Proc.events_linked handle (op.execute services) db).relates refl trans fun e member => ?_
  have genuine := Proc.events_genuine handle (op.execute services) db e member
  rw [genuine] at member ⊢
  exact each e.stmt e.before member

/-- An invariant of its statements is one of the operation. -/
theorem perform_keeps {J : Database → Prop} {op : Operation} {db : Database}
    (each : ∀ stmt s, handle.event stmt s ∈ events services db op → J s → J (handle.after stmt s))
    (start : J db) :
    J (perform services db op) :=
  perform_relates services (R := fun s t => J s → J t) (fun _ held => held)
    (fun _ _ _ first second held => second (first held)) each start

/-- What every statement keeps, every sequential run keeps. -/
theorem run_relates {R : Database → Database → Prop} (refl : ∀ s, R s s)
    (trans : ∀ s t u, R s t → R t u → R s u) (keeps : ∀ stmt db, R db (handle.after stmt db))
    (start : Database) (ops : List Operation) :
    R start (runFrom (perform services) start ops) :=
  runFrom_relates refl trans
    (fun _ _ => perform_relates services refl trans fun stmt s _ => keeps stmt s) start ops

/-- What holds of the events of every operation run alone holds along the trail. -/
theorem trail_forall {P : Event store Database → Prop} {ops : List Operation}
    (each : ∀ op ∈ ops, ∀ db, ∀ e ∈ events services db op, P e) (db : Database) :
    ∀ e ∈ trail services db ops, P e := by
  induction ops generalizing db with
  | nil => simp [trail]
  | cons op rest ih =>
      simp only [trail, List.mem_append]
      rintro e (now | later)
      · exact each op List.mem_cons_self db e now
      · exact ih (fun op' member => each op' (List.mem_cons_of_mem op member)) _ e later

end Sequential

/-- Services for evaluation: the hash is injective, and nothing is really signed. -/
def sampleServices : Services where
  hash token := "h" ++ token
  sign payload := {
    rawPayload := payload.number
    ecdsaSignatureHex := ""
    publicKeyFingerprint := ""
    offlineChecksum := "" }

/-- Calls that run concurrently from one database. -/
def operationPool {ι : Type} (services : Services) (start : Database) (calls : ι → Operation) :
    Pool ι store Database Failure Reply := ⟨start, fun i => (calls i).execute services⟩

end AccreditationBackend
