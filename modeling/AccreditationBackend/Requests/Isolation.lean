import AccreditationBackend.Requests.LoneRuns
import AccreditationBackend.Requests.StaleWrites
import AccreditationBackend.Requests.Writes

/-! What one requester can touch of the others' requests: nothing.

Each use case takes its ids from the client and derives from the stored rows whom
they belong to; a request never changes hands.
-/

set_option autoImplicit false

namespace AccreditationBackend

open Foundation

/-- The request is stored, and the profile's. -/
def Tables.belongs (t : Tables) (profile id : Uuid) : Prop :=
  ∃ r, t.requestById id = some r ∧ r.requesterId = profile

/-- The request is stored, and another requester's. -/
def Tables.foreignTo (t : Tables) (profile id : Uuid) : Bool :=
  (t.requests.rows.filter (·.requesterId != profile)).any (·.id == id)

/-- Nothing that belongs to a request of another requester differs between the two stores. -/
structure Isolated (profile : Uuid) (s t : Database) : Prop where
  requests : t.requests.rows.filter (·.requesterId != profile) =
    s.requests.rows.filter (·.requesterId != profile)
  complements : t.complements.rows.filter (s.foreignTo profile ·.requestId) =
    s.complements.rows.filter (s.foreignTo profile ·.requestId)
  decisions : t.decisions.filter (s.foreignTo profile ·.requestId) =
    s.decisions.filter (s.foreignTo profile ·.requestId)
  accreditations : t.accreditations = s.accreditations
  accreditationZones : t.accreditationZones = s.accreditationZones

/-- What a requester can call, with their own profile and any other id. -/
def Operation.onBehalfOf (profile : Uuid) : Operation → Prop
  | .saveDraft _ input => input.requesterId = profile
  | .submit _ input => input.requesterId = profile
  | .resolveComplement _ input => input.requesterId = profile
  | .cancel input => input.requesterId = some profile
  | _ => False

/-- The call names a request of another requester, or a complement of another request than the one it names. -/
def Trespasses (profile : Uuid) (db : Database) : Operation → Prop
  | .submit _ input => db.foreignTo profile input.requestId = true
  | .cancel input => db.foreignTo profile input.requestId = true
  | .resolveComplement _ input =>
      db.foreignTo profile input.requestId = true ∨
        ∃ c, db.complements.find (·.id == input.complementId) = some c ∧ c.requestId ≠ input.requestId
  | _ => False

section Isolated

variable {profile : Uuid} {s t u : Database}

theorem Isolated.refl (profile : Uuid) (s : Database) : Isolated profile s s := ⟨rfl, rfl, rfl, rfl, rfl⟩

theorem Isolated.foreignTo (isolated : Isolated profile s t) :
    t.foreignTo profile = s.foreignTo profile := by
  funext id
  simp only [Tables.foreignTo, isolated.requests]

theorem Isolated.trans (first : Isolated profile s t) (second : Isolated profile t u) :
    Isolated profile s u := by
  have complements := second.complements
  have decisions := second.decisions
  rw [first.foreignTo] at complements decisions
  exact ⟨second.requests.trans first.requests, complements.trans first.complements,
    decisions.trans first.decisions,
    second.accreditations.trans first.accreditations,
    second.accreditationZones.trans first.accreditationZones⟩

theorem belongs_iff {id : Uuid} {r : AccreditationRequest} (found : s.requestById id = some r) :
    s.foreignTo profile id = true ↔ r.requesterId ≠ profile := by
  obtain ⟨stored, named⟩ := Table.find_some_mem found
  simp only [Tables.foreignTo, List.any_eq_true, List.mem_filter, bne_iff_ne]
  constructor
  · rintro ⟨other, ⟨inside, foreign⟩, hit⟩
    rwa [Table.eq_of_clash inside stored (selects_requestId id _ _ hit named)] at foreign
  · exact fun foreign => ⟨r, ⟨stored, foreign⟩, named⟩

theorem foreign_of_belongs {id : Uuid} (belongs : s.belongs profile id) :
    s.foreignTo profile id = false := by
  obtain ⟨r, found, own⟩ := belongs
  exact Bool.not_eq_true _ ▸ fun foreign => (belongs_iff found).mp foreign own

end Isolated

/-! ## One statement -/

section Statements

variable {profile : Uuid} {db : Database}

theorem belongs_kept (stmt : Statement) {id : Uuid} (belongs : db.belongs profile id) :
    (handle.after stmt db).belongs profile id := by
  obtain ⟨r, found, own⟩ := belongs
  have step := request_step stmt db id
  unfold Tables.belongs
  rw [found] at step
  generalize (handle.after stmt db).requestById id = b at step
  cases step with
  | edited named => exact ⟨_, rfl, own⟩
  | written named => exact ⟨_, rfl, own⟩
  | unchanged => exact ⟨r, rfl, own⟩

theorem requests_updated {id : Uuid} (own : db.belongs profile id)
    (f : AccreditationRequest → AccreditationRequest) (same : ∀ r, Keyed.key (f r) = Keyed.key r)
    (kept : ∀ r, (f r).requesterId = r.requesterId) :
    (db.requests.update (·.id == id) f same).rows.filter (·.requesterId != profile) =
      db.requests.rows.filter (·.requesterId != profile) := by
  obtain ⟨r, found, owner⟩ := own
  refine Table.filter_update _ _ f same _ fun other inside hit => ?_
  have one : other = r :=
    Option.some.inj (((Table.find_some_iff (selects_requestId id)).mpr ⟨inside, hit⟩).symm.trans found)
  subst one
  simp [kept, owner]

/-- A statement that writes no request, complement, decision or badge. -/
def Remote (stmt : Statement) : Prop :=
  Quiet stmt ∧ stmt.writesComplements = false ∧ stmt.decided = [] ∧ stmt.writesBadges = false

theorem remote_publish (event : DomainEvent) : Remote (.publish event) := ⟨rfl, rfl, rfl, rfl⟩

/-- A statement that writes no complement and no badge, and decides on the requests
of the profile alone, is judged by the requests it leaves. -/
theorem isolated_statement {stmt : Statement} (complements : stmt.writesComplements = false)
    (badges : stmt.writesBadges = false)
    (decided : stmt.decided.filter (db.foreignTo profile ·.requestId) = [])
    (requests : ∀ reply, db.toTables.apply stmt = .ok (reply, (handle.after stmt db).toTables) →
      (handle.after stmt db).requests.rows.filter (·.requesterId != profile) =
        db.requests.rows.filter (·.requesterId != profile)) :
    Isolated profile db (handle.after stmt db) := by
  rcases after_cases stmt db with same | ⟨reply, applied⟩
  · rw [same]
    exact .refl profile db
  · have written := apply_badges applied badges
    refine ⟨requests reply applied, ?_, ?_, written.1, written.2⟩
    · rw [complements_kept complements]
    · rw [apply_decisions applied, List.filter_append, decided, List.append_nil]

theorem isolated_remote {stmt : Statement} (remote : Remote stmt) (db : Database) :
    Isolated profile db (handle.after stmt db) := by
  obtain ⟨quiet, complements, decided, badges⟩ := remote
  refine isolated_statement complements badges (by rw [decided]; rfl) fun _ _ => ?_
  rw [requests_kept quiet]

theorem isolated_write {w : StatusWrite} (own : db.belongs profile w.requestId)
    (alone : w.complement = none) :
    Isolated profile db (handle.after (.writeStatus w) db) := by
  have foreign := foreign_of_belongs own
  refine isolated_statement (by simp [Statement.writesComplements, alone]) rfl ?_
    fun reply applied => ?_
  · refine List.filter_eq_nil_iff.mpr fun d member => ?_
    obtain ⟨j, _, rfl⟩ := List.mem_map.mp member
    simp [foreign]
  · simp only [Tables.apply, bind_ok, orFail_ok, pure_ok, Prod.mk.injEq] at applied
    obtain ⟨_, _, _, _, _, same⟩ := applied
    rw [← same]
    exact requests_updated own w.apply w.apply_key fun _ => rfl

theorem isolated_resolve {id : Uuid} {now : Time} {c : RequestComplement}
    (found : db.complements.find (·.id == id) = some c) (own : db.belongs profile c.requestId) :
    Isolated profile db (handle.after (.resolveComplement id now) db) := by
  have foreign := foreign_of_belongs own
  have applied := handle_ok (handle_resolve now found)
  have badges := apply_badges applied rfl
  refine ⟨?_, ?_, ?_, badges.1, badges.2⟩
  · rw [requests_kept (show Quiet (.resolveComplement id now) from rfl)]
  · rw [complements_resolved found]
    refine Table.filter_update _ _ (resolve now) (resolve_key now) _ fun other inside hit => ?_
    have one : other = c := Option.some.inj
      (((Table.find_some_iff (selects_complementId id)).mpr ⟨inside, hit⟩).symm.trans found)
    subst one
    exact ⟨foreign, foreign⟩
  · rw [apply_decisions applied]
    simp [Statement.decided]

theorem isolated_edit {id categoryId : Uuid} {logistics : Logistics} (own : db.belongs profile id) :
    Isolated profile db (handle.after (.editDraft id categoryId logistics) db) := by
  refine isolated_statement rfl rfl rfl fun reply applied => ?_
  simp only [Tables.apply, bind_ok, orFail_ok, require_ok, pure_ok, Prod.mk.injEq] at applied
  obtain ⟨_, _, _, _, _, same⟩ := applied
  rw [← same]
  exact requests_updated own (redraft categoryId logistics)
    (redraft_key categoryId logistics) fun _ => rfl

theorem isolated_create {row : AccreditationRequest} (own : row.requesterId = profile) :
    Isolated profile db (handle.after (.createRequest row) db) := by
  refine isolated_statement rfl rfl rfl fun reply applied => ?_
  simp only [Tables.apply, bind_ok, orFail_ok, require_ok, pure_ok, Prod.mk.injEq] at applied
  obtain ⟨_, _, requests, inserted, _, same⟩ := applied
  rw [← same]
  simp [Table.insert_rows inserted, List.filter_append, own]

end Statements

/-! ## One operation -/

/-- A draft of the profile edited, or created. -/
def WritesOwnDraft (profile : Uuid) (e : Event store Database) : Prop :=
  (∃ id categoryId logistics, e.stmt = .editDraft id categoryId logistics ∧ e.before.belongs profile id) ∨
    ∃ row, e.stmt = .createRequest row ∧ row.requesterId = profile

section Operations

variable (services : Services) {profile : Uuid} {db : Database}

theorem saveDraft_own (ambient : Ambient) (input : SaveDraftRequestUseCase.SaveDraftInput)
    (db : Database) :
    (SaveDraftRequestUseCase.execute ambient input).Leads handle (WritesOwnDraft input.requesterId)
      (fun _ _ => True)
      db := by
  unfold SaveDraftRequestUseCase.execute
  refine Proc.leads_silent handle (getMatch_issues _) (fun _ => ?_) fun _ => trivial
  refine Proc.leads_silent handle (getCategory_issues _) (fun _ => ?_) fun _ => trivial
  rw [Proc.query_bind, Proc.leads_read]
  cases existing : db.requests.pick ambient.choice
      (SaveDraftRequestUseCase.isExistingDraft input.requesterId input.matchId) with
  | some draft =>
      obtain ⟨stored, isDraft⟩ := Table.pick_some_mem existing
      simp only [SaveDraftRequestUseCase.isExistingDraft, Bool.and_eq_true, beq_iff_eq] at isDraft
      have found : db.requestById draft.id = some draft := requestById_stored stored
      exact Proc.leads_exec handle _ _ _ _ _ (.inl ⟨_, _, _, rfl, draft, found, isDraft.1.1⟩)
        (fun _ _ _ => trivial)
        fun _ _ => trivial
  | none =>
      refine Proc.leads_silent handle (generateUnique_issues _ _ _ _ _ _)
        (fun reference => ?_) fun _ => trivial
      exact Proc.leads_exec handle _ _ _ _ _ (.inr ⟨_, rfl, rfl⟩)
        (fun _ _ _ => trivial) fun _ _ => trivial

theorem owned_request {id : Uuid} {owned : AccreditationRequest → Bool} {r : AccreditationRequest}
    (loaded : (db.requestById id).filter owned = some r)
    (own : owned r = true → r.requesterId = profile) :
    db.belongs profile id := by
  obtain ⟨found, holds⟩ := Option.filter_eq_some_iff.mp loaded
  exact ⟨r, found, own holds⟩

theorem mayCancel_iff (named : profile ≠ "") {input : CancelRequestUseCase.CancelRequestInput}
    (behalf : input.requesterId = some profile) {r : AccreditationRequest} :
    CancelRequestUseCase.mayCancel input r = true ↔ r.requesterId = profile := by
  simp [CancelRequestUseCase.mayCancel, behalf, named]

theorem cancel_refused {input : CancelRequestUseCase.CancelRequestInput}
    (refused : (db.requestById input.requestId).filter (CancelRequestUseCase.mayCancel input) = none) :
    outcome services db (.cancel input) = .error (.domain requestNotFound) ∧
    perform services db (.cancel input) = db := by
  simp only [outcome, perform, Operation.execute, reply_run, CancelRequestUseCase.execute,
    loadRequest_refused refused]
  exact ⟨rfl, trivial⟩

theorem cancel_isolated (named : profile ≠ "") {input : CancelRequestUseCase.CancelRequestInput}
    (behalf : input.requesterId = some profile) :
    Isolated profile db (perform services db (.cancel input)) := by
  cases loaded : (db.requestById input.requestId).filter (CancelRequestUseCase.mayCancel input) with
  | none =>
      rw [(cancel_refused services loaded).2]
      exact .refl profile db
  | some r =>
      have own := owned_request loaded (mayCancel_iff named behalf).mp
      -- Ownership is carried along with the isolation, from statement to statement.
      refine (perform_keeps services (J := fun s => Isolated profile db s ∧ s.belongs profile input.requestId)
        (fun stmt s member held => ?_) ⟨.refl profile db, own⟩).1
      refine ⟨held.1.trans ?_, belongs_kept stmt held.2⟩
      rcases events_footprint services db _ _ member with
        ⟨w, shape, target, _⟩ | ⟨event, shape⟩ | ⟨id, shape⟩
      · have alone := (events_write services db _ _ member w shape).complement rfl
        simp only [Handler.event_stmt] at shape
        subst shape
        exact isolated_write (target ▸ held.2) alone
      · simp only [Handler.event_stmt] at shape
        subst shape
        exact isolated_remote (remote_publish event) s
      · simp only [Handler.event_stmt] at shape
        subst shape
        exact isolated_remote (show Remote (.release id) from ⟨rfl, rfl, rfl, rfl⟩) s

theorem submit_isolated (ambient : Ambient) (input : SubmitRequestUseCase.SubmitRequestInput)
    (db : Database) :
    Isolated input.requesterId db (perform services db (.submit ambient input)) := by
  rcases submit_cases services ambient input db with
    ⟨_, same⟩ | ⟨request, duplicate, found, owner, _, _, _, written⟩
  · rw [same]
    exact .refl _ db
  · have named := beq_iff_eq.mp (Table.find_some_mem found).2
    rw [written]
    refine (isolated_write ?_ rfl).trans (isolated_remote (remote_publish _) _)
    rw [← named] at found
    exact ⟨request, found, owner⟩

theorem resolveComplement_isolated (ambient : Ambient)
    (input : ResolveComplementUseCase.ResolveComplementInput) (db : Database) :
    Isolated input.requesterId db (perform services db (.resolveComplement ambient input)) := by
  rcases resolveComplement_cases services ambient with
    same | ⟨r, c, ⟨found, owner⟩, ⟨stored, ofRequest⟩, performed⟩
  · rw [same]
    exact .refl _ db
  · have own : db.belongs input.requesterId input.requestId := ⟨r, found, owner⟩
    have resolved : Isolated input.requesterId db
        (handle.after (.resolveComplement input.complementId (ambient.clock 0)) db) :=
      isolated_resolve stored (ofRequest ▸ own)
    rw [performed]
    dsimp only
    split
    · exact resolved.trans (isolated_write (belongs_kept _ own) rfl)
    · exact resolved

theorem saveDraft_isolated (ambient : Ambient) (input : SaveDraftRequestUseCase.SaveDraftInput)
    (db : Database) :
    Isolated input.requesterId db (perform services db (.saveDraft ambient input)) := by
  have own :=
    ((Proc.leads_iff handle _ _ _ db).mp (reply_leads (f := .request) (saveDraft_own ambient input db))).1
  refine perform_relates services (R := Isolated input.requesterId) (fun s => .refl _ s)
    (fun _ _ _ => Isolated.trans) fun stmt s member => ?_
  rcases own _ member with ⟨id, categoryId, logistics, shape, belongs⟩ | ⟨row, shape, owner⟩
  · simp only [Handler.event_stmt, Handler.event_before] at shape belongs
    subst shape
    exact isolated_edit belongs
  · simp only [Handler.event_stmt] at shape
    subst shape
    exact isolated_create owner

theorem perform_isolated (named : profile ≠ "") {op : Operation} (behalf : op.onBehalfOf profile) :
    Isolated profile db (perform services db op) := by
  cases op with
  | saveDraft ambient input =>
      obtain rfl : input.requesterId = profile := behalf
      exact saveDraft_isolated services ambient input db
  | submit ambient input =>
      obtain rfl : input.requesterId = profile := behalf
      exact submit_isolated services ambient input db
  | resolveComplement ambient input =>
      obtain rfl : input.requesterId = profile := behalf
      exact resolveComplement_isolated services ambient input db
  | cancel input => exact cancel_isolated services named behalf
  | _ => exact behalf.elim

theorem filter_foreign {id : Uuid} {owned : AccreditationRequest → Bool}
    (foreign : db.foreignTo profile id = true)
    (own : ∀ r, owned r = true → r.requesterId = profile) :
    (db.requestById id).filter owned = none := by
  cases loaded : (db.requestById id).filter owned with
  | none => rfl
  | some r =>
      obtain ⟨found, holds⟩ := Option.filter_eq_some_iff.mp loaded
      exact absurd (own r holds) ((belongs_iff found).mp foreign)

theorem trespass_refused (named : profile ≠ "") {op : Operation} (behalf : op.onBehalfOf profile)
    (trespasses : Trespasses profile db op) :
    (∃ why, why.kind = .notFound ∧ outcome services db op = .error (.domain why)) ∧
      perform services db op = db := by
  cases op with
  | submit ambient input =>
      obtain rfl : input.requesterId = profile := behalf
      have missing :
          (db.requestById input.requestId).filter (·.requesterId == input.requesterId) = none :=
        filter_foreign trespasses fun r => beq_iff_eq.mp
      simp only [outcome, perform, Operation.execute, reply_run, SubmitRequestUseCase.execute,
        loadRequest_refused missing]
      exact ⟨⟨_, rfl, rfl⟩, trivial⟩
  | resolveComplement ambient input =>
      obtain rfl : input.requesterId = profile := behalf
      obtain ⟨why, kind, failed, same⟩ := resolveComplement_refused services ambient <| by
        rcases trespasses with foreign | ⟨c, found, other⟩
        · exact .inl (filter_foreign foreign fun r => beq_iff_eq.mp)
        · exact .inr (by simp [found, other])
      exact ⟨⟨why, kind, failed⟩, same⟩
  | cancel input =>
      have missing := filter_foreign trespasses fun r => (mayCancel_iff named behalf).mp
      obtain ⟨failed, same⟩ := cancel_refused services missing
      exact ⟨⟨_, rfl, failed⟩, same⟩
  | saveDraft => exact trespasses.elim
  | _ => exact behalf.elim

/-- Whatever a requester calls, with whatever ids, leaves the others' requests as
they were; a call that names one of them is answered as if it did not exist. -/
theorem requester_isolation (named : profile ≠ "") (start : Database) (ops : List Operation)
    (behalf : ∀ op ∈ ops, op.onBehalfOf profile) :
    Isolated profile start (runFrom (perform services) start ops) ∧
      ∀ db op, op.onBehalfOf profile → Trespasses profile db op →
        (∃ why, why.kind = .notFound ∧ outcome services db op = .error (.domain why)) ∧
          perform services db op = db := by
  refine ⟨?_, fun db op own => trespass_refused services named own⟩
  induction ops generalizing start with
  | nil => exact .refl profile start
  | cons op rest ih =>
      have first : Isolated profile start (perform services start op) :=
        perform_isolated services named (behalf op List.mem_cons_self)
      exact first.trans (ih _ fun op member => behalf op (List.mem_cons_of_mem _ member))

end Operations

/-- Somebody else tries to withdraw the dossier under review. -/
def withdrawal : Operation := .cancel ⟨"dossier", "stranger", some "stranger"⟩

theorem requester_isolation_withdrawal :
    Isolated "stranger" underReview (runFrom (perform sampleServices) underReview [withdrawal]) ∧
      perform sampleServices underReview withdrawal = underReview := by
  have named : "stranger" ≠ "" := by decide
  have isolation := requester_isolation sampleServices named underReview [withdrawal]
    (by simp [withdrawal, Operation.onBehalfOf])
  exact ⟨isolation.1, (isolation.2 underReview withdrawal rfl (by simp only [withdrawal, Trespasses]; decide)).2⟩

end AccreditationBackend
