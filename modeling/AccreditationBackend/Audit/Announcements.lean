import AccreditationBackend.Foundation.Ledger
import AccreditationBackend.Audit.Truth
import AccreditationBackend.Accreditations.Issuance

/-! Among any calls, every published event is so, and every call that returns has announced it.

A call answers for what it has published itself: the events of its own statements,
in their order, and with the values that it found and that it returned.
-/

set_option autoImplicit false

namespace AccreditationBackend

open Foundation

/-! ## What a call owes -/

/-- The events that the statements publish, in order. -/
def publications (statements : List (Event store Database)) : List DomainEvent :=
  statements.flatMap (·.stmt.published)

theorem publications_snoc (statements : List (Event store Database)) (e : Event store Database) :
    publications (statements ++ [e]) = publications statements ++ e.stmt.published := by
  simp [publications]

/-- A validation announces the decision, and then the badge that was made for it. -/
def DecideRequestUseCase.DecideRequestInput.Announced (input : DecideRequestUseCase.DecideRequestInput)
    (row : AccreditationRequest) (t : Tables) (published : List DomainEvent) : Prop :=
  match input.status with
  | .rejected =>
      published = [.requestDecided row.id row.requesterId .rejected input.reason input.zoneIds]
  | .validated => ∃ a, t.accreditationById a.id = some a ∧ a.requestId = row.id ∧
      published = [.requestDecided row.id row.requesterId .validated input.reason input.zoneIds,
        .accreditationGenerated a.id row.id row.requesterId]

/-- What an operation that returns has published itself, neither more nor less. `Found` holds of
the databases that it met before its first statement, `t` is what stands in the end. -/
def Operation.Announced (op : Operation) (reply : Reply) (Found : Database → Prop) (t : Tables)
    (published : List DomainEvent) : Prop :=
  match op, reply with
  | .submit _ input, .request row =>
      row.id = input.requestId ∧ published = [.requestSubmitted row.id row.requesterId]
  | .requestComplement _ input, .complement row =>
      row.requestId = input.requestId ∧ row.missingItem = input.missingItem ∧
        ∃ requesterId, t.Owned row.requestId requesterId ∧
          published = [.requestComplementRequested row.requestId requesterId row.missingItem]
  | .decide _ input, .request row => row.id = input.requestId ∧ input.Announced row t published
  | .cancel input, .request row =>
      row.id = input.requestId ∧ ∃ s r, Found s ∧ s.requestById row.id = some r ∧
        published = [.requestCancelled row.id r.status]
  | .generateAccreditation _ requestId _ _, .accreditation row =>
      row.requestId = requestId ∧ ∃ requesterId, t.Owned row.requestId requesterId ∧
        published = [.accreditationGenerated row.id row.requestId requesterId]
  | .revoke _ accreditationId reason _, .accreditation row =>
      row.id = accreditationId ∧ row.revocationReason = some reason ∧
        published = [.accreditationRevoked row.id row.requestId reason]
  | .updateMatch id dto, .matchRow row =>
      row.id = id ∧ ∃ s existing, Found s ∧ s.matchRows.find (·.id == row.id) = some existing ∧
        published = if changedFields dto existing row = [] then []
          else [.matchUpdated row.id (changedFields dto existing row)]
  | _, _ => published = []

theorem Tables.Owned.unique {t : Tables} {requestId a b : Uuid} (first : t.Owned requestId a)
    (second : t.Owned requestId b) : a = b := by
  obtain ⟨r, found, rfl⟩ := first
  obtain ⟨r', found', rfl⟩ := second
  rw [Option.some.inj (found.symm.trans found')]

theorem Operation.Announced.later {op : Operation} {reply : Reply} {Found : Database → Prop} {s t : Database}
    {published : List DomainEvent} (announced : op.Announced reply Found s.toTables published)
    (later : Later s t) : op.Announced reply Found t.toTables published := by
  unfold Operation.Announced at announced ⊢
  split at announced
  · exact announced
  · obtain ⟨of, item, requesterId, owned, told⟩ := announced
    exact ⟨of, item, requesterId, later.owns owned, told⟩
  · obtain ⟨named, told⟩ := announced
    refine ⟨named, ?_⟩
    unfold DecideRequestUseCase.DecideRequestInput.Announced at told ⊢
    split at told
    · exact told
    · obtain ⟨a, stored, of, told⟩ := told
      obtain ⟨a', stored', same⟩ := later.badge a.id a stored
      have key : a'.id = a.id := by simpa using (Table.find_some_mem stored').2
      exact ⟨a', key ▸ stored', same.requestId.trans of, by rw [key]; exact told⟩
  · exact announced
  · obtain ⟨of, requesterId, owned, told⟩ := announced
    exact ⟨of, requesterId, later.owns owned, told⟩
  · exact announced
  · exact announced
  · exact announced

/-! ## Rules -/

section Rules

variable {A B : Type} {E : A → Tables → List DomainEvent → Prop}
  {W : List (Event store Database) → Database → Prop} {old : List DomainEvent}
  {own : List (Event store Database)} {m : Database}

/-- The call publishes nothing but the truth and undoes nothing; if it returns, what it
has published is what it owes. -/
abbrev Foundation.Proc.Honest (p : Op A) (old : List DomainEvent) (E : A → Tables → List DomainEvent → Prop)
    (W : List (Event store Database) → Database → Prop) (own : List (Event store Database)) (m : Database) :
    Prop :=
  p.AccountsFor handle (TrueBeside old) Later W
    (fun r own' t => ∀ value, r = .ok value → E value t.toTables (publications own')) own m

theorem failed_owes {why : Failure} {P : A → Prop} (value : A)
    (returned : (.error why : Except Failure A) = .ok value) : P value := by
  cases returned

theorem fail_honest (why : Failure) : (Proc.fail why : Op A).Honest old E W own m := failed_owes

theorem done_honest {value : A} (announced : E value m.toTables (publications own)) :
    (Proc.done value : Op A).Honest old E W own m := by
  rintro _ ⟨⟩
  exact announced

/-- A lawful statement that publishes nothing. -/
def Unannounced (stmt : Statement) : Prop := Lawful stmt ∧ stmt.published = []

theorem unannounced_step {stmt : Statement} (plain : Unannounced stmt) {db : Database}
    (told : TrueBeside old db) : TrueBeside old (handle.after stmt db) ∧ Later db (handle.after stmt db) :=
  trueBeside_step plain.1 (by rw [plain.2]; exact fun _ member => by cases member) told

theorem publications_unannounced {more : List (Event store Database)}
    (plain : ∀ e ∈ more, Unannounced e.stmt) : publications (own ++ more) = publications own := by
  have none : publications more = [] := List.flatMap_eq_nil_iff.mpr fun e member => (plain e member).2
  rw [publications, List.flatMap_append, ← publications, ← publications, none, List.append_nil]

theorem silent_honest {p : Op B} {f : B → Op A} (silent : p.Issues fun _ => False)
    (rest : ∀ value m', Later m m' → (f value).Honest old E W own m') : (p >>= f).Honest old E W own m :=
  Proc.recalls_silent Later.refl (fun _ _ _ => Later.trans) silent rest fun _ _ _ => failed_owes

theorem query_honest {look : Database → B} {f : B → Op A}
    (rest : ∀ s, Later m s → W own s → (f (look s)).Honest old E W own s) :
    (Proc.query look >>= f).Honest old E W own m :=
  fun s relied knows => rest s relied knows.2

theorem plain_honest {p : Op B} {f : B → Op A} (plain : p.Issues Unannounced)
    (rest : ∀ value own' m', Later m m' → publications own' = publications own →
      (f value).Honest old E W own' m') : (p >>= f).Honest old E W own m := by
  refine Proc.recalls_seq (Proc.accountsFor_issues Later.refl (fun _ _ _ => Later.trans)
    (fun _ _ plain => unannounced_step plain) plain) fun r own' m' ended => ?_
  obtain ⟨later, more, rfl, kind⟩ := ended
  cases r with
  | error why => exact failed_owes
  | ok value => exact rest value _ m' later (publications_unannounced kind)

theorem write_honest {stmt : Statement} {f : stmt.Reply → Op A} (plain : Unannounced stmt)
    (rest : ∀ s reply t own', Later m s → Later s t → publications own' = publications own →
      handle stmt s = .ok (reply, t) → (f reply).Honest old E W own' t) : (issue stmt >>= f).Honest old E W own m := by
  rw [issue_bind]
  refine Proc.accountsFor_exec (fun s _ told => unannounced_step plain told)
    (fun s reply t relied _ replied => ?_) fun _ _ _ _ _ => failed_owes
  have moved := later_step plain.1 s
  rw [handle.after_ok replied] at moved
  exact rest s reply t _ relied moved (publications_unannounced (by simpa using plain)) replied

theorem publish_honest {event : DomainEvent} {f : Unit → Op A}
    (so : ∀ s, Later m s → event.TrueIn s.toTables)
    (rest : ∀ t own', Later m t → publications own' = publications own ++ [event] →
      (f ()).Honest old E W own' t) : (publish event >>= f).Honest old E W own m := by
  rw [publish_bind]
  have lawful : Lawful (.publish event) := by trivial
  have kept (s : Database) (relied : Later m s) (told : TrueBeside old s) :
      TrueBeside old (handle.after (.publish event) s) ∧ Later s (handle.after (.publish event) s) :=
    trueBeside_step lawful
      (fun other member => (List.mem_singleton.mp member) ▸ so s relied) told
  refine Proc.accountsFor_exec kept (fun s reply t relied told replied => ?_) fun _ _ _ _ _ =>
    failed_owes
  have moved := (kept s relied told).2
  rw [handle.after_ok replied] at moved
  exact rest t _ (relied.trans moved) (publications_snoc own _)

theorem loadRequest_honest {id : Uuid} {owned : AccreditationRequest → Bool}
    {f : AccreditationRequest → Op A}
    (rest : ∀ r s, Later m s → W own s → s.requestById id = some r → r.id = id → (f r).Honest old E W own s) :
    (loadRequest id owned >>= f).Honest old E W own m := by
  unfold loadRequest
  rw [Proc.bind_assoc]
  refine query_honest fun s relied met => ?_
  cases loaded : (s.requestById id).filter owned with
  | none => exact fail_honest (m := s) _
  | some r =>
      have found := (Option.filter_eq_some_iff.mp loaded).1
      exact rest r s relied met found (by simpa using (Table.find_some_mem found).2)

theorem guard_honest {source target : RequestStatus} {f : Unit → Op A}
    (rest : target ∈ requestTransitions source → (f ()).Honest old E W own m) :
    (lift (assertTransitionAllowed source target) >>= f).Honest old E W own m := by
  obtain ⟨allowed, same⟩ | ⟨_, same⟩ := assertTransitionAllowed_cases source target
  · rw [same]
    exact rest allowed
  · rw [same]
    exact fail_honest (m := m) _

theorem unannounced_honest {p : Op A} (plain : p.Issues Unannounced)
    (owes : ∀ value t, E value t (publications own)) : p.Honest old E W own m :=
  Proc.recalls_mono (Proc.accountsFor_issues Later.refl (fun _ _ _ => Later.trans)
    (fun _ _ allowed => unannounced_step allowed) plain) fun _ own' t ended value _ => by
      obtain ⟨_, more, rfl, kind⟩ := ended
      rw [publications_unannounced kind]
      exact owes value t.toTables

theorem seq_honest {p : Op B} {f : B → Op A} {E' : B → Tables → List DomainEvent → Prop}
    (first : p.Honest old E' W own m)
    (rest : ∀ value own' m', Later m m' → E' value m'.toTables (publications own') →
      (f value).Honest old E W own' m') : (p >>= f).Honest old E W own m := by
  refine Proc.recalls_seq (Proc.recalls_moved (d := accounting (TrueBeside old) Later W) Later.refl
    (fun _ _ _ => Later.trans) (fun _ _ _ kept => kept.1.2) first) fun r own' m' ended => ?_
  cases r with
  | error why => exact failed_owes
  | ok value => exact rest value own' m' ended.1 (ended.2 value rfl)

theorem reply_honest {p : Op A} {f : A → Reply} {E' : Reply → Tables → List DomainEvent → Prop}
    (honest : p.Honest old E W own m) (owes : ∀ value t published, E value t published → E' (f value) t published) :
    (do let value ← p; return f value : Op Reply).Honest old E' W own m :=
  seq_honest honest fun value _ t _ announced => done_honest (m := t) (owes value _ _ announced)

end Rules

/-! ## The operations -/

section Operations

variable {W : List (Event store Database) → Database → Prop} {old : List DomainEvent}
  {own : List (Event store Database)} {m : Database}

theorem decided_written {w : StatusWrite} {s t : Database} {reply : AccreditationRequest}
    (written : handle (.writeStatus w) s = .ok (reply, t)) {d : RequestDecision} (asked : d ∈ w.decisions) :
    d ∈ t.decisions := by
  rw [apply_decisions (handle_ok written)]
  exact List.mem_append_right _ asked

/-- A request read before is past its draft once its status is written, and still its requester's. -/
theorem filed_written {w : StatusWrite} {s t m : Database} {reply r : AccreditationRequest}
    (written : handle (.writeStatus w) s = .ok (reply, t)) (lawful : w.target ∈ requestTransitions w.seen)
    (later : Later m s) (found : m.requestById w.requestId = some r) : t.Filed w.requestId r.requesterId := by
  obtain ⟨r', stored, owner, -⟩ := later.owned w.requestId r found
  have named : r'.id = w.requestId := by simpa using (Table.find_some_mem stored).2
  refine ⟨w.apply r', ?_, owner, fun draft => ?_⟩
  · rw [requestById_written written, stored, Option.map_some, named, beq_self_eq_true, if_pos rfl]
  · have target : w.target = .draft := draft
    exact draft_not_target w.seen (target ▸ lawful)

theorem reply_written {w : StatusWrite} {s t m : Database} {reply r : AccreditationRequest}
    (written : handle (.writeStatus w) s = .ok (reply, t)) (later : Later m s)
    (found : m.requestById w.requestId = some r) :
    reply.id = w.requestId ∧ reply.requesterId = r.requesterId := by
  have applied := handle_ok written
  simp only [Tables.apply, bind_ok, orFail_ok, pure_ok, Prod.mk.injEq] at applied
  obtain ⟨r', stored, _, _, same, _⟩ := applied
  obtain ⟨r'', stored', owner, -⟩ := later.owned w.requestId r found
  obtain rfl : r' = r'' := Option.some.inj (stored.symm.trans stored')
  have named : r'.id = w.requestId := by simpa using (Table.find_some_mem stored).2
  rw [← same]
  exact ⟨named, owner⟩

theorem submit_honest (ambient : Ambient) (input : SubmitRequestUseCase.SubmitRequestInput) :
    (SubmitRequestUseCase.execute ambient input).Honest old (fun row _ published =>
      row.id = input.requestId ∧
        published = publications own ++ [.requestSubmitted row.id row.requesterId]) W own m := by
  unfold SubmitRequestUseCase.execute
  refine loadRequest_honest fun request s _ _ found named => ?_
  rw [← named] at found ⊢
  refine guard_honest fun allowed => ?_
  refine silent_honest (getMatch_issues _) fun m₁ s₁ later₁ => ?_
  refine silent_honest (lift_issues _) fun _ s₂ later₂ => ?_
  refine silent_honest (query_issues _) fun duplicate s₃ later₃ => ?_
  refine write_honest ⟨allowed, rfl⟩ fun s₄ updated t own₄ later₄ _ quiet written => ?_
  have later := ((later₁.trans later₂).trans later₃).trans later₄
  have filed := filed_written written allowed later found
  obtain ⟨id, owner⟩ := reply_written written later found
  refine publish_honest (fun s₅ later₅ => ⟨later₅.files filed, _,
    later₅.decided (decided_written written (List.mem_singleton_self _)), rfl, rfl⟩)
    fun s₅ own₅ _ published => ?_
  refine done_honest (m := s₅) ⟨id, ?_⟩
  rw [published, quiet, owner, id]

theorem requestComplement_honest (ambient : Ambient)
    (input : RequestComplementUseCase.RequestComplementInput) :
    (RequestComplementUseCase.execute ambient input).Honest old (fun row t published =>
      row.requestId = input.requestId ∧ row.missingItem = input.missingItem ∧
        ∃ requesterId, t.Owned row.requestId requesterId ∧ published =
          publications own ++ [.requestComplementRequested row.requestId requesterId row.missingItem]) W own m := by
  unfold RequestComplementUseCase.execute
  refine loadRequest_honest fun request s _ _ found _ => guard_honest fun allowed => ?_
  refine write_honest ⟨allowed, rfl⟩ fun s₁ reply t own₁ later₁ moved quiet written => ?_
  have filed := filed_written written allowed later₁ found
  have owned : s.Owned input.requestId request.requesterId := ⟨request, found, rfl⟩
  have asked : RequestComplementUseCase.complement ambient input ∈ t.complements.rows := by
    have applied := handle_ok written
    simp only [Tables.apply, bind_ok, orFail_ok, pure_ok, Tables.addComplement, require_ok,
      Prod.mk.injEq] at applied
    obtain ⟨_, _, complements, ⟨_, _, inserted⟩, _, same⟩ := applied
    rw [← same, Table.insert_rows inserted]
    exact List.mem_append_right _ (List.mem_singleton_self _)
  refine publish_honest (fun s₂ later₂ => ?_) fun s₂ own₂ later₂ published => ?_
  · obtain ⟨c, stored', of, item⟩ := later₂.asked _ asked
    exact ⟨later₂.files filed, c, stored', of, item⟩
  · refine done_honest (m := s₂)
      ⟨rfl, rfl, request.requesterId, (later₁.trans (moved.trans later₂)).owns owned, ?_⟩
    rw [published, quiet]
    rfl

theorem generateAccreditation_honest (services : Services) (ambient : Ambient) (issuedAt : Time)
    (requestId : Uuid) (zoneIds : List Uuid) (options : GenerateAccreditationOptions) :
    (generateAccreditation services ambient issuedAt requestId zoneIds options).Honest old (fun row t published =>
      (∃ a, t.accreditationById row.id = some a ∧ a.requestId = requestId) ∧ row.requestId = requestId ∧
        ∃ requesterId, t.Owned row.requestId requesterId ∧ published =
          publications own ++ [.accreditationGenerated row.id row.requestId requesterId]) W own m := by
  unfold generateAccreditation
  refine silent_honest (attempt_issues _ _) fun _ s₁ _ => ?_
  refine query_honest fun s₂ _ _ => ?_
  cases joined : s₂.requestDetail requestId with
  | none => exact fail_honest (m := s₂) _
  | some detail =>
      have owned : s₂.Owned requestId detail.request.requesterId :=
        ⟨detail.request, (requestDetail_parts joined).1, rfl⟩
      rw [orThrow_some_bind]
      refine silent_honest (attempt_issues _ _) fun _ s₃ later₃ => ?_
      refine silent_honest (generateUnique_issues _ _ _ _ _ _) fun number s₄ later₄ => ?_
      refine silent_honest (attempt_issues _ _) fun _ s₅ later₅ => ?_
      refine silent_honest (attempt_issues _ _) fun _ s₆ later₆ => ?_
      refine write_honest ⟨trivial, rfl⟩ fun s₇ badge t own₇ later₇ moved quiet created => ?_
      have stored : badge ∈ t.accreditations.rows := by
        rw [created_reply created, (badge_created created).1]
        exact List.mem_append_right _ (List.mem_singleton_self _)
      have of : badge.requestId = requestId := by rw [created_reply created]
      have later₈ := ((((later₃.trans later₄).trans later₅).trans later₆).trans later₇).trans moved
      refine silent_honest (attempt_issues _ _) fun _ s₉ later₉ => ?_
      refine silent_honest (attempt_issues _ _) fun _ s₁₀ later₁₀ => ?_
      refine silent_honest (attempt_issues _ _) fun _ s₁₁ later₁₁ => ?_
      refine silent_honest (attempt_issues _ _) fun _ s₁₂ later₁₂ => ?_
      have later₁₃ := ((later₉.trans later₁₀).trans later₁₁).trans later₁₂
      have standing (s : Database) (later : Later s₁₂ s) :
          s.Owned requestId detail.request.requesterId ∧
            ∃ a, s.accreditationById badge.id = some a ∧ a.requestId = requestId := by
        obtain ⟨a, found, same⟩ :=
          (later₁₃.trans later).badge badge.id badge (accreditationById_stored stored)
        exact ⟨(later₈.trans (later₁₃.trans later)).owns owned, a, found, same.requestId.trans of⟩
      refine publish_honest standing fun s₁₃ own₁₃ later published => ?_
      obtain ⟨owner, badged⟩ := standing s₁₃ later
      refine done_honest (m := s₁₃) ⟨badged, of, detail.request.requesterId, of ▸ owner, ?_⟩
      rw [published, quiet, of]

/-- The decision and its event, whatever comes after them. -/
theorem decision_honest (ambient : Ambient) (input : DecideRequestUseCase.DecideRequestInput)
    {request : AccreditationRequest} {s s' : Database} (found : s.requestById request.id = some request)
    (allowed : input.status.status ∈ requestTransitions request.status) (later : Later s s')
    {E : AccreditationRequest → Tables → List DomainEvent → Prop}
    {f : AccreditationRequest → Op AccreditationRequest}
    (rest : ∀ updated t own', updated.id = request.id → updated.requesterId = request.requesterId →
      Later s' t → publications own' = publications own ++
        [.requestDecided request.id request.requesterId input.status.status input.reason input.zoneIds] →
      (f updated).Honest old E W own' t) :
    (do
      let updated : AccreditationRequest ←
        issue (.writeStatus (DecideRequestUseCase.decisionWrite ambient input request))
      publish (.requestDecided request.id request.requesterId input.status.status input.reason input.zoneIds)
      f updated : Op AccreditationRequest).Honest old E W own s' := by
  refine write_honest ⟨allowed, rfl⟩ fun s₁ updated t own₁ later₁ moved quiet written => ?_
  have filed := filed_written written allowed (later.trans later₁) found
  obtain ⟨id, owner⟩ := reply_written written (later.trans later₁) found
  refine publish_honest (fun s₂ later₂ => ⟨later₂.files filed, _,
    later₂.decided (decided_written written (List.mem_singleton_self _)), rfl, rfl, rfl⟩)
    fun s₂ own₂ later₂ published => rest updated s₂ own₂ id owner ((later₁.trans moved).trans later₂) ?_
  rw [published, quiet]

theorem decide_honest (services : Services) (ambient : Ambient)
    (input : DecideRequestUseCase.DecideRequestInput) :
    (DecideRequestUseCase.execute services ambient input).Honest old (fun row t published =>
      row.id = input.requestId ∧ input.Announced row t published) W [] m := by
  unfold DecideRequestUseCase.execute
  refine loadRequest_honest fun request s _ _ found named => guard_honest fun allowed => ?_
  have byId : s.requestById request.id = some request := by rw [named]; exact found
  unfold DecideRequestUseCase.DecideRequestInput.Announced
  cases verdict : input.status with
  | validated =>
      simp only [if_true, ← verdict]
      have reserves : (DecideRequestUseCase.reserveQuotaOrThrow request input).Issues Unannounced :=
        reserveQuotaOrThrow_issues fun _ _ _ => ⟨trivial, rfl⟩
      refine plain_honest reserves fun _ own₁ s₁ later₁ quiet₁ => ?_
      refine decision_honest ambient input byId allowed later₁ fun updated t own₂ _ _ later₂ published => ?_
      refine seq_honest (generateAccreditation_honest services ambient (ambient.clock 1) request.id
        input.zoneIds _) fun badge own₃ t' later₃ announced => ?_
      obtain ⟨badged, of, requesterId, owned, generated⟩ := announced
      have unguarded : Unannounced (.writeStatus (DecideRequestUseCase.badgeWrite input request)) :=
        ⟨by simp [Lawful, DecideRequestUseCase.badgeWrite, requestTransitions], rfl⟩
      refine write_honest unguarded fun s₂ row t'' own₄ later₄ moved quiet₄ written => ?_
      have later := ((later₁.trans later₂).trans later₃).trans later₄
      obtain ⟨id, owner⟩ := reply_written written later byId
      obtain rfl : requesterId = request.requesterId :=
        owned.unique (of ▸ ((later₁.trans later₂).trans later₃).owns ⟨request, byId, rfl⟩)
      obtain ⟨a, stored, names⟩ := badged
      obtain ⟨a', stored', same⟩ := (later₄.trans moved).badge badge.id a stored
      have key : a'.id = badge.id := by simpa using (Table.find_some_mem stored').2
      have whose : row.id = request.id := id
      refine done_honest (m := t'') ⟨whose.trans named, a', key ▸ stored', ?_, ?_⟩
      · rw [same.requestId, names, whose]
      · rw [quiet₄, generated, published, quiet₁, owner, whose, key, of, verdict]
        rfl
  | rejected =>
      simp only [reduceCtorEq, if_false]
      rw [← verdict]
      refine decision_honest ambient input byId allowed (Later.refl s)
        fun updated t own₁ id owner _ published => ?_
      refine done_honest (m := t) ⟨id.trans named, ?_⟩
      rw [published, id, owner, verdict]
      rfl

theorem cancel_honest (input : CancelRequestUseCase.CancelRequestInput) :
    (CancelRequestUseCase.execute input).Honest old (fun row _ published =>
      row.id = input.requestId ∧ ∃ s r, W [] s ∧ s.requestById row.id = some r ∧
        published = [.requestCancelled row.id r.status]) W [] m := by
  unfold CancelRequestUseCase.execute
  refine loadRequest_honest fun request s _ met found named => guard_honest fun allowed => ?_
  rw [← named] at found ⊢
  refine write_honest ⟨allowed, rfl⟩ fun s₁ updated t own₁ later₁ _ quiet₁ written => ?_
  have filed := filed_written written allowed later₁ found
  obtain ⟨id, -⟩ := reply_written written later₁ found
  have whose : updated.id = request.id := id
  have announced (own₂ : List (Event store Database)) (s₂ : Database) (later₂ : Later t s₂)
      (quiet₂ : publications own₂ = publications own₁) :
      (do
        publish (.requestCancelled request.id request.status)
        return updated : Op AccreditationRequest).Honest old (fun row _ published =>
          row.id = request.id ∧ ∃ s r, W [] s ∧ s.requestById row.id = some r ∧
            published = [.requestCancelled row.id r.status]) W own₂ s₂ := by
    refine publish_honest (fun s₃ later₃ => ⟨⟨_, (later₂.trans later₃).files filed⟩, _,
      (later₂.trans later₃).decided (decided_written written (List.mem_singleton_self _)), rfl, rfl, rfl⟩)
      fun s₃ own₃ _ published => ?_
    refine done_honest (m := s₃) ⟨whose, s, request, met, whose ▸ found, ?_⟩
    rw [published, quiet₂, quiet₁, whose]
    rfl
  split
  · have releases : (releaseSlot request.matchId request.categoryRequestedId).Issues Unannounced :=
      releaseSlot_issues fun _ => ⟨trivial, rfl⟩
    exact plain_honest releases fun _ own₂ s₂ later₂ quiet₂ => announced own₂ s₂ later₂ quiet₂
  · exact announced own₁ t (Later.refl t) rfl

theorem revoke_honest (ambient : Ambient) (accreditationId : Uuid) (reason : String) (revokedById : Uuid) :
    (revoke ambient accreditationId reason revokedById).Honest old (fun row _ published =>
      row.id = accreditationId ∧ row.revocationReason = some reason ∧
        published = publications own ++ [.accreditationRevoked row.id row.requestId reason]) W own m := by
  unfold revoke
  refine query_honest fun s _ _ => ?_
  cases found : s.accreditationById accreditationId with
  | none => exact fail_honest (m := s) _
  | some accreditation =>
      rw [orThrow_some_bind]
      split
      · exact fail_honest (m := s) _
      · refine write_honest ⟨trivial, rfl⟩ fun s₁ updated t own₁ later₁ _ quiet revoked => ?_
        obtain ⟨a, stored, same⟩ := later₁.badge accreditationId accreditation found
        have named : a.id = accreditationId := by simpa using (Table.find_some_mem stored).2
        have applied := handle_ok revoked
        simp only [Tables.apply, bind_ok, orFail_ok, pure_ok, Prod.mk.injEq] at applied
        obtain ⟨a', stored', reply, tables⟩ := applied
        obtain rfl : a = a' := Option.some.inj (stored.symm.trans stored')
        have ended : t.accreditationById accreditationId =
            some (markRevoked (ambient.clock 0) revokedById reason a) := by
          rw [← tables]
          unfold Tables.accreditationById at stored ⊢
          rw [Table.find_update _ _ _ (markRevoked_key _ _ _) _ fun _ => rfl, stored, Option.map_some, named,
            beq_self_eq_true, if_pos rfl]
        refine publish_honest (fun s₂ later₂ => ?_) fun s₂ own₂ _ published => ?_
        · obtain ⟨a', stored'', same'⟩ := later₂.badge accreditationId _ ended
          exact ⟨a', stored'', same'.requestId.trans same.requestId, same'.revoked rfl⟩
        · refine done_honest (m := s₂) ?_
          rw [published, quiet, ← reply]
          exact ⟨named, rfl, by simp [markRevoked, named, same.requestId]⟩

theorem updateMatch_honest (id : Uuid) (dto : UpdateMatchDto) :
    (updateMatch id dto).Honest old (fun row _ published =>
      row.id = id ∧ ∃ s existing, W [] s ∧ s.matchRows.find (·.id == row.id) = some existing ∧
        published = if changedFields dto existing row = [] then []
          else [.matchUpdated row.id (changedFields dto existing row)]) W [] m := by
  unfold updateMatch getMatch
  rw [Proc.bind_assoc]
  refine query_honest fun s _ met => ?_
  cases found : s.matchRows.find (·.id == id) with
  | none => exact fail_honest (m := s) _
  | some existing =>
      rw [orThrow_some_bind]
      refine write_honest ⟨trivial, rfl⟩ fun s₁ updated t own₁ later₁ moved quiet written => ?_
      have known : (s.matchRows.find (·.id == id)).isSome := by rw [found]; rfl
      have named : updated.id = id := by
        have applied := handle_ok written
        simp only [Tables.apply, bind_ok, orFail_ok, pure_ok, Prod.mk.injEq] at applied
        obtain ⟨r, stored, _, _, same, _⟩ := applied
        rw [← same]
        exact beq_iff_eq.mp (Table.find_some_mem stored).2
      dsimp only
      split
      · refine publish_honest (fun s₂ later₂ => ((later₁.trans moved).trans later₂).schedules known)
          fun s₂ own₂ _ published => ?_
        refine done_honest (m := s₂) ⟨named, s, existing, met, named ▸ found, ?_⟩
        rw [published, quiet, if_neg ‹_›, named]
        rfl
      · refine done_honest (m := t) ⟨named, s, existing, met, named ▸ found, ?_⟩
        rw [quiet, if_pos (not_not.mp ‹_›)]
        rfl

/-- The operations that publish nothing. -/
def Operation.announces : Operation → Bool
  | .submit .. | .requestComplement .. | .decide .. | .cancel _ | .updateMatch .. => true
  | .generateAccreditation .. | .revoke .. => true
  | _ => false

theorem footprint_unannounced {services : Services} {op : Operation} (silent : op.announces = false)
    {stmt : Statement} (footprint : op.Footprint services stmt) : Unannounced stmt := by
  refine ⟨footprint_lawful footprint, ?_⟩
  cases op with
  | saveDraft ambient input => rcases footprint with ⟨_, rfl⟩ | ⟨_, rfl⟩ <;> rfl
  | resolveComplement ambient input => rcases footprint with rfl | ⟨_, rfl, -⟩ <;> rfl
  | transition input => obtain ⟨_, rfl, -⟩ := footprint; rfl
  | setQuota ambient matchId dto => rw [footprint]; rfl
  | updateAssignments accreditationId input => rw [footprint]; rfl
  | verifyScan ambient dto scannedById => rcases footprint with ⟨_, _, rfl⟩ | ⟨_, rfl, -⟩ <;> rfl
  | syncOfflineScans ambient scans scannedById => obtain ⟨_, rfl, -⟩ := footprint; rfl
  | _ => cases silent

theorem execute_honest (services : Services) (op : Operation) :
    (op.execute services).Honest old (fun reply => op.Announced reply (W [])) W [] m := by
  cases announces : op.announces with
  | false =>
      refine unannounced_honest (Proc.issues_mono _ (execute_footprint services op) fun stmt footprint =>
        footprint_unannounced announces footprint) fun reply t => ?_
      cases op with
      | submit | requestComplement | decide | cancel | updateMatch | generateAccreditation | revoke =>
          cases announces
      | _ => rfl
  | true =>
      cases op with
      | submit ambient input => exact reply_honest (submit_honest ambient input) fun _ _ _ owed => owed
      | requestComplement ambient input =>
          exact reply_honest (requestComplement_honest ambient input) fun _ _ _ owed => owed
      | decide ambient input =>
          exact reply_honest (decide_honest services ambient input) fun _ _ _ owed => owed
      | cancel input => exact reply_honest (cancel_honest input) fun _ _ _ owed => owed
      | updateMatch id dto => exact reply_honest (updateMatch_honest id dto) fun _ _ _ owed => owed
      | generateAccreditation ambient requestId zoneIds options =>
          exact reply_honest (generateAccreditation_honest services ambient _ requestId zoneIds options)
            fun _ _ _ owed => owed.2
      | revoke ambient accreditationId reason revokedById =>
          exact reply_honest (revoke_honest ambient accreditationId reason revokedById) fun _ _ _ owed => owed
      | _ => cases announces

end Operations

/-! ## Every interleaving -/

section Plays

variable {ι : Type} [DecidableEq ι] (services : Services) (start : Database) (calls : ι → Operation)
  (schedule : List ι)

theorem operations_announce :
    TrueBeside start.events ((operationPool services start calls).play handle schedule).2.store ∧
      Later start ((operationPool services start calls).play handle schedule).2.store ∧
      ∀ i r, (((operationPool services start calls).play handle schedule).2.procs i).ended = some r →
        ∃ m, Later m ((operationPool services start calls).play handle schedule).2.store ∧
          ∀ reply, r = .ok reply → (calls i).Announced reply
            ((operationPool services start calls).Met handle schedule i []) m.toTables
            (publications (((operationPool services start calls).play handle schedule).1.own i)) :=
  Pool.play_accountsFor handle Later.refl (fun _ _ _ => Later.trans) schedule
    (operationPool services start calls) (fun _ early new => absurd early new)
    fun i => execute_honest services (calls i)

/-- Whatever calls run at once, every event published by them is so when its listeners read it. -/
theorem announcements_true (told : EventsTrue start) :
    EventsTrue ((operationPool services start calls).play handle schedule).2.store := by
  obtain ⟨since, later, -⟩ := operations_announce services start calls schedule
  exact later.all_true told since

/-- What the statements publish is appended to the events, a refused statement's nothing included. -/
theorem after_events (stmt : Statement) (db : Database) :
    (handle.after stmt db).events = db.events ++ stmt.published := by
  cases stmt with
  | publish event => rfl
  | _ => exact (events_kept rfl db).trans (List.append_nil _).symm

/-- Whatever else runs, a call that has returned has announced it: what it owes is exactly
what it has published itself, and stands among the new events in that order. -/
theorem returns_announced {i : ι} {reply : Reply}
    (returned : (((operationPool services start calls).play handle schedule).2.procs i).ended =
      some (.ok reply)) :
    (calls i).Announced reply ((operationPool services start calls).Met handle schedule i [])
        ((operationPool services start calls).play handle schedule).2.store.toTables
        (publications (((operationPool services start calls).play handle schedule).1.own i)) ∧
      ∃ new, ((operationPool services start calls).play handle schedule).2.store.events =
          start.events ++ new ∧
        (publications (((operationPool services start calls).play handle schedule).1.own i)).Sublist new := by
  obtain ⟨-, -, each⟩ := operations_announce services start calls schedule
  obtain ⟨m, later, told⟩ := each i _ returned
  exact ⟨(told reply rfl).later later, _,
    Pool.play_appends (·.events) after_events schedule (operationPool services start calls),
    History.own_sublist _ i⟩

end Plays

/-- The dossier under review, with nothing published yet. -/
def quietUnderReview : Database where
  toTables := { underReview.toTables with events := [] }
  referential := { underReview.referential with }

theorem quiet_true : EventsTrue quietUnderReview := fun _ member => by cases member

theorem announcements_true_refused :
    EventsTrue ((operationPool sampleServices quietUnderReview refuseAndWithdraw).play handle
      alternating).2.store ∧
    ((operationPool sampleServices quietUnderReview refuseAndWithdraw).play handle
      alternating).2.store.events =
        [.requestDecided "dossier" "reporter" .rejected (some "non") [],
          .requestCancelled "dossier" .underReview] :=
  ⟨announcements_true sampleServices quietUnderReview refuseAndWithdraw alternating quiet_true,
    by decide⟩

theorem returns_announced_withdrawn :
    ∃ reply new, (refuseAndWithdraw 1).Announced reply
        ((operationPool sampleServices quietUnderReview refuseAndWithdraw).Met handle alternating 1 [])
        ((operationPool sampleServices quietUnderReview refuseAndWithdraw).play handle
          alternating).2.store.toTables [.requestCancelled "dossier" .underReview] ∧
      ((operationPool sampleServices quietUnderReview refuseAndWithdraw).play handle
        alternating).2.store.events = new ∧
      [.requestCancelled "dossier" .underReview].Sublist new := by
  have returned : ∃ reply, (((operationPool sampleServices quietUnderReview refuseAndWithdraw).play handle
      alternating).2.procs 1).ended = some (.ok reply) := ⟨_, rfl⟩
  obtain ⟨reply, returned⟩ := returned
  obtain ⟨announced, new, appended, among⟩ :=
    returns_announced sampleServices quietUnderReview refuseAndWithdraw alternating returned
  have told : publications (((operationPool sampleServices quietUnderReview refuseAndWithdraw).play handle
      alternating).1.own 1) = [.requestCancelled "dossier" .underReview] := by decide
  rw [told] at announced among
  exact ⟨reply, new, announced, appended, among⟩

end AccreditationBackend
