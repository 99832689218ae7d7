import AccreditationBackend.Quotas.Locking
import AccreditationBackend.Requests.Slots

/-! Decisions and cancellations settle what they move.

Between its statements a call holds a debt: a slot reserved for a status not yet
written, or a status given up whose slot is not yet released. The debt is part
of the slack, so it vouches for the counter that the next statement needs.
-/

set_option autoImplicit false

namespace AccreditationBackend

open Foundation

def Tables.pairOf (t : Tables) (id : Uuid) : Option (Uuid × Uuid) := (t.requestById id).map (·.pair)

/-- No request is created or edited, and no quota is configured. -/
def Statement.calm : Statement → Bool
  | .createRequest _ => false
  | .editDraft .. => false
  | .setQuota .. => false
  | _ => true

/-- A status write by a call that is right about whether the request holds a slot. -/
def seesSlot (e : Event store Database) : Bool :=
  match e.stmt with
  | .writeStatus w =>
      (e.before.statusOf w.requestId).all fun stored => stored.holdsSlot == w.seen.holdsSlot
  | _ => true

/-- What stands as long as only decisions and cancellations run: the pair of
each request, and the row of the quota but for its counter. -/
structure Standing (pairs : Uuid → Option (Uuid × Uuid)) (quota : Option (Uuid × Nat)) (matchId categoryId : Uuid)
    (db : Database) : Prop where
  pairs : ∀ id, db.pairOf id = pairs id
  quota : (db.quotaRow matchId categoryId).map (fun q => (q.id, q.quotaTotal)) = quota

section Calls

variable (pairs : Uuid → Option (Uuid × Uuid)) (quota : Option (Uuid × Nat)) (matchId categoryId : Uuid)

/-- The debt of a call moves as the slack does, and never takes the counter past the total. -/
def slotDiscipline : Discipline store Database Int where
  Knows debt db := Standing pairs quota matchId categoryId db ∧ 0 ≤ debt ∧
    debt ≤ db.slack matchId categoryId
  Grants e := seesSlot e = true
  Commits debt e debt' :=
    e.stmt.calm = true ∧ 0 ≤ debt' ∧
      e.after.slack matchId categoryId - e.before.slack matchId categoryId = debt' - debt ∧
      ∀ id total, quota = some (id, total) → e.before.consumedOf matchId categoryId ≤ total →
        e.after.consumedOf matchId categoryId ≤ total

variable {pairs quota matchId categoryId}

theorem standing_step {stmt : Statement} {db : Database} (calm : stmt.calm = true)
    (standing : Standing pairs quota matchId categoryId db) :
    Standing pairs quota matchId categoryId (handle.after stmt db) where
  pairs id := by
    rw [← standing.pairs id]
    have step := request_step stmt db id
    simp only [Tables.pairOf]
    generalize db.requestById id = a at step
    generalize (handle.after stmt db).requestById id = b at step
    cases step with
    | created => cases calm
    | edited => cases calm
    | written named => rfl
    | unchanged => rfl
  quota := by
    rw [← standing.quota]
    have step :=
      quota_step (selects_quotaOf matchId categoryId) (onKey_quotaOf matchId categoryId) stmt db
    simp only [Tables.quotaRow]
    generalize db.quotas.find (quotaOf matchId categoryId) = a at step
    generalize (handle.after stmt db).quotas.find (quotaOf matchId categoryId) = b at step
    cases step with
    | created => cases calm
    | edited => cases calm
    | reserved room => rfl
    | released named => rfl
    | unchanged => rfl

theorem Standing.apart {db db' : Database} {matchId' categoryId' : Uuid} {q q' : MatchCategoryQuota}
    (standing : Standing pairs quota matchId categoryId db)
    (standing' : Standing pairs quota matchId categoryId db')
    (read : db.quotaRow matchId' categoryId' = some q')
    (other : (matchId', categoryId') ≠ (matchId, categoryId))
    (row : db'.quotaRow matchId categoryId = some q) : q.id ≠ q'.id := by
  intro same
  have kept := standing.quota.trans standing'.quota.symm
  rw [row] at kept
  cases first : db.quotaRow matchId categoryId with
  | none => simp [first] at kept
  | some q₀ =>
      simp only [first, Option.map_some, Option.some.injEq, Prod.mk.injEq] at kept
      obtain ⟨inside, pair⟩ := Table.find_some_mem first
      obtain ⟨inside', pair'⟩ := Table.find_some_mem read
      have one : q₀ = q' := Table.eq_of_clash inside inside' (.inl (kept.1.trans same))
      subst one
      simp only [quotaOf, Bool.and_eq_true, beq_iff_eq] at pair pair'
      exact other (Prod.ext (pair'.1.symm.trans pair.1) (pair'.2.symm.trans pair.2))

/-- Neither a request nor a counter is touched. -/
def Neutral (stmt : Statement) : Prop := Quiet stmt ∧ Still stmt ∧ stmt.calm = true

theorem slack_neutral {stmt : Statement} (quiet : Quiet stmt) (still : Still stmt) (db : Database) :
    (handle.after stmt db).slack matchId categoryId = db.slack matchId categoryId := by
  simp only [Tables.slack, consumedOf_still still db, holding_quiet quiet db]

section Rules

variable {A B : Type} {Q : Except Failure B → Int → Prop} {debt : Int}

theorem neutral_bind {p : Op A} {f : A → Op B} (neutral : p.Issues Neutral)
    (rest : ∀ value, (f value).Outline handle (slotDiscipline pairs quota matchId categoryId) Q debt)
    (failed : ∀ why, Q (.error why) debt) :
    (p >>= f).Outline handle (slotDiscipline pairs quota matchId categoryId) Q debt := by
  have kept := Proc.outline_of_issues handle (slotDiscipline pairs quota matchId categoryId) debt
    (fun stmt db neutral knows => ⟨neutral.2.2, knows.2.1, by
      rw [Handler.event_after, slack_neutral neutral.1 neutral.2.1]
      simp, fun _ _ _ within => by
      rw [Handler.event_after, consumedOf_still neutral.2.1]
      exact within⟩) p neutral
  refine Proc.outline_seq kept fun r debt' same => ?_
  subst same
  cases r with
  | ok value => exact rest value
  | error why => exact failed why

theorem load_bind {id : Uuid} {owned : AccreditationRequest → Bool} {f : AccreditationRequest → Op B}
    (rest : ∀ r, r.id = id → pairs id = some r.pair →
      (f r).Outline handle (slotDiscipline pairs quota matchId categoryId) Q debt)
    (failed : ∀ why, Q (.error why) debt) :
    (loadRequest id owned >>= f).Outline handle
      (slotDiscipline pairs quota matchId categoryId) Q debt := by
  rw [loadRequest_bind]
  intro db knows
  dsimp only
  cases loaded : (db.requestById id).filter owned with
  | none => exact failed _
  | some r =>
      have found := (Option.filter_eq_some_iff.mp loaded).1
      have pair := knows.1.pairs id
      rw [Tables.pairOf, found, Option.map_some] at pair
      exact rest r (by simpa using (Table.find_some_mem found).2) pair.symm

theorem guard_bind {source target : RequestStatus} {f : Unit → Op B}
    (rest : target ∈ requestTransitions source →
      (f ()).Outline handle (slotDiscipline pairs quota matchId categoryId) Q debt)
    (failed : ∀ why, Q (.error why) debt) :
    (lift (assertTransitionAllowed source target) >>= f).Outline handle
      (slotDiscipline pairs quota matchId categoryId) Q debt := by
  rcases assertTransitionAllowed_cases source target with ⟨allowed, same⟩ | ⟨_, same⟩
  · rw [same]
    exact rest allowed
  · rw [same]
    exact failed _

/-- A status write that sees rightly turns weight into debt. -/
theorem write_bind {w : StatusWrite} {f : AccreditationRequest → Op B} {pair : Uuid × Uuid} (debt' : Int)
    (known : pairs w.requestId = some pair) (alone : w.complement = none)
    (moves : debt' = debt + weight matchId categoryId pair w.seen - weight matchId categoryId pair w.target)
    (positive : 0 ≤ debt')
    (rest : ∀ r, (f r).Outline handle (slotDiscipline pairs quota matchId categoryId) Q debt') :
    (issue (.writeStatus w) >>= f).Outline handle
      (slotDiscipline pairs quota matchId categoryId) Q debt := by
  rw [issue_bind]
  intro db knows granted
  have found := knows.1.pairs w.requestId
  rw [known] at found
  obtain ⟨r, loaded, same⟩ := Option.map_eq_some_iff.mp found
  have written := handle_written loaded alone
  -- The schedule grants the write only if the call is right about the slot.
  have slots : r.status.holdsSlot = w.seen.holdsSlot := by
    simpa [slotDiscipline, seesSlot, Tables.statusOf, loaded] using granted
  have sees : weight matchId categoryId r.pair r.status = weight matchId categoryId pair w.seen := by
    simp only [weight, same, slots]
  refine ⟨debt', ⟨rfl, positive, ?_, fun _ _ _ within => ?_⟩, ?_⟩
  · rw [Handler.event_after, Handler.event_before, slack_moved loaded written, sees, same]
    omega
  · have still : Still (.writeStatus w) := rfl
    rw [Handler.event_after, consumedOf_still still]
    exact within
  · rw [written]
    exact rest _

end Rules

/-! ## The counter -/

theorem consumed_covers {db : Database} (reserved : 0 < db.slack matchId categoryId) :
    ∃ q, db.quotaRow matchId categoryId = some q ∧ 0 < q.consumed := by
  simp only [Tables.slack, Tables.consumedOf] at reserved
  cases row : db.quotaRow matchId categoryId with
  | none =>
      rw [row] at reserved
      simp only [Option.map_none, Option.getD_none] at reserved
      omega
  | some q =>
      rw [row] at reserved
      simp only [Option.map_some, Option.getD_some] at reserved
      exact ⟨q, rfl, by omega⟩

/-- A slot taken for the pair is a debt until its status is written. -/
def Reserved (matchId categoryId matchId' categoryId' : Uuid) (r : Except Failure ReservationResult)
    (debt : Int) : Prop :=
  match r with
  | .ok result =>
      debt = if (matchId', categoryId') = (matchId, categoryId) ∧ result.reserved = true then 1 else 0
  | .error _ => debt = 0

/-- The debt of a guarded update is the slot it took for the pair. -/
theorem reserve_commits {db₀ db : Database} {matchId' categoryId' : Uuid} {q : MatchCategoryQuota}
    (standing₀ : Standing pairs quota matchId categoryId db₀)
    (standing : Standing pairs quota matchId categoryId db)
    (read : db₀.quotaRow matchId' categoryId' = some q) :
    (slotDiscipline pairs quota matchId categoryId).Commits 0
      (handle.event (.reserve q.id q.quotaTotal) db)
      (if (matchId', categoryId') = (matchId, categoryId) ∧
        db.quotas.count (reservable q.id q.quotaTotal) = 1 then 1 else 0) := by
  have held := holding_quiet (rfl : Quiet (.reserve q.id q.quotaTotal)) db matchId categoryId
  simp only [slotDiscipline, Handler.event_stmt, Handler.event_before, Handler.event_after,
    Tables.slack, held]
  refine ⟨rfl, by split <;> omega, ?_⟩
  cases row : db.quotaRow matchId categoryId with
  | none =>
      -- Without a row of the pair, the row that was read is another one.
      have other : (matchId', categoryId') ≠ (matchId, categoryId) := by
        rintro same
        cases same
        have kept := standing₀.quota.trans standing.quota.symm
        simp [read, row] at kept
      have before : db.consumedOf matchId categoryId = 0 := by simp [Tables.consumedOf, row]
      rw [consumedOf_unconfigured row, before, if_neg fun both => other both.1]
      exact ⟨by omega, fun _ total _ _ => by omega⟩
  | some stored =>
      rw [consumedOf_reserve q.id q.quotaTotal row]
      have known := standing.quota
      rw [row] at known
      by_cases same : (matchId', categoryId') = (matchId, categoryId)
      · cases same
        have kept := standing₀.quota.trans known.symm
        simp only [read, Option.map_some, Option.some.injEq, Prod.mk.injEq] at kept
        have byId : db.quotas.find (·.id == q.id) = some stored :=
          (Table.find_some_iff (selects_quotaId q.id)).mpr ⟨(Table.find_some_mem row).1, by simp [kept.1]⟩
        have counter : db.consumedOf matchId categoryId = stored.consumed := by
          simp [Tables.consumedOf, row]
        rw [count_reservable byId, counter]
        by_cases room : stored.consumed < q.quotaTotal
        · simp only [reservable, kept.1, room, beq_self_eq_true, decide_true, Bool.and_self,
            if_true, and_self]
          refine ⟨by omega, fun id total limit within => ?_⟩
          rw [← known, Option.map_some, Option.some.injEq, Prod.mk.injEq] at limit
          rw [kept.2, limit.2] at room
          omega
        · simp [reservable, room]
      · have apart := standing₀.apart standing read same row
        simp [reservable, apart, same]

theorem reserveSlot_outline_slots (matchId' categoryId' : Uuid) :
    (reserveSlot matchId' categoryId').Outline handle (slotDiscipline pairs quota matchId categoryId)
      (Reserved matchId categoryId matchId' categoryId') 0 := by
  unfold reserveSlot
  simp only [getQuotaRow_bind, Proc.Outline]
  intro db₀ knows₀
  cases read : db₀.quotaRow matchId' categoryId' with
  | none => rfl
  | some q =>
      simp only [orThrow_some_bind]
      intro db knows _
      refine ⟨_, reserve_commits knows₀.1 knows.1 read, ?_⟩
      simp only [handle_reserve]
      intro later knows'
      cases again : later.quotaRow matchId' categoryId' with
      | none =>
          have other : (matchId', categoryId') ≠ (matchId, categoryId) := by
            intro same
            cases same
            have kept := knows₀.1.quota.trans knows'.1.quota.symm
            simp [read, again] at kept
          simp only [again, orThrow_none_bind, Proc.Outline, Reserved]
          exact if_neg fun both => other both.1
      | some fresh =>
          simp only [again, orThrow_some_bind, Proc.pure_eq, Proc.Outline, Reserved, beq_iff_eq]

/-- A call that gave up the status of the pair has a slot to release, and finds it. -/
theorem releaseSlot_outline (matchId' categoryId' : Uuid) :
    (releaseSlot matchId' categoryId').Outline handle (slotDiscipline pairs quota matchId categoryId)
      (fun _ debt => debt = 0) (if (matchId', categoryId') = (matchId, categoryId) then 1 else 0) := by
  unfold releaseSlot
  simp only [getQuotaRow_bind, Proc.Outline]
  intro db₀ knows₀
  by_cases same : (matchId', categoryId') = (matchId, categoryId)
  · cases same
    simp only [if_true] at knows₀ ⊢
    -- The debt of the call keeps the counter positive, at the read and at the decrement.
    obtain ⟨q, read, used⟩ := consumed_covers (lt_of_lt_of_le Int.one_pos knows₀.2.2)
    rw [read, orThrow_some_bind, if_neg (by omega)]
    intro db knows _
    have kept := knows₀.1.quota.trans knows.1.quota.symm
    obtain ⟨stored, row, _⟩ := consumed_covers (lt_of_lt_of_le Int.one_pos knows.2.2)
    rw [read, row] at kept
    simp only [Option.map_some, Option.some.injEq, Prod.mk.injEq] at kept
    have held := holding_quiet (rfl : Quiet (.release q.id)) db matchId categoryId
    refine ⟨0, ⟨rfl, le_refl 0, ?_, fun _ total _ within => ?_⟩, ?_⟩
    · rw [Handler.event_after, Handler.event_before, Tables.slack, Tables.slack, held,
        consumedOf_release q.id row, if_pos kept.1.symm]
      omega
    · rw [Handler.event_after, consumedOf_release q.id row, if_pos kept.1.symm]
      rw [Handler.event_before] at within
      omega
    · split <;> rfl
  · rw [if_neg same]
    cases read : db₀.quotaRow matchId' categoryId' with
    | none => rfl
    | some q =>
        rw [orThrow_some_bind]
        split
        · rfl
        · intro db knows _
          have held := holding_quiet (rfl : Quiet (.release q.id)) db matchId categoryId
          have counter : (handle.after (.release q.id) db).consumedOf matchId categoryId =
              db.consumedOf matchId categoryId := by
            cases row : db.quotaRow matchId categoryId with
            | none => rw [consumedOf_unconfigured row]; simp [Tables.consumedOf, row]
            | some stored =>
                rw [consumedOf_release q.id row, if_neg (knows₀.1.apart knows.1 read same row)]
                omega
          refine ⟨0, ⟨rfl, le_refl 0, ?_, fun _ total _ within => ?_⟩, ?_⟩
          · rw [Handler.event_after, Handler.event_before, Tables.slack, Tables.slack, held, counter]
            omega
          · rw [Handler.event_after, counter]
            exact within
          · split <;> rfl

/-! ## The two use cases -/

theorem weight_free {status : RequestStatus} (free : status.holdsSlot = false) (pair : Uuid × Uuid) :
    weight matchId categoryId pair status = 0 := by
  simp [weight, free]

theorem weight_held {status : RequestStatus} (holds : status.holdsSlot = true) (pair : Uuid × Uuid) :
    weight matchId categoryId pair status = if pair = (matchId, categoryId) then 1 else 0 := by
  simp [weight, holds]

theorem publish_neutral (event : DomainEvent) : (publish event).Issues Neutral :=
  issue_issues ⟨rfl, rfl, rfl⟩

theorem announce_neutral {A : Type} (event : DomainEvent) (value : A) :
    (do publish event; return value : Op A).Issues Neutral := Proc.issues_bind _ _ _
      (publish_neutral event) fun _ => trivial

theorem settled_of_neutral {A : Type} {p : Op A} (neutral : p.Issues Neutral) :
    p.Outline handle (slotDiscipline pairs quota matchId categoryId) (fun _ debt => debt = 0) 0 := by
  rw [← Proc.bind_done p]
  exact neutral_bind neutral (fun _ => rfl) fun _ => rfl

theorem generateAccreditation_neutral (services : Services) (ambient : Ambient) (issuedAt : Time)
    (requestId : Uuid) (zoneIds : List Uuid) (options : GenerateAccreditationOptions) :
    (generateAccreditation services ambient issuedAt requestId zoneIds options).Issues Neutral := by
  refine generateAccreditation_issues ?_ ?_
  · rintro _ ⟨row, rfl, _⟩
    exact ⟨rfl, rfl, rfl⟩
  · rintro _ ⟨event, rfl⟩
    exact ⟨rfl, rfl, rfl⟩

/-- A slot reserved for a request of `pair`, or none. -/
def Taken {A : Type} (matchId categoryId : Uuid) (pair : Uuid × Uuid) (r : Except Failure A)
    (debt : Int) : Prop :=
  match r with
  | .ok _ => debt = if pair = (matchId, categoryId) then 1 else 0
  | .error _ => debt = 0

theorem reserveQuotaOrThrow_outline {request : AccreditationRequest}
    {input : DecideRequestUseCase.DecideRequestInput} (unforced : input.overrideQuota = false) :
    (DecideRequestUseCase.reserveQuotaOrThrow request input).Outline handle
      (slotDiscipline pairs quota matchId categoryId) (Taken matchId categoryId request.pair) 0 := by
  unfold DecideRequestUseCase.reserveQuotaOrThrow
  rw [if_neg (by simp [unforced])]
  refine Proc.outline_seq (reserveSlot_outline_slots _ _) fun r debt reserved => ?_
  cases r with
  | error why => exact reserved
  | ok result =>
      simp only [Reserved] at reserved
      simp only [outlined]
      by_cases got : result.reserved = true
      · simpa [got, Proc.Outline, Taken, AccreditationRequest.pair] using reserved
      · simpa [got, Proc.Outline, Taken, throw] using reserved

theorem decided_free {source : RequestStatus} {decision : DecideRequestUseCase.Decision}
    (allowed : decision.status ∈ requestTransitions source) : source.holdsSlot = false := by
  cases source <;> cases decision <;>
    simp_all [requestTransitions, DecideRequestUseCase.Decision.status, RequestStatus.holdsSlot,
      statusesWithReservedQuota]

theorem decide_outline (services : Services) (ambient : Ambient)
    {input : DecideRequestUseCase.DecideRequestInput} (unforced : input.overrideQuota = false) :
    (DecideRequestUseCase.execute services ambient input).Outline handle
      (slotDiscipline pairs quota matchId categoryId) (fun _ debt => debt = 0) 0 := by
  unfold DecideRequestUseCase.execute
  refine load_bind (fun request named known => guard_bind (fun allowed => ?_) fun _ => rfl) fun _ => rfl
  rw [← named] at known
  cases verdict : input.status with
  | rejected =>
      simp only [reduceCtorEq, if_false]
      have free := decided_free allowed
      have refused : input.status.status.holdsSlot = false := by rw [verdict]; rfl
      refine write_bind 0 known rfl ?_ (le_refl 0) fun _ => settled_of_neutral (announce_neutral _ _)
      simp only [DecideRequestUseCase.decisionWrite, weight_free free, weight_free refused]
      omega
  | validated =>
      simp only [if_true]
      have free := decided_free allowed
      have taken : input.status.status.holdsSlot = true := by rw [verdict]; rfl
      refine Proc.outline_seq (reserveQuotaOrThrow_outline unforced) ?_
      rintro (why | _) debt reserved
      · exact reserved
      · subst reserved
        refine write_bind 0 known rfl ?_ (le_refl 0) fun _ => ?_
        · simp only [DecideRequestUseCase.decisionWrite, weight_free free, weight_held taken]
          omega
        · refine neutral_bind (publish_neutral _) (fun _ => ?_) fun _ => rfl
          refine neutral_bind (generateAccreditation_neutral _ _ _ _ _ _) (fun _ => ?_) fun _ => rfl
          rw [← Proc.bind_done (issue _)]
          refine write_bind 0 known rfl ?_ (le_refl 0) fun _ => rfl
          have holds : RequestStatus.validated.holdsSlot = true := rfl
          have kept : RequestStatus.badgeGenerated.holdsSlot = true := rfl
          simp only [DecideRequestUseCase.badgeWrite, weight_held holds, weight_held kept]
          omega

theorem cancel_outline (input : CancelRequestUseCase.CancelRequestInput) :
    (CancelRequestUseCase.execute input).Outline handle (slotDiscipline pairs quota matchId categoryId)
      (fun _ debt => debt = 0) 0 := by
  unfold CancelRequestUseCase.execute
  refine load_bind (fun request named known => guard_bind (fun _ => ?_) fun _ => rfl) fun _ => rfl
  rw [← named] at known
  refine write_bind (weight matchId categoryId request.pair request.status) known rfl ?_ ?_
    fun updated => ?_
  · have gone : RequestStatus.cancelled.holdsSlot = false := rfl
    simp only [CancelRequestUseCase.cancelWrite, weight_free gone]
    omega
  · unfold weight
    split <;> omega
  -- The weight given up by the write is the debt that the release pays.
  · by_cases holds : request.status.holdsSlot = true
    · rw [if_pos holds, weight_held holds]
      refine Proc.outline_seq (releaseSlot_outline _ _) fun r debt released => ?_
      subst released
      cases r with
      | error why => rfl
      | ok done => exact settled_of_neutral (announce_neutral _ _)
    · rw [if_neg holds, weight_free (by simpa using holds)]
      exact settled_of_neutral (announce_neutral _ _)

/-- A decision without override, or a cancellation. -/
def Operation.movesSlots : Operation → Bool
  | .decide _ input => !input.overrideQuota
  | .cancel _ => true
  | _ => false

theorem footprint_calm {services : Services} {op : Operation} (moves : op.movesSlots = true)
    {stmt : Statement} (footprint : op.Footprint services stmt) :
    stmt.calm = true := by
  cases op <;> simp only [Operation.movesSlots, Bool.false_eq_true] at moves <;>
    simp only [Operation.Footprint, WritesTo, GrantsBadge, Publishes] at footprint <;>
      grind [Statement.calm]

theorem execute_outline (services : Services) {op : Operation} (moves : op.movesSlots = true) :
    (op.execute services).Outline handle (slotDiscipline pairs quota matchId categoryId)
      (fun _ debt => debt = 0) 0 := by
  have reply {A : Type} {p : Op A} {f : A → Reply}
      (settles : p.Outline handle (slotDiscipline pairs quota matchId categoryId) (fun _ debt => debt = 0) 0) :
      (do let value ← p; return f value : Op Reply).Outline handle
      (slotDiscipline pairs quota matchId categoryId)
        (fun _ debt => debt = 0) 0 := by
    refine Proc.outline_seq settles fun r debt settled => ?_
    cases r <;> exact settled
  cases op <;> simp only [Operation.movesSlots, Bool.false_eq_true, Bool.not_eq_true'] at moves
  case decide ambient input => exact reply (decide_outline services ambient moves)
  case cancel input => exact reply (cancel_outline input)

end Calls

end AccreditationBackend
