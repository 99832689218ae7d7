import AccreditationBackend.Requests.LoneRuns
import AccreditationBackend.Requests.StaleWrites

/-! Complements of one request resolved by several calls at once.

A resolution decides from the status it read at its start and from a count of
its own. The call that closes the last open complement read INFO_REQUESTED,
since a complement was still open when it read; until it writes, it owes the
request its return to the review.
-/

set_option autoImplicit false

namespace AccreditationBackend

open Foundation

def Tables.complementOf (t : Tables) (requestId id : Uuid) : Option RequestComplement :=
  (t.complements.find (·.id == id)).filter (·.requestId == requestId)

def Tables.hasOpen (t : Tables) (requestId id : Uuid) : Bool :=
  (t.complementOf requestId id).any (·.resolvedAt == none)

def Tables.ownerOf (t : Tables) (requestId : Uuid) : Option Uuid :=
  (t.requestById requestId).map (·.requesterId)

/-- The operation resolves a complement of the request for its owner. -/
def Operation.resolvesFor (requestId owner : Uuid) : Operation → Bool
  | .resolveComplement _ input => input.requestId == requestId && input.requesterId == owner
  | _ => false

/-- The statement leaves the request and its complements as they were. -/
def LeavesDossier (requestId : Uuid) (e : Event store Database) : Prop :=
  e.after.requestById requestId = e.before.requestById requestId ∧
    ∀ id, e.after.complementOf requestId id = e.before.complementOf requestId id

/-! ## What no call undoes -/

/-- The owner and the complements of a request stay, and a resolved complement stays resolved. -/
structure Onward (requestId : Uuid) (s t : Database) : Prop where
  owner : t.ownerOf requestId = s.ownerOf requestId
  known : ∀ id, (t.complementOf requestId id).isSome = (s.complementOf requestId id).isSome
  closed : ∀ id, t.hasOpen requestId id = true → s.hasOpen requestId id = true

section Onward

variable {requestId : Uuid} {s t u : Database}

theorem Onward.refl (requestId : Uuid) (s : Database) : Onward requestId s s :=
  ⟨rfl, fun _ => rfl, fun _ => id⟩

theorem Onward.trans (first : Onward requestId s t) (second : Onward requestId t u) :
    Onward requestId s u :=
  ⟨second.owner.trans first.owner, fun id => (second.known id).trans (first.known id),
    fun id still => first.closed id (second.closed id still)⟩

theorem hasOpen_iff {id : Uuid} :
    s.hasOpen requestId id = true ↔
      ∃ c ∈ s.complements.rows, c.id = id ∧ c.requestId = requestId ∧ c.resolvedAt = none := by
  simp only [Tables.hasOpen, Tables.complementOf, Option.any_eq_true, Option.filter_eq_some_iff,
    Table.find_some_iff (selects_complementId id), beq_iff_eq]
  grind

theorem openComplements_none :
    s.openComplements requestId = 0 ↔ ∀ id, s.hasOpen requestId id = false := by
  simp only [Tables.openComplements, Table.count, List.countP_eq_zero, Bool.and_eq_true, beq_iff_eq,
    not_and, ← Bool.not_eq_true, hasOpen_iff]
  grind

theorem Onward.none_open (onward : Onward requestId s t) (closed : s.openComplements requestId = 0) :
    t.openComplements requestId = 0 := by
  rw [openComplements_none] at closed ⊢
  intro id
  by_contra still
  have before := onward.closed id (by simpa using still)
  rw [closed id] at before
  cases before

theorem onward_left {e : Event store Database} (leaves : LeavesDossier requestId e) :
    Onward requestId e.before e.after where
  owner := by simp only [Tables.ownerOf, leaves.1]
  known id := by rw [leaves.2]
  closed id := by simp only [Tables.hasOpen, leaves.2, imp_self]

theorem complementOf_resolved (requestId : Uuid) {id : Uuid} (now : Time) {c : RequestComplement}
    (found : s.complements.find (·.id == id) = some c) (other : Uuid) :
    (handle.after (.resolveComplement id now) s).complementOf requestId other =
      (s.complementOf requestId other).map fun c => if c.id == id then resolve now c else c := by
  rw [Tables.complementOf, complements_resolved found,
    Table.find_update _ _ (resolve now) (resolve_key now) _ fun _ => rfl, Tables.complementOf]
  cases s.complements.find (·.id == other) with
  | none => rfl
  | some a => by_cases same : a.id = id <;> simp [same, resolve, Option.filter]

theorem onward_resolved (requestId : Uuid) {id : Uuid} (now : Time) {c : RequestComplement}
    (found : s.complements.find (·.id == id) = some c) :
    Onward requestId s (handle.after (.resolveComplement id now) s) ∧
      (handle.after (.resolveComplement id now) s).hasOpen requestId id = false := by
  have requests := requests_kept (show Quiet (.resolveComplement id now) from rfl) s
  have changed := complementOf_resolved requestId now found
  refine ⟨⟨?_, fun other => ?_, fun other still => ?_⟩, ?_⟩
  · simp only [Tables.ownerOf, Tables.requestById, requests]
  · rw [changed, Option.isSome_map]
  · rw [Tables.hasOpen, changed] at still
    rw [Tables.hasOpen]
    cases stored : s.complementOf requestId other with
    | none => simp [stored] at still
    | some a => by_cases same : a.id = id <;> simp_all [resolve]
  · rw [Tables.hasOpen, changed]
    cases stored : s.complementOf requestId id with
    | none => rfl
    | some a =>
        have named := beq_iff_eq.mp (Table.find_some_mem (Option.filter_eq_some_iff.mp stored).1).2
        simp [named, resolve]

theorem onward_written {w : StatusWrite} (alone : w.complement = none) :
    Onward requestId s (handle.after (.writeStatus w) s) := by
  have complements := complements_kept (show Statement.writesComplements (.writeStatus w) = false from by
    simp [Statement.writesComplements, alone]) s
  have same (id : Uuid) :
      (handle.after (.writeStatus w) s).complementOf requestId id = s.complementOf requestId id := by
    simp only [Tables.complementOf, complements]
  refine ⟨?_, fun id => by rw [same], fun id => by rw [Tables.hasOpen, same]; exact fun still => still⟩
  cases written : handle (.writeStatus w) s with
  | error why => rw [handle.after_error written]
  | ok result =>
      rw [handle.after_ok written, Tables.ownerOf, requestById_written written, Option.map_map]
      refine congrArg (Option.map · _) (funext fun r => ?_)
      simp only [Function.comp_apply]
      split <;> rfl

end Onward

/-! ## The outline of a resolution -/

/-- The request waits for its complements, or has none open and is back under review. -/
def Waits (requestId : Uuid) (db : Database) : Prop :=
  db.statusOf requestId = some .infoRequested ∨
    db.statusOf requestId = some .underReview ∧ db.openComplements requestId = 0

/-- What a statement does to the request: it leaves the status alone, and owes
the return if it closed the last complement, or it returns a request that has
none open. -/
def Wakes (requestId : Uuid) (owes : Bool) (e : Event store Database) (owes' : Bool) : Prop :=
  Onward requestId e.before e.after ∧
    (e.after.statusOf requestId = e.before.statusOf requestId ∧
        owes' = (owes || (e.before.openComplements requestId != 0 && e.after.openComplements requestId == 0)) ∨
      e.after.statusOf requestId = some .underReview ∧ e.after.openComplements requestId = 0 ∧
        owes' = false)

theorem wakes_left {requestId : Uuid} {e : Event store Database} (leaves : LeavesDossier requestId e) :
    Wakes requestId false e false := by
  refine ⟨onward_left leaves, .inl ⟨by simp only [Tables.statusOf, leaves.1], ?_⟩⟩
  have closed : e.after.openComplements requestId = 0 ↔ e.before.openComplements requestId = 0 := by
    simp only [openComplements_none, Tables.hasOpen, leaves.2]
  by_cases before : e.before.openComplements requestId = 0
  · simp [before]
  · simp [closed.not.mpr before]

/-- Calls for other requests leave the request alone, and owe it nothing. -/
def wakeDiscipline (requestId : Uuid) (resolving : Bool) : Discipline store Database Bool where
  Knows _ db := Waits requestId db
  Grants e := resolving = false → LeavesDossier requestId e
  Commits owes e owes' := Wakes requestId owes e owes' ∧ (owes' = true → owes = true ∨ resolving = true)

section Resolution

variable {requestId id : Uuid} {A : Type}

/-- The end of a resolution: whoever owes the return counts none open and makes it. -/
theorem return_recalls {status : RequestStatus} {value : A} {owes : Bool} {m : Database}
    (held : (m.ownerOf requestId).isSome = true) (resolved : m.hasOpen requestId id = false)
    (owed : owes = true → m.openComplements requestId = 0 ∧ status = .infoRequested) :
    (do
      let remainingOpen ← Proc.query fun db =>
        db.complements.count fun c => c.requestId == requestId && c.resolvedAt == none
      if remainingOpen = 0 ∧ status = .infoRequested then
        let _ ← issue (.writeStatus (returnWrite requestId status))
      return value : Op A).Recalls handle (wakeDiscipline requestId true) (Onward requestId)
      (fun _ owes m => owes = false ∧ m.hasOpen requestId id = false) owes m := by
  simp only [Proc.query_bind]
  intro s relied _
  have still (t : Database) (onward : Onward requestId m t) : t.hasOpen requestId id = false := by
    by_contra opened
    have before := onward.closed id (by simpa using opened)
    rw [resolved] at before
    cases before
  dsimp only
  split
  next closes =>
    intro t relied' _ _
    have onward :
        Onward requestId t (handle.after (.writeStatus (returnWrite requestId status)) t) :=
          onward_written rfl
    have stored : ∃ r, t.requestById requestId = some r := by
      rw [← relied.owner, ← relied'.owner, Tables.ownerOf, Option.isSome_map] at held
      exact Option.isSome_iff_exists.mp held
    obtain ⟨r, found⟩ := stored
    have written := handle_written (w := returnWrite requestId status) found rfl
    have none_ : t.openComplements requestId = 0 := relied'.none_open closes.1
    refine ⟨false, ⟨⟨onward, .inr ⟨?_, onward.none_open none_, rfl⟩⟩, fun _ => .inr rfl⟩, ?_⟩
    · exact statusOf_written written
    · rw [written]
      exact ⟨rfl, still _ ((relied.trans relied').trans onward)⟩
  next stays =>
    refine ⟨?_, still s relied⟩
    by_contra owing
    obtain ⟨closed, status⟩ := owed (by simpa using owing)
    exact stays ⟨relied.none_open closed, status⟩

theorem resolveComplement_recalls (ambient : Ambient)
    (input : ResolveComplementUseCase.ResolveComplementInput) {m : Database}
    (owner : m.ownerOf input.requestId = some input.requesterId) :
    (ResolveComplementUseCase.execute ambient input).Recalls handle (wakeDiscipline input.requestId true)
      (Onward input.requestId)
      (fun _ owes m => owes = false ∧ m.hasOpen input.requestId input.complementId = false) false m := by
  unfold ResolveComplementUseCase.execute
  rw [loadRequest_bind]
  intro s₀ relied₀ waits₀
  rw [← relied₀.owner] at owner
  obtain ⟨request, found, mine⟩ := Option.map_eq_some_iff.mp owner
  have loaded :
      (s₀.requestById input.requestId).filter (·.requesterId == input.requesterId) = some request :=
    Option.filter_eq_some_iff.mpr ⟨found, by simp [mine]⟩
  dsimp only
  rw [loaded, orThrow_some_bind, Proc.query_bind]
  intro s₁ relied₁ _
  dsimp only
  cases foundComplement : s₁.complementOf input.requestId input.complementId with
  | none =>
      rw [Tables.complementOf] at foundComplement
      rw [foundComplement]
      exact ⟨rfl, by rw [Tables.hasOpen, Tables.complementOf, foundComplement]; rfl⟩
  | some c₁ =>
      rw [Tables.complementOf] at foundComplement
      rw [foundComplement]
      intro s relied waits _
      -- The complement is still there when it is resolved.
      have there := relied.known input.complementId
      rw [Tables.complementOf, Tables.complementOf, foundComplement] at there
      obtain ⟨c, stored⟩ := Option.isSome_iff_exists.mp there
      have replied := handle_resolve (ambient.clock 0) (Option.filter_eq_some_iff.mp stored).1
      obtain ⟨onward, resolved⟩ := onward_resolved input.requestId (ambient.clock 0)
        (Option.filter_eq_some_iff.mp stored).1
      refine ⟨_, ⟨⟨onward, .inl ⟨?_, rfl⟩⟩, fun _ => .inr rfl⟩, ?_⟩
      · exact statusOf_congr (requests_kept (show Quiet (.resolveComplement _ _) from rfl) s) _
      · rw [replied]
        refine return_recalls ?_ resolved fun owing => ?_
        · rw [onward.owner, relied.owner, relied₁.owner, owner]
          rfl
        · simp only [Handler.event_before, Handler.event_after, Bool.false_or, Bool.and_eq_true,
            bne_iff_ne, beq_iff_eq] at owing
          refine ⟨owing.2, ?_⟩
          -- A complement was open when the request was read.
          rcases waits₀ with asked | ⟨_, closed⟩
          · rw [Tables.statusOf, found] at asked
            exact Option.some.inj asked
          · exact absurd ((relied₁.trans relied).none_open closed) owing.1

theorem execute_recalls (services : Services) {owner : Uuid} {op : Operation} {m : Database}
    (held : m.ownerOf requestId = some owner) :
    (op.execute services).Recalls handle (wakeDiscipline requestId (op.resolvesFor requestId owner))
      (Onward requestId)
      (fun _ owes m => op.resolvesFor requestId owner = true → owes = false ∧
        ∀ ambient input, op = .resolveComplement ambient input →
          m.hasOpen requestId input.complementId = false) false m := by
  cases resolves : op.resolvesFor requestId owner with
  | false =>
      have waiting :=
        Proc.recalls_granted handle (wakeDiscipline requestId false) (Onward requestId) false
          (fun stmt s granted => ⟨wakes_left (granted rfl), .inl⟩) (op.execute services) m
      rw [← Proc.bind_done (op.execute services)]
      refine Proc.recalls_seq waiting fun r g' m' _ => ?_
      cases r <;> exact fun resolves => by cases resolves
  | true =>
      cases op <;>
        simp only [Operation.resolvesFor, Bool.false_eq_true, Bool.and_eq_true, beq_iff_eq] at resolves
      case resolveComplement ambient input =>
        obtain ⟨rfl, rfl⟩ := resolves
        refine Proc.recalls_seq (resolveComplement_recalls ambient input held) fun r owes m' settled => ?_
        have told : True → owes = false ∧ ∀ ambient' input', Operation.resolveComplement ambient input =
            .resolveComplement ambient' input' →
              m'.hasOpen input.requestId input'.complementId = false := by
          refine fun _ => ⟨settled.1, fun _ input' same => ?_⟩
          cases same
          exact settled.2
        cases r <;> exact fun _ => told trivial

end Resolution

/-! ## Every interleaving -/

section Play

variable {ι : Type} [DecidableEq ι] {requestId owner : Uuid} {calls : ι → Operation}
  {start db : Database} {owes : ι → Bool}

/-- As soon as nothing is open, some call owes the return that has not been made. -/
structure Watched (requestId owner : Uuid) (calls : ι → Operation) (start db : Database)
    (owes : ι → Bool) : Prop where
  onward : Onward requestId start db
  waits : Waits requestId db
  owing : db.openComplements requestId = 0 →
    db.statusOf requestId = some .underReview ∨ ∃ i, owes i = true
  resolving : ∀ i, owes i = true → (calls i).resolvesFor requestId owner = true

theorem Watched.step (watched : Watched requestId owner calls start db owes) {i : ι}
    {stmt : Statement} {owes' : Bool}
    (commits : (wakeDiscipline requestId ((calls i).resolvesFor requestId owner)).Commits (owes i)
      (handle.event stmt db) owes') :
    Watched requestId owner calls start (handle.after stmt db) (Function.update owes i owes') := by
  obtain ⟨⟨onward, moved⟩, own⟩ := commits
  rw [Handler.event_before, Handler.event_after] at onward moved
  refine ⟨watched.onward.trans onward, ?_, fun closed => ?_, fun j owing => ?_⟩
  · rcases moved with ⟨same, _⟩ | ⟨returned, closed, _⟩
    · rcases watched.waits with asked | ⟨returned, closed⟩
      · exact .inl (same.trans asked)
      · exact .inr ⟨same.trans returned, onward.none_open closed⟩
    · exact .inr ⟨returned, closed⟩
  · rcases moved with ⟨same, owed⟩ | ⟨returned, _, _⟩
    · by_cases before : db.openComplements requestId = 0
      · rcases watched.owing before with returned | ⟨j, owing⟩
        · exact .inl (same.trans returned)
        · refine .inr ⟨j, ?_⟩
          by_cases this : j = i
          · subst this
            simp [owed, owing]
          · rwa [Function.update_of_ne this]
      -- This statement has closed the last complement.
      · exact .inr ⟨i, by simp [owed, before, closed]⟩
    · exact .inl returned
  · by_cases this : j = i
    · subst this
      rw [Function.update_self] at owing
      rcases own owing with before | resolves
      · exact watched.resolving j before
      · exact resolves
    · rw [Function.update_of_ne this] at owing
      exact watched.resolving j owing

/-- However its owner's resolutions interleave, a request waits for its
complements as long as one is open, and once they have all ended it is back
under review with none open. -/
theorem no_lost_wake_up (services : Services) (start : Database) (calls : ι → Operation) (schedule : List ι)
    {request : AccreditationRequest} (found : start.requestById requestId = some request)
    (asked : request.status = .infoRequested) (opened : 0 < start.openComplements requestId)
    (targeted : ∀ c ∈ start.complements.rows, c.requestId = requestId → c.resolvedAt = none →
      ∃ i ambient, calls i = .resolveComplement ambient ⟨requestId, c.id, request.requesterId⟩)
    (untouched : ∀ x ∈ ((operationPool services start calls).play handle schedule).1,
      (calls x.1).resolvesFor requestId request.requesterId = false → LeavesDossier requestId x.2) :
    (0 < ((operationPool services start calls).play handle schedule).2.store.openComplements requestId →
      ((operationPool services start calls).play handle schedule).2.store.statusOf requestId =
        some .infoRequested) ∧
    ((∀ i, (calls i).resolvesFor requestId request.requesterId = true →
        (((operationPool services start calls).play handle schedule).2.procs i).ended.isSome) →
      ((operationPool services start calls).play handle schedule).2.store.openComplements requestId = 0 ∧
        ((operationPool services start calls).play handle schedule).2.store.statusOf requestId =
          some .underReview) := by
  have owner : start.ownerOf requestId = some request.requesterId := by rw [Tables.ownerOf, found]; rfl
  have watched₀ : Watched requestId request.requesterId calls start start (fun _ => false) :=
    ⟨.refl requestId start, .inl (by rw [Tables.statusOf, found, ← asked]; rfl), fun closed => by omega, by simp⟩
  obtain ⟨owes, watched, recalls⟩ := Pool.play_recalls handle
    (fun i => wakeDiscipline requestId ((calls i).resolvesFor requestId request.requesterId))
    (R := Onward requestId) (J := fun _ => Watched requestId request.requesterId calls start)
    (F := fun _ i e => (calls i).resolvesFor requestId request.requesterId = false →
      LeavesDossier requestId e)
    (Onward.refl requestId) (fun _ _ _ => Onward.trans) (fun _ _ _ _ watched => watched.waits)
    (fun _ _ _ granted => granted)
    (fun _ _ _ _ _ _ watched _ commits => ⟨watched.step commits, commits.1.1⟩)
    schedule (operationPool services start calls) [] (fun _ => false) watched₀
    (fun i => ⟨start, .refl requestId start, execute_recalls services owner⟩)
    (fun front i e back split => untouched (i, e) (by rw [split]; simp))
  refine ⟨fun still => ?_, fun ended => ?_⟩
  · rcases watched.waits with asked | ⟨_, closed⟩
    · exact asked
    · omega
  · have settled (i : ι) (resolves : (calls i).resolvesFor requestId request.requesterId = true) :
        owes i = false ∧ ∀ ambient input, calls i = .resolveComplement ambient input →
          ((operationPool services start calls).play handle schedule).2.store.hasOpen requestId
          input.complementId =
            false := by
      obtain ⟨m, onward, told⟩ := recalls i
      obtain ⟨r, returned⟩ := Option.isSome_iff_exists.mp (ended i resolves)
      obtain ⟨clear, resolved⟩ := Proc.recalls_ended handle _ told returned resolves
      refine ⟨clear, fun ambient input same => ?_⟩
      by_contra still
      have before := onward.closed input.complementId (by simpa using still)
      rw [resolved ambient input same] at before
      cases before
    have closed :
        ((operationPool services start calls).play handle schedule).2.store.openComplements
        requestId = 0 := by
      rw [openComplements_none]
      intro id
      by_contra still
      obtain ⟨c, stored, rfl, ofRequest, unresolved⟩ :=
        hasOpen_iff.mp (watched.onward.closed id (by simpa using still))
      obtain ⟨i, ambient, call⟩ := targeted c stored ofRequest unresolved
      exact still ((settled i (by simp [call, Operation.resolvesFor])).2 ambient _ call)
    refine ⟨closed, (watched.owing closed).resolve_right ?_⟩
    rintro ⟨i, owing⟩
    rw [(settled i (watched.resolving i owing)).1] at owing
    cases owing

end Play

/-! ## Two complements, one of them resolved twice -/

/-- A dossier asked for a second complement while its first one is open. -/
def twoComplementsAsked : List Operation :=
  dossierUnderReview ++
    [.requestComplement { freshId := "photo" } ⟨"dossier", "agent", "photo", none, none⟩,
      .transition ⟨"dossier", .underReview, "agent", none⟩,
      .requestComplement { freshId := "letter" } ⟨"dossier", "agent", "letter", none, none⟩]

def twoComplements : Database := runFrom (perform sampleServices) (sampleDatabase 1) twoComplementsAsked

def photoTwice : Fin 3 → Uuid
  | 0 => "photo"
  | 1 => "letter"
  | 2 => "photo"

def resolveAll (i : Fin 3) : Operation := .resolveComplement {} ⟨"dossier", photoTwice i, "reporter"⟩

def closely : List (Fin 3) := [0, 1, 2, 0, 1, 2, 0, 1, 1, 1, 2, 0, 2, 2, 0]

/-- All three read INFO_REQUESTED; the second resolution of the photo returns the request after the first has. -/
theorem no_lost_wake_up_thrice :
    twoComplements.openComplements "dossier" = 2 ∧
    ((operationPool sampleServices twoComplements resolveAll).play handle closely).2.store.statusOf "dossier" =
      some .underReview := by
  refine ⟨by decide, ?_⟩
  obtain ⟨request, found, same⟩ : ∃ r, twoComplements.requestById "dossier" = some r ∧
      (r.status, r.requesterId) = (.infoRequested, "reporter") := Option.map_eq_some_iff.mp (by decide)
  obtain ⟨asked, owner⟩ := Prod.ext_iff.mp same
  have every : ∀ c ∈ twoComplements.complements.rows, ∃ i, photoTwice i = c.id := by decide
  have resolving (i : Fin 3) : (resolveAll i).resolvesFor "dossier" request.requesterId = true := by
    rw [show request.requesterId = "reporter" from owner]
    rfl
  have ended :
      ∀ i, (((operationPool sampleServices twoComplements resolveAll).play handle closely).2.procs
        i).ended.isSome := by
    decide
  refine ((no_lost_wake_up sampleServices twoComplements resolveAll closely found asked (by decide)
    (fun c stored _ _ => ?_) fun x _ other => ?_).2 fun i _ => ended i).2
  · obtain ⟨i, same⟩ := every c stored
    exact ⟨i, {}, by rw [← same, show request.requesterId = "reporter" from owner]; rfl⟩
  · cases (resolving x.1).symm.trans other

end AccreditationBackend
