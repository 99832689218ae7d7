import AccreditationBackend.Http.Adherence
import AccreditationBackend.Http.Controllers

/-! Every write of the routes goes through the guards.

Whatever requests to them are served at once, and in whatever order their steps come, a
statement is executed for somebody whose account was found active, and is one that
the policy allows this user; or it is the bookkeeping of a session.
-/

set_option autoImplicit false

namespace AccreditationBackend

open Foundation

/-! ## Who is let in -/

/-- The user is the holder of the token, as accounts that have been read show them. -/
structure Authenticated (read : Accounts → Prop) (payload : JwtPayload) (user : AuthenticatedUser) : Prop where
  account : ∃ accounts account, read accounts ∧ accounts.userById payload.sub = some account ∧
    account.status = .active ∧ user.id = account.id ∧ user.permissions = permissionsForRole account.role
  profile : ∀ id ∈ user.requesterProfileId, ∃ accounts profile, read accounts ∧
    accounts.profileByUserId user.id = some profile ∧ profile.id = id

/-- The write is one for everybody, or one that the holder of the token is permitted. -/
def HttpRequest.Mediated (request : HttpRequest) (read : Site → Prop) (e : Event siteStore Site) : Prop :=
  request.endpoint.route.isPublic = true ∧ SiteStatement.Open e.stmt ∨
    ∃ payload user, request.payload = some payload ∧
      Authenticated (fun accounts => ∃ site, read site ∧ site.accounts = accounts) payload user ∧
      SiteStatement.PermittedTo user e.before e.stmt

theorem Authenticated.mono {read read' : Accounts → Prop} (more : ∀ accounts, read accounts → read' accounts)
    {payload : JwtPayload} {user : AuthenticatedUser} (admitted : Authenticated read payload user) :
    Authenticated read' payload user where
  account := by
    obtain ⟨accounts, account, known, rest⟩ := admitted.account
    exact ⟨accounts, account, more accounts known, rest⟩
  profile id member := by
    obtain ⟨accounts, profile, known, rest⟩ := admitted.profile id member
    exact ⟨accounts, profile, more accounts known, rest⟩

theorem mediated_mono {request : HttpRequest} {read read' : Site → Prop} (more : ∀ site, read site → read' site)
    {e : Event siteStore Site} (mediated : request.Mediated read e) : request.Mediated read' e := by
  rcases mediated with opened | ⟨payload, user, held, admitted, permitted⟩
  · exact .inl opened
  · refine .inr ⟨payload, user, held, admitted.mono ?_, permitted⟩
    exact fun accounts ⟨site, known, same⟩ => ⟨site, more site known, same⟩

/-! ## The guards -/

section Guards

variable {R : Accounts → Accounts → Prop} {seen : List Accounts} {m : Accounts}

theorem validate_admits (payload : JwtPayload) :
    (JwtStrategy.validate payload).Judged handleAccount R (fun _ _ => False)
      (fun r seen' _ => ∀ user, r = .ok user → Authenticated (· ∈ seen') payload user) seen m := by
  unfold JwtStrategy.validate findById
  rw [Proc.query_bind]
  intro db _
  dsimp only
  cases live : (db.userById payload.sub).filter (·.status == .active) with
  | none => exact nofun
  | some account =>
      obtain ⟨found, active⟩ := Option.filter_eq_some_iff.mp live
      rw [orUnauthorized_some_bind]
      unfold toAuthenticatedUser
      cases account.kind with
      | staff =>
          rintro user ⟨⟩
          exact ⟨⟨db, account, by simp, found, beq_iff_eq.mp active, rfl, rfl⟩, by simp⟩
      | requester =>
          intro db' _
          rintro user ⟨⟩
          refine ⟨⟨db, account, by simp, found, beq_iff_eq.mp active, rfl, rfl⟩, fun id member => ?_⟩
          obtain ⟨profile, known, named⟩ := Option.map_eq_some_iff.mp member
          exact ⟨db', profile, by simp, known, named⟩

/-- The caller that the first guard lets through: nobody on a public route, the holder of the token on another. -/
def Vouched (route : Route) (payload : Option JwtPayload) (seen : List Accounts) (caller : Option AuthenticatedUser) :
    Prop :=
  route.isPublic = true ∧ caller = none ∨
    route.isPublic = false ∧ ∃ token user, payload = some token ∧ caller = some user ∧
      Authenticated (· ∈ seen) token user

theorem guard_admits (route : Route) (payload : Option JwtPayload) :
    (JwtAuthGuard.canActivate route payload).Judged handleAccount R (fun _ _ => False)
      (fun r seen' _ => ∀ caller, r = .ok caller → Vouched route payload seen' caller) seen m := by
  unfold JwtAuthGuard.canActivate
  split
  next opened =>
    rintro caller ⟨⟩
    exact .inl ⟨opened, rfl⟩
  next guarded =>
    cases payload with
    | none => exact nofun
    | some token =>
        rw [orUnauthorized_some_bind]
        refine Proc.judged_seq (validate_admits token) (fun user seen' _ admits => ?_) fun _ _ _ _ => nofun
        rintro caller ⟨⟩
        exact .inr ⟨by simpa using guarded, token, user, rfl, rfl, admits user rfl⟩

theorem permissions_held {permission : Permission} {user : AuthenticatedUser}
    (passed : PermissionsGuard.canActivate (guardedBy permission) (some user) = .ok true) :
    permission ∈ user.permissions := by
  simpa [PermissionsGuard.canActivate, guardedBy, Route.isPublic, Route.required, Route.getAllAndOverride] using passed

end Guards

/-! ## The routes -/

section Routes

variable {services : SiteServices} {user : AuthenticatedUser} {seen : List Site} {m : Site}

/-- Whatever the site becomes in between, the procedure executes what is permitted to the user. -/
def StaysWithin {A : Type} (user : AuthenticatedUser) (p : SiteOp A) (seen : List Site) (m : Site) : Prop :=
  p.Judged handleSite SiteKeeps (fun _ e => SiteStatement.PermittedTo user e.before e.stmt) (fun _ _ _ => True) seen m

theorem answer_within {A B : Type} {p : SiteOp A} {f : A → B} (stays : StaysWithin user p seen m) :
    StaysWithin user (do let value ← p; return f value) seen m :=
  Proc.judged_seq stays (fun _ _ _ _ => trivial) fun _ _ _ _ => trivial

theorem silent_within {A : Type} {p : SiteOp A} (silent : p.Issues fun _ => False) : StaysWithin user p seen m :=
  Proc.judged_mono (Proc.judged_issues silent seen m) (fun _ _ kept => kept) (fun _ _ nothing => nothing.elim)
    fun _ _ _ _ => trivial

theorem getForRequest_issues {P : SiteStatement → Prop} (requestId : Uuid) (expected : Option Uuid) :
    (getForRequest requestId expected).Issues P := by
  intro site
  simp only [Proc.bind]
  split
  · trivial
  · split <;> trivial

theorem operate_within {op : Operation}
    (stays : (op.execute services.toServices).StaysPermitted user (seen.map Site.db) m.db) :
    StaysWithin user (operate services op) seen m :=
  answer_within (Proc.within_judged databasePart (fun _ _ kept => kept.db) (fun _ _ _ permitted => permitted)
    (fun _ _ _ _ => trivial) (fun _ _ _ _ => trivial) stays)

theorem staff_within {op : Operation} {permission : Permission} (required : op.permission = some permission)
    (passed : PermissionsGuard.canActivate (guardedBy permission) (some user) = .ok true)
    (self : ∀ id ∈ op.author, id = user.id) : StaysWithin user (operate services op) seen m :=
  operate_within (staff_permitted required (permissions_held passed) self _ _)

theorem administer_judged {op : UserOperation} {F : AccountStatement → Prop} {P : Event siteStore Site → Prop}
    (issues : (op.execute services.auth).Issues F)
    (allowed : ∀ stmt site, F stmt → P (handleSite.event (.account stmt) site)) :
    (administer services op).Judged handleSite SiteKeeps (fun _ e => P e) (fun _ _ _ => True) seen m := by
  have judged := Proc.judged_issues (h := handleAccount) (R := fun _ _ => True) issues (seen.map Site.accounts)
    m.accounts
  refine Proc.judged_seq (Proc.within_judged accountsPart (Q := fun _ _ _ => True) (fun _ _ _ => trivial)
    (fun _ stmt site own => allowed stmt site own) ?_ ?_ judged) ?_ ?_ <;> exact fun _ _ _ _ => trivial

theorem managed_within {op : UserOperation} (held : .usersManage ∈ user.permissions)
    (manages : ∀ stmt, op.Footprint stmt → .usersManage ∈ user.permissions → stmt.AllowedTo user) :
    StaysWithin user (administer services op) seen m :=
  administer_judged (user_issues services.auth op) fun stmt _ footprint => manages stmt footprint held

/-- A call on the documents, judged by the whole site that the call stands in. -/
theorem file_within {op : DocumentOperation} {F : Documents → DocumentStatement → Prop}
    (judged : (op.execute services.documents).Judged handleDocument KeepsPieces (fun _ e => F e.before e.stmt)
      (fun _ _ _ => True) (seen.map Site.documents) m.documents)
    (allowed : ∀ stmt site, SiteKeeps m site → F site.documents stmt → stmt.AllowedTo user site) :
    StaysWithin user (file services op) seen m := by
  have whole : ((op.execute services.documents).within documentsPart).Judged handleSite SiteKeeps
      (fun _ e => ∃ stmt, e.stmt = .document stmt ∧ F e.before.documents stmt) (fun _ _ _ => True) seen m :=
    Proc.within_judged documentsPart (fun _ _ kept => kept.pieces) (fun _ stmt _ filed => ⟨stmt, rfl, filed⟩)
      (fun _ _ _ _ => trivial) (fun _ _ _ _ => trivial) judged
  refine answer_within (Proc.judged_mono (Proc.judged_relies SiteKeeps.refl (fun _ _ _ => SiteKeeps.trans)
    (fun _ stmt site _ => site_keeps stmt site) whole) (fun _ _ moved => moved) ?_ fun _ _ _ _ => trivial)
  rintro _ ⟨stmt, before⟩ ⟨kept, stmt', rfl, filed⟩
  exact allowed stmt' before kept.1 filed

theorem upload_within {documentType : DocumentType} {ambient : DocumentAmbient} {subjectType : DocumentSubjectType}
    {subjectId : Uuid} {upload : UploadFileInput}
    (may : .mediaManage ∈ user.permissions ∨ subjectType = .request ∧ user.Owns m.db.toTables subjectId) :
    StaysWithin user (file services (.upload ambient subjectType subjectId documentType upload user.id)) seen m := by
  refine file_within (F := fun t stmt => stmt.FiledFor user.id subjectType subjectId t)
    (upload_files services.documents ambient subjectType subjectId documentType upload user.id _ _)
    fun stmt site kept filed => ?_
  have still : .mediaManage ∈ user.permissions ∨ subjectType = .request ∧ user.Owns site.db.toTables subjectId :=
    may.imp_right fun own => ⟨own.1, kept.db.owns own.2⟩
  cases stmt with
  | publish event => trivial
  | putObject object =>
      obtain ⟨name, key⟩ := filed
      refine still.imp_right ?_
      rintro ⟨rfl, owns⟩
      exact ⟨subjectId, name, owns, key⟩
  | addVersion previous row =>
      obtain ⟨uploaded, rfl, rfl, pieces⟩ := filed
      exact ⟨uploaded, still, pieces⟩
  | updateReview id data => exact filed.elim

theorem requireProfile_within {A : Type} {f : Uuid → SiteOp A}
    (rest : ∀ profile, user.requesterProfileId = some profile → profile ≠ "" → StaysWithin user (f profile) seen m) :
    StaysWithin user (requireProfile user >>= f) seen m := by
  unfold requireProfile
  cases known : user.requesterProfileId.filter (· != "") with
  | none => trivial
  | some profile =>
      obtain ⟨own, named⟩ := Option.filter_eq_some_iff.mp known
      exact rest profile own (by simpa using named)

theorem requestView_request {t : Tables} {id : Uuid} {view : RequestView} (found : t.requestView id = some view) :
    t.requestById id = some view.detail.request := by
  simp only [Tables.requestView, Tables.requestDetail, Option.bind_eq_bind, Option.bind_eq_some_iff,
    Option.pure_def, Option.some.injEq] at found
  grind

/-- What follows the check of the owner acts for the owner. -/
theorem ownRequest_within {A : Type} {id : Uuid} {f : RequestAnswer → SiteOp A}
    (rest : ∀ answer seen' m', user.Owns m'.db.toTables id → StaysWithin user (f answer) seen' m') :
    StaysWithin user (RequestsController.ownRequest user id >>= f) seen m := by
  unfold RequestsController.ownRequest GetRequestQuery.execute
  simp only [Proc.query_bind, Proc.read_bind]
  intro s _
  dsimp only
  cases found : s.db.requestView id with
  | none => trivial
  | some view =>
      simp only [Proc.read_bind, Proc.done_bind, Proc.pure_eq]
      intro s₁ kept
      unfold requireProfile
      cases known : user.requesterProfileId.filter (· != "") with
      | none => trivial
      | some profile =>
          dsimp only
          rw [Proc.done_bind]
          split
          · trivial
          next own =>
            have holder := (Option.filter_eq_some_iff.mp known).1
            have owns := owns_loaded holder (requestView_request found) (not_not.mp own)
            exact rest _ _ _ (kept.db.owns ⟨_, owns⟩)

theorem handle_within {endpoint : Endpoint} {around : Surroundings}
    (guarded : endpoint.route.isPublic = false)
    (passed : PermissionsGuard.canActivate endpoint.route (some user) = .ok true) :
    StaysWithin user (endpoint.handle services around (some user)) seen m := by
  cases endpoint with
  | createDraft dto =>
      refine requireProfile_within fun profile own _ => operate_within ?_
      exact reply_permitted (saveDraft_permitted _ own)
  | submit id =>
      refine requireProfile_within fun profile own _ => operate_within ?_
      exact reply_permitted (submit_permitted _ own rfl)
  | resolve id complementId =>
      refine requireProfile_within fun profile own _ => operate_within ?_
      exact reply_permitted (resolveComplement_permitted _ own)
  | cancelOwn id =>
      refine requireProfile_within fun profile own named => operate_within ?_
      exact reply_permitted (cancel_permitted own named rfl rfl)
  | listOwn query =>
      refine requireProfile_within fun profile _ _ => ?_
      exact fun _ _ _ _ => trivial
  | getOwn id => exact ownRequest_within fun _ _ _ _ => trivial
  | uploadDocument id documentType upload =>
      refine ownRequest_within fun _ _ _ owns => ?_
      cases documentType with
      | none => trivial
      | some documentType => exact upload_within (.inr ⟨rfl, owns⟩)
  | badge requestId | badgeUrl requestId | qrUrl requestId =>
      refine requireProfile_within fun profile _ _ => answer_within (silent_within ?_)
      exact getForRequest_issues requestId (some profile)
  | depositDocument dto upload => exact upload_within (.inl (permissions_held passed))
  | reviewDocument id status rejectionReason =>
      refine file_within (F := fun _ stmt => (∃ event, stmt = .publish event) ∨
        ∃ id data, stmt = .updateReview id data ∧ data.reviewedById = user.id)
        (Proc.judged_issues (review_issues _ id status user.id rejectionReason) _ _) ?_
      rintro stmt site _ (⟨event, rfl⟩ | ⟨id, data, rfl, reviewed⟩)
      · trivial
      · exact ⟨permissions_held passed, reviewed⟩
  | complement id dto => exact staff_within rfl passed (by simp [Operation.author])
  | transition id toStatus => exact staff_within rfl passed (by simp [Operation.author])
  | decide id dto => exact staff_within rfl passed (by simp [Operation.author])
  | cancel id => exact staff_within rfl passed (by simp [Operation.author])
  | revoke id reason => exact staff_within rfl passed (by simp [Operation.author])
  | updateAssignments id dto => exact staff_within rfl passed (by simp [Operation.author])
  | setQuota matchId dto => exact staff_within rfl passed (by simp [Operation.author])
  | updateMatch id dto => exact staff_within rfl passed (by simp [Operation.author])
  | scan dto => exact staff_within rfl passed (by simp [Operation.author])
  | syncOffline scans => exact staff_within rfl passed (by simp [Operation.author])
  | createUser dto =>
      refine managed_within (permissions_held passed) fun stmt footprint held => ?_
      rcases footprint with ⟨event, rfl⟩ | ⟨row, rfl, staff, _⟩
      · trivial
      · exact ⟨held, staff⟩
  | updateUser id dto =>
      refine managed_within (permissions_held passed) fun stmt footprint held => ?_
      rcases footprint with ⟨event, rfl⟩ | ⟨data, rfl, _, status⟩
      · trivial
      · exact .inl ⟨held, fun _ => status⟩
  | resetPassword id newTemporaryPassword =>
      refine managed_within (permissions_held passed) fun stmt footprint held => ?_
      rcases footprint with ⟨event, rfl⟩ | ⟨data, revokedAt, rfl, role, status⟩
      · trivial
      · exact ⟨held, role, status⟩
  | updateUserStatus id status =>
      refine managed_within (permissions_held passed) fun stmt footprint held => ?_
      rcases footprint with ⟨event, rfl⟩ | ⟨other, data, rfl, _, _⟩
      · trivial
      · exact .inl ⟨held, fun same => absurd same other⟩
  | removeUser id =>
      refine managed_within (permissions_held passed) fun stmt footprint held => ?_
      rcases footprint with ⟨event, rfl⟩ | ⟨other, rfl⟩
      · trivial
      · exact ⟨held, other⟩
  | updateDisplayName displayName =>
      refine administer_judged (F := (· = .updateUser user.id { displayName := some (some displayName) }))
        ⟨rfl, fun _ => trivial⟩ ?_
      rintro _ _ rfl
      exact .inr ⟨rfl, rfl, rfl, rfl⟩
  | login => cases guarded
  | refresh => cases guarded
  | logout => cases guarded

/-- A public route opens or closes a session. -/
theorem handle_opens {endpoint : Endpoint} {around : Surroundings}
    (opened : endpoint.route.isPublic = true) :
    (endpoint.handle services around none).Judged handleSite SiteKeeps (fun _ e => SiteStatement.Open e.stmt)
      (fun _ _ _ => True) seen m := by
  cases endpoint with
  | login email password context =>
      refine administer_judged (P := fun e => SiteStatement.Open e.stmt) (user_issues services.auth _) ?_
      rintro _ _ (⟨event, rfl⟩ | ⟨id, data, rfl, counts⟩ | ⟨row, rfl⟩)
      · trivial
      · exact counts
      · trivial
  | refresh token context =>
      refine administer_judged (P := fun e => SiteStatement.Open e.stmt) (user_issues services.auth _) ?_
      rintro _ _ (⟨id, revokedAt, rfl⟩ | ⟨row, rfl⟩) <;> trivial
  | logout token =>
      refine administer_judged (P := fun e => SiteStatement.Open e.stmt) (user_issues services.auth _) ?_
      rintro _ _ ⟨tokenHash, revokedAt, rfl⟩
      trivial
  | _ => cases opened

theorem passed_true {route : Route} {caller : Option AuthenticatedUser} {passed : Bool}
    (result : PermissionsGuard.canActivate route caller = .ok passed) : passed = true := by
  unfold PermissionsGuard.canActivate at result
  grind

/-- A request, from the guards to its last statement. -/
theorem execute_mediated (request : HttpRequest) :
    (request.execute services).Judged handleSite SiteKeeps
      (fun seen' e => request.Mediated (· ∈ seen') e) (fun _ _ _ => True) seen m := by
  refine Proc.judged_seq (Proc.within_judged accountsPart (fun _ _ _ => trivial) (fun _ _ _ => False.elim)
    (Q := fun r seen' _ => ∀ caller, r = .ok caller →
      Vouched request.endpoint.route request.payload (seen'.map Site.accounts) caller)
        (fun _ _ _ admits _ returned => admits _ (Except.ok.inj returned ▸ rfl)) (fun _ _ _ _ => nofun)
    (guard_admits (R := fun _ _ => True) request.endpoint.route request.payload)) (fun caller seen' m' admits => ?_)
    fun _ _ _ _ => trivial
  rcases admits caller rfl with ⟨opened, rfl⟩ | ⟨guarded, token, user, held, rfl, admitted⟩
  · have passed : PermissionsGuard.canActivate request.endpoint.route none = .ok true := by
      simp [PermissionsGuard.canActivate, opened]
    rw [passed]
    exact Proc.judged_mono (handle_opens opened) (fun _ _ kept => kept)
      (fun _ _ open_ => .inl ⟨opened, open_⟩) fun _ _ _ _ => trivial
  · cases result : PermissionsGuard.canActivate request.endpoint.route (some user) with
    | error why => trivial
    | ok passed =>
        rw [passed_true result] at result
        refine Proc.judged_mono (Proc.judged_grows (handle_within guarded result)) (fun _ _ kept => kept) ?_
          fun _ _ _ _ => trivial
        rintro seen'' e ⟨more, permitted⟩
        refine .inr ⟨token, user, held, admitted.mono fun accounts known => ?_, permitted⟩
        obtain ⟨site, read, same⟩ := List.mem_map.mp known
        exact ⟨site, more read, same⟩

end Routes

/-- Whatever is served at once, a turn writes for a user whose account was active
at some moment before it, and what the policy allows that user at this one; or it
opens or closes a session. -/
theorem writes_mediated {ι : Type} [DecidableEq ι] (services : SiteServices) (start : Site)
    (requests : ι → HttpRequest) (front : List ι) (i : ι) :
    ∀ e ∈ (((sitePool services start requests).play handleSite front).2.turn handleSite i).1,
      (requests e.1).Mediated ((sitePool services start requests).Visits handleSite front) e.2 := by
  intro e member
  obtain ⟨seen, visited, mediated⟩ := Pool.play_judged
    (P := fun i seen e => (requests i).Mediated (· ∈ seen) e) (Q := fun _ _ _ _ => True) SiteKeeps.refl
    (fun _ _ _ => SiteKeeps.trans) (fun _ _ stmt site _ => site_keeps stmt site)
    (fun i => execute_mediated (requests i)) front i e member
  exact mediated_mono visited mediated

def sampleSiteServices : SiteServices where
  toServices := sampleServices
  auth := sampleAuth
  documents := ⟨{}, fun _ => ""⟩
  signedDownloadUrl _ key := key

/-- A reporter with a draft, and an editor of the same medium. -/
def newsroom : Site where
  accounts := {
    users := ⟨[
      { id := "awa", email := "awa@daily.sn", passwordHash := "secret", kind := .requester, status := .active },
      { id := "binta", email := "binta@daily.sn", passwordHash := "secret", kind := .requester, status := .active }],
      by simp [Keyed.Clash, Keyed.key]⟩
    media := (sampleDatabase 0).media
    profiles := ⟨[
      { id := "reporter", userId := "awa", mediaId := "daily", firstName := "Awa", lastName := "Fall", phone := ""
        function := "press" },
      { id := "editor", userId := "binta", mediaId := "daily", firstName := "Binta", lastName := "Sow", phone := ""
        function := "press" }], by simp [Keyed.Clash, Keyed.key]⟩
    referential := ⟨by simp [Table.column, Table.empty], by simp [Table.column],
      by simp [sampleDatabase, Table.column], Archive.within_empty _ _⟩ }
  db :=
    { sampleDatabase 0 with
      requesters := ⟨[
        { id := "reporter", mediaId := "daily", firstName := "Awa", lastName := "Fall", function := "press" },
        { id := "editor", mediaId := "daily", firstName := "Binta", lastName := "Sow", function := "press" }],
        by simp [Keyed.Clash, Keyed.key]⟩
      requests := ⟨[{
          id := "interview"
          uniqueReference := "FSF-2026-414011"
          requesterId := "reporter"
          matchId := "final"
          categoryRequestedId := "press" }], List.pairwise_singleton _ _⟩
      referential := by constructor <;> simp [sampleDatabase, Table.column, Table.empty] }
  documents := { users := ["awa", "binta"] }

/-- The reporter lists what there is while the editor starts a draft. -/
def listAndDraft (editor : Bool) : HttpRequest :=
  if editor then {
    endpoint := .createDraft { matchId := "final", categoryRequestedId := "press" }
    payload := some ⟨"binta"⟩
    around := { toAmbient := { freshId := "other" } } }
  else { endpoint := .listOwn {}, payload := some ⟨"awa"⟩ }

/-- The draft itself, once all that it depends on has been read. -/
theorem writes_mediated_newsroom :
    ∃ e ∈ (((sitePool sampleSiteServices newsroom listAndDraft).play handleSite (List.replicate 6 true)).2.turn
        handleSite true).1,
      (listAndDraft e.1).Mediated
        ((sitePool sampleSiteServices newsroom listAndDraft).Visits handleSite (List.replicate 6 true)) e.2 :=
  ⟨_, List.mem_singleton_self _, writes_mediated sampleSiteServices newsroom listAndDraft (List.replicate 6 true) true
    _ (List.mem_singleton_self _)⟩

end AccreditationBackend
