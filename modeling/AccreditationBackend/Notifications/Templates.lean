import AccreditationBackend.Iam.Archive
import AccreditationBackend.Store.Statements

/-! The templates of the notifications: what an administrator has customised, over the defaults. -/

set_option autoImplicit false

namespace AccreditationBackend

open Foundation (Keyed Table)

structure NotificationTemplate where
  event : NotificationEvent
  channel : NotificationChannel := .email
  locale : String := "fr"
  subject : Option String := none
  bodyTemplate : String
  active : Bool := true
  deriving DecidableEq, Repr

instance : Keyed NotificationTemplate := Keyed.by fun t => (t.event, t.channel, t.locale)

structure TemplateText where
  subject : String
  body : String
  deriving DecidableEq, Repr

def notificationEvents : List NotificationEvent :=
  [.accountCreated, .requestReceived, .complementRequested, .requestValidated, .requestRejected,
    .badgeAvailable, .matchUpdated, .closureReminder, .accreditationRevoked]

def defaultTemplates : NotificationEvent → TemplateText
  | .accountCreated =>
      { subject := "Bienvenue sur la plateforme d'accreditation FSF"
        body := "<p>Bonjour,</p><p>Votre compte a bien ete cree. Vous pouvez desormais soumettre " ++
          "vos demandes d'accreditation.</p>" }
  | .requestReceived =>
      { subject := "Demande d'accreditation recue — \x7b\x7breference\x7d\x7d"
        body := "<p>Votre demande \x7b\x7breference\x7d\x7d a bien ete recue et est en cours de traitement.</p>" }
  | .complementRequested =>
      { subject := "Complement demande pour votre dossier \x7b\x7breference\x7d\x7d"
        body := "<p>Un element est manquant sur votre dossier \x7b\x7breference\x7d\x7d : " ++
          "<strong>\x7b\x7bmissingItem\x7d\x7d</strong>.</p><p>Merci de le fournir depuis votre espace demandeur.</p>" }
  | .requestValidated =>
      { subject := "Demande \x7b\x7breference\x7d\x7d validee"
        body := "<p>Votre demande \x7b\x7breference\x7d\x7d a ete validee. Votre badge est en cours de generation.</p>" }
  | .requestRejected =>
      { subject := "Demande \x7b\x7breference\x7d\x7d refusee"
        body := "<p>Votre demande \x7b\x7breference\x7d\x7d a ete refusee.</p><p>Motif : \x7b\x7breason\x7d\x7d</p>" }
  | .badgeAvailable =>
      { subject := "Votre badge est disponible — \x7b\x7breference\x7d\x7d"
        body := "<p>Votre accreditation est prete. Vous pouvez la telecharger depuis votre espace demandeur.</p>" }
  | .matchUpdated =>
      { subject := "Modification du match \x7b\x7bmatchLabel\x7d\x7d"
        body := "<p>Une information a change concernant le match \x7b\x7bmatchLabel\x7d\x7d : " ++
          "\x7b\x7bchangedFields\x7d\x7d.</p>" }
  | .closureReminder =>
      { subject := "Cloture prochaine des demandes — \x7b\x7bmatchLabel\x7d\x7d"
        body := "<p>La periode de depot des demandes pour \x7b\x7bmatchLabel\x7d\x7d se termine bientot.</p>" }
  | .accreditationRevoked =>
      { subject := "Votre accreditation a ete revoquee"
        body := "<p>Votre accreditation \x7b\x7breference\x7d\x7d a ete revoquee.</p><p>Motif : \x7b\x7breason\x7d\x7d</p>" }

structure UpsertTemplateDto where
  subject : String
  bodyTemplate : String
  active : Option Bool := none
  deriving DecidableEq, Repr

def UpsertTemplateDto.create (dto : UpsertTemplateDto) (event : NotificationEvent) :
    NotificationTemplate where
  event := event
  channel := .email
  locale := "fr"
  subject := some dto.subject
  bodyTemplate := dto.bodyTemplate
  active := dto.active.getD true

def UpsertTemplateDto.update (dto : UpsertTemplateDto) (t : NotificationTemplate) :
    NotificationTemplate :=
  { t with
    subject := some dto.subject
    bodyTemplate := dto.bodyTemplate
    active := dto.active.getD t.active }

theorem UpsertTemplateDto.update_key (dto : UpsertTemplateDto) (t : NotificationTemplate) :
    Keyed.key (dto.update t) = Keyed.key t := rfl

/-- The row of an event that is sent by e-mail in French. -/
def templateOf (event : NotificationEvent) (t : NotificationTemplate) : Bool :=
  t.event == event && t.channel == .email && t.locale == "fr"

/-! ## The service -/

namespace NotificationTemplatesService

structure EffectiveTemplate where
  event : NotificationEvent
  subject : String
  bodyTemplate : String
  customized : Bool
  active : Bool
  deriving DecidableEq, Repr

/-- The entry of a map built from the rows: the last row of the event, whatever its channel and locale. -/
def byEvent (templates : Table NotificationTemplate) (event : NotificationEvent) :
    Option NotificationTemplate :=
  (templates.rows.filter (·.event == event)).getLast?

def listEffective (templates : Table NotificationTemplate) : List EffectiveTemplate :=
  notificationEvents.map fun event =>
    let custom := byEvent templates event
    { event
      subject := (custom.bind (·.subject)).getD (defaultTemplates event).subject
      bodyTemplate := (custom.map (·.bodyTemplate)).getD (defaultTemplates event).body
      customized := custom.isSome
      active := (custom.map (·.active)).getD true }

def upsert (event : NotificationEvent) (dto : UpsertTemplateDto)
    (templates : Table NotificationTemplate) : Except Failure (Table NotificationTemplate) :=
  match templates.find (templateOf event) with
  | some _ => .ok (templates.update (templateOf event) dto.update dto.update_key)
  | none => orFail (templates.insert (dto.create event)) .uniqueViolation

end NotificationTemplatesService

namespace NotificationsService

/-- A row that is inactive, or without a subject, is passed over as a whole. -/
def source (templates : Table NotificationTemplate) (event : NotificationEvent) : TemplateText :=
  match (templates.find (templateOf event)).filter (·.active) with
  | none => defaultTemplates event
  | some template =>
      match template.subject.filter (· ≠ "") with
      | none => defaultTemplates event
      | some subject => { subject, body := template.bodyTemplate }

end NotificationsService

/-! ## After a sequence of upserts -/

abbrev TemplateUpsert := NotificationEvent × UpsertTemplateDto

def customise (templates : Table NotificationTemplate) (calls : List TemplateUpsert) :
    Except Failure (Table NotificationTemplate) :=
  calls.foldlM
    (fun templates call => NotificationTemplatesService.upsert call.1 call.2 templates) templates

/-- The texts last given for the event, with the flag in force: one that is absent keeps the flag before it. -/
def inForce (event : NotificationEvent) (before : Option (UpsertTemplateDto × Bool)) :
    List TemplateUpsert → Option (UpsertTemplateDto × Bool)
  | [] => before
  | call :: rest =>
      inForce event
        (if call.1 = event then some (call.2, call.2.active.getD ((before.map (·.2)).getD true)) else before) rest

/-- What is shown for the event is what is sent. -/
def ShownIsSent (templates : Table NotificationTemplate) (event : NotificationEvent) : Prop :=
  ∀ shown ∈ NotificationTemplatesService.listEffective templates, shown.event = event →
    shown.subject = (NotificationsService.source templates event).subject ∧
      shown.bodyTemplate = (NotificationsService.source templates event).body

/-- The row that holds the texts and the flag. -/
def customRow (event : NotificationEvent) (custom : UpsertTemplateDto × Bool) :
    NotificationTemplate where
  event := event
  subject := some custom.1.subject
  bodyTemplate := custom.1.bodyTemplate
  active := custom.2

/-- The rows are all sent by e-mail in French, and those of the event are what is in force. -/
structure Customised (templates : Table NotificationTemplate) (event : NotificationEvent)
    (custom : Option (UpsertTemplateDto × Bool)) : Prop where
  plain : ∀ t ∈ templates.rows, t.channel = .email ∧ t.locale = "fr"
  row : templates.find (templateOf event) = custom.map (customRow event)

section Upserts

variable {templates : Table NotificationTemplate} {event : NotificationEvent}
  {custom : Option (UpsertTemplateDto × Bool)}

theorem selects_templateOf (event : NotificationEvent) : Table.Selects (templateOf event) := by
  intro a b left right
  simp only [templateOf, Bool.and_eq_true, beq_iff_eq] at left right
  exact Prod.ext (left.1.1.trans right.1.1.symm)
    (Prod.ext (left.1.2.trans right.1.2.symm) (left.2.trans right.2.symm))

theorem Customised.upsert (customised : Customised templates event custom) (call : TemplateUpsert) :
    ∃ templates', NotificationTemplatesService.upsert call.1 call.2 templates = .ok templates' ∧
      Customised templates' event
        (if call.1 = event then some (call.2, call.2.active.getD ((custom.map (·.2)).getD true)) else custom) := by
  have row := customised.row
  unfold NotificationTemplatesService.upsert
  cases found : templates.find (templateOf call.1) with
  | some old =>
      refine ⟨_, rfl, fun t stored => ?_, ?_⟩
      · obtain ⟨a, before, rfl⟩ := (Table.mem_update _ _ _ _).mp stored
        split <;> exact customised.plain a before
      · rw [Table.find_update _ _ _ call.2.update_key _ fun _ => rfl]
        by_cases same : call.1 = event
        · -- The row of the event is rewritten, and keeps its flag where none is given.
          subst same
          obtain ⟨last, rfl, rfl⟩ := Option.map_eq_some_iff.mp (row.symm.trans found)
          rw [if_pos rfl, found, Option.map_some, if_pos (Table.find_some_mem found).2]
          rfl
        · rw [if_neg same, row]
          cases custom with
          | none => rfl
          | some last =>
              have other : templateOf call.1 (customRow event last) = false := by
                simp [templateOf, customRow, Ne.symm same]
              rw [Option.map_some, Option.map_some, other]
              rfl
  | none =>
      have accepted : ∃ templates', templates.insert (call.2.create call.1) = some templates' :=
        Table.insert_accepted.mpr fun a stored clash => by
          have missed := Table.find_eq_none.mp found a stored
          obtain ⟨own, rest⟩ := Prod.mk.inj clash
          obtain ⟨email, french⟩ := Prod.mk.inj rest
          simp only [UpsertTemplateDto.create] at own email french
          simp [templateOf, own, email, french] at missed
      obtain ⟨templates', inserted⟩ := accepted
      refine ⟨templates', by rw [inserted]; rfl, fun t stored => ?_, ?_⟩
      · rw [Table.insert_rows inserted, List.mem_append, List.mem_singleton] at stored
        rcases stored with before | rfl
        · exact customised.plain t before
        · exact ⟨rfl, rfl⟩
      · rw [Table.find_insert inserted]
        by_cases same : call.1 = event
        · subst same
          have fresh : custom = none := Option.map_eq_none_iff.mp (row.symm.trans found)
          rw [if_pos rfl, found, fresh]
          simp [templateOf, UpsertTemplateDto.create, customRow]
        · rw [if_neg same, row]
          simp [templateOf, UpsertTemplateDto.create, same]

theorem Customised.run (customised : Customised templates event custom) (calls : List TemplateUpsert) :
    ∃ templates', customise templates calls = .ok templates' ∧
      Customised templates' event (inForce event custom calls) := by
  induction calls generalizing templates custom with
  | nil => exact ⟨templates, rfl, customised⟩
  | cons call rest ih =>
      obtain ⟨next, upserted, after⟩ := customised.upsert call
      obtain ⟨templates', ran, later⟩ := ih after
      refine ⟨templates', ?_, later⟩
      rw [customise, List.foldlM_cons, upserted]
      exact ran

theorem Customised.byEvent (customised : Customised templates event custom) :
    NotificationTemplatesService.byEvent templates event = custom.map (customRow event) := by
  have plain :
      templates.rows.filter (·.event == event) = templates.rows.filter (templateOf event) := by
    refine List.filter_congr fun t stored => ?_
    obtain ⟨email, french⟩ := customised.plain t stored
    simp [templateOf, email, french]
  rw [NotificationTemplatesService.byEvent, plain, Table.filter_selects (selects_templateOf event),
    customised.row]
  cases custom <;> rfl

theorem mem_notificationEvents (event : NotificationEvent) : event ∈ notificationEvents := by
  cases event <;> decide

theorem Customised.source {dto : UpsertTemplateDto} {active : Bool}
    (customised : Customised templates event (some (dto, active))) :
    NotificationsService.source templates event =
      if active = true ∧ dto.subject ≠ "" then { subject := dto.subject, body := dto.bodyTemplate }
      else defaultTemplates event := by
  unfold NotificationsService.source
  rw [customised.row, Option.map_some]
  cases active with
  | false => rfl
  | true =>
      by_cases subject : dto.subject = "" <;> simp [customRow, Option.filter_some, subject]

theorem Customised.shown_iff (customised : Customised templates event custom) :
    ShownIsSent templates event ↔ ∀ dto active, custom = some (dto, active) →
      active = true ∧ dto.subject ≠ "" ∨
        dto.subject = (defaultTemplates event).subject ∧
        dto.bodyTemplate = (defaultTemplates event).body := by
  have shown : ShownIsSent templates event ↔
      (custom.map (·.1.subject)).getD (defaultTemplates event).subject =
          (NotificationsService.source templates event).subject ∧
        (custom.map (·.1.bodyTemplate)).getD (defaultTemplates event).body =
          (NotificationsService.source templates event).body := by
    have subject : ((custom.map (customRow event)).bind (·.subject)) = custom.map (·.1.subject) := by
      cases custom <;> rfl
    have body : ((custom.map (customRow event)).map (·.bodyTemplate)) =
      custom.map (·.1.bodyTemplate) := by
      cases custom <;> rfl
    rw [← subject, ← body, ← customised.byEvent]
    constructor
    · exact fun all => all _ (List.mem_map_of_mem (mem_notificationEvents event)) rfl
    · intro same shown listed named
      obtain ⟨other, _, rfl⟩ := List.mem_map.mp listed
      obtain rfl : other = event := named
      exact same
  rw [shown]
  cases custom with
  | none =>
      have passed : NotificationsService.source templates event = defaultTemplates event := by
        rw [NotificationsService.source, customised.row]
        rfl
      simp [passed]
  | some last =>
      obtain ⟨dto, active⟩ := last
      rw [customised.source]
      by_cases usable : active = true ∧ dto.subject ≠ ""
      · simp [usable]
      · simp [usable]

end Upserts

/-- After any sequence of upserts, what is shown for an event is what is sent exactly
when nobody has customised it, or its template is active and has a subject, or its
texts are the default ones. -/
theorem effective_template_sent (calls : List TemplateUpsert) (event : NotificationEvent) :
    ∃ templates, customise .empty calls = .ok templates ∧
      (ShownIsSent templates event ↔ ∀ dto active, inForce event none calls = some (dto, active) →
        active = true ∧ dto.subject ≠ "" ∨
          dto.subject = (defaultTemplates event).subject ∧
            dto.bodyTemplate = (defaultTemplates event).body) := by
  have empty : Customised .empty event none := ⟨fun t member => (List.not_mem_nil member).elim, rfl⟩
  obtain ⟨templates, ran, customised⟩ := empty.run calls
  exact ⟨templates, ran, customised.shown_iff⟩

/-- A template that is switched off is shown with its own texts, and the default ones are sent. -/
theorem inactive_template_shown :
    ¬ ∀ calls event, ∃ templates, customise .empty calls = .ok templates ∧
      ShownIsSent templates event := by
  intro claimed
  obtain ⟨templates, ran, shown⟩ := claimed
    [(.accountCreated, { subject := "Bonjour", bodyTemplate := "", active := some false })]
    .accountCreated
  have empty : Customised .empty .accountCreated none :=
    ⟨fun t member => (List.not_mem_nil member).elim, rfl⟩
  obtain ⟨templates', ran', customised⟩ := empty.run
    [(.accountCreated, { subject := "Bonjour", bodyTemplate := "", active := some false })]
  obtain rfl := Except.ok.inj (ran.symm.trans ran')
  have condition := customised.shown_iff.mp shown _ _ rfl
  revert condition
  decide

end AccreditationBackend
