import AccreditationBackend.Iam.Service

/-! Media, and the profiles of the requesters who work for them. -/

set_option autoImplicit false

namespace AccreditationBackend

open Foundation (Proc)

def mediaNotFound : DomainError :=
  { code := "MEDIA_NOT_FOUND", message := "Media introuvable.", kind := .notFound }

structure CreateRequesterProfileDto where
  mediaId : Uuid
  firstName : String
  lastName : String
  birthDate : Option String := none
  nationality : Option String := none
  phone : String
  address : Option String := none
  function : String
  specialty : Option String := none
  pressCardNumber : Option String := none
  professionalPhone : Option String := none
  professionalEmail : Option String := none
  deriving DecidableEq, Repr

def getMedia (id : Uuid) : AuthOp Media := do
  let found ← Proc.query fun db => db.media.find (·.id == id)
  orRefuse found mediaNotFound

/-- `new Date(..)` of a text that is no date is refused by the database client. -/
def readBirthDate (services : AuthServices) (birthDate : Option String) : AuthOp (Option Time) :=
  match birthDate with
  | none => return none
  | some text =>
      if text = "" then return none
      else
        match services.parseDate text with
        | some date => return some date
        | none => Proc.fail (.failed .external)

/-- The text, if there is one, is a date. -/
def AuthServices.readable (services : AuthServices) (birthDate : Option String) : Bool :=
  birthDate.all fun text => text == "" || (services.parseDate text).isSome

theorem readBirthDate_done {services : AuthServices} {birthDate : Option String}
    (readable : services.readable birthDate = true) :
    ∃ date, readBirthDate services birthDate = .done date := by
  unfold readBirthDate
  cases birthDate with
  | none => exact ⟨none, rfl⟩
  | some text =>
      simp only [AuthServices.readable, Option.all_some, Bool.or_eq_true, beq_iff_eq] at readable
      dsimp only
      split
      · exact ⟨none, rfl⟩
      next given =>
        obtain ⟨date, parsed⟩ := Option.isSome_iff_exists.mp (readable.resolve_left given)
        exact ⟨some date, by rw [parsed]; rfl⟩

theorem readBirthDate_fails {services : AuthServices} {birthDate : Option String}
    (unreadable : services.readable birthDate = false) :
    readBirthDate services birthDate = .fail (.failed .external) := by
  unfold readBirthDate
  cases birthDate with
  | none => cases unreadable
  | some text =>
      simp only [AuthServices.readable, Option.all_some, Bool.or_eq_false_iff, beq_eq_false_iff_ne, ne_eq,
        Option.isSome_eq_false_iff, Option.isNone_iff_eq_none] at unreadable
      simp [unreadable]

def createRequesterProfile (services : AuthServices) (ambient : AuthAmbient) (userId : Uuid)
    (dto : CreateRequesterProfileDto) : AuthOp RegisteredProfile := do
  let _ ← getMedia dto.mediaId
  let birthDate ← readBirthDate services dto.birthDate
  writeAccount (.createProfile {
    id := ambient.freshProfileId
    userId
    mediaId := dto.mediaId
    firstName := dto.firstName
    lastName := dto.lastName
    birthDate
    nationality := dto.nationality
    phone := dto.phone
    address := dto.address
    function := dto.function
    specialty := dto.specialty
    pressCardNumber := dto.pressCardNumber
    professionalPhone := dto.professionalPhone
    professionalEmail := dto.professionalEmail })

def getRequesterProfileByUserId (userId : Uuid) : AuthOp (Option RegisteredProfile) :=
  Proc.query fun db => db.profileByUserId userId

end AccreditationBackend
