import AccreditationBackend.Media.Service

/-! The desk of an editor in chief, who registers the journalists of their own media. -/

set_option autoImplicit false

namespace AccreditationBackend

/-- A `mediaId` that the client names is ignored. -/
structure AddJournalistDto extends CreateRequesterProfileDto where
  mediaId := ""
  email : String
  temporaryPassword : String
  deriving DecidableEq, Repr

def assertEditor (userId : Uuid) : AuthOp RegisteredProfile := do
  let profile ← getRequesterProfileByUserId userId
  match profile.filter (·.isEditorInChief) with
  | some profile => return profile
  | none =>
      Foundation.Proc.fail
        (.forbidden "Cet espace est reserve aux redacteurs en chef habilites par la FSF.")

def addJournalist (services : AuthServices) (ambient : AuthAmbient) (userId : Uuid)
    (dto : AddJournalistDto) : AuthOp RegisteredProfile := do
  let editorProfile ← assertEditor userId
  let newUser ← createRequesterAccount services ambient dto.email dto.temporaryPassword
  createRequesterProfile services ambient newUser.id
    { dto.toCreateRequesterProfileDto with mediaId := editorProfile.mediaId }

end AccreditationBackend
