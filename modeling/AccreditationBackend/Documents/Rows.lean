import AccreditationBackend.Store.Rows

/-! Rows of the documents: supporting pieces of a media, a requester or a request, in versions. -/

set_option autoImplicit false

namespace AccreditationBackend

open Foundation (Keyed)

inductive DocumentSubjectType where
  | media | requester | request
  deriving DecidableEq, Repr

inductive DocumentType where
  | cartePresse | pieceIdentite | photo | lettreMission | attestationMedia | autre
  deriving DecidableEq, Repr

inductive DocumentStatus where
  | pending | validated | rejected | superseded
  deriving DecidableEq, Repr

structure Document where
  id : Uuid
  subjectType : DocumentSubjectType
  subjectId : Uuid
  documentType : DocumentType
  version : Nat := 1
  status : DocumentStatus := .pending
  storageKey : String
  mimeType : String
  sizeBytes : Nat
  checksum : Option String := none
  rejectionReason : Option String := none
  uploadedById : Uuid
  reviewedById : Option Uuid := none
  reviewedAt : Option Time := none
  deriving DecidableEq, Repr

instance : Keyed Document := Keyed.by (·.id)

end AccreditationBackend
