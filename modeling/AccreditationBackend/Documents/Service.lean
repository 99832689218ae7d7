import AccreditationBackend.Documents.Rows
import AccreditationBackend.Foundation.Procedure
import AccreditationBackend.Foundation.Runs
import AccreditationBackend.Store.Integrity

/-! Documents: the upload of a piece, which supersedes an earlier version, and its review. -/

set_option autoImplicit false

namespace AccreditationBackend

open Foundation (Table Interface Handler Proc)

inductive DocumentEvent where
  | uploaded (documentId : Uuid) (subjectType : DocumentSubjectType) (subjectId : Uuid)
  | reviewed (documentId : Uuid) (subjectType : DocumentSubjectType) (subjectId : Uuid)
      (status : DocumentStatus)
      (reason : Option String)
  deriving DecidableEq, Repr

abbrev Buffer := List UInt8

structure UploadFileInput where
  buffer : Buffer
  mimetype : String
  size : Nat
  originalname : String
  deriving DecidableEq, Repr

structure StoredObject where
  key : String
  body : Buffer
  contentType : String
  deriving DecidableEq, Repr

structure Documents where
  users : List Uuid := []
  documents : Table Document := .empty
  /-- The object storage. -/
  objects : List StoredObject := []
  /-- Published on the in-process bus, in order. -/
  events : List DocumentEvent := []

/-! ## Statements -/

/-- The two outcomes of a review. -/
inductive ReviewStatus where
  | validated | rejected
  deriving DecidableEq, Repr

def ReviewStatus.toStatus : ReviewStatus → DocumentStatus
  | .validated => .validated
  | .rejected => .rejected

def Document.supersede (d : Document) : Document := { d with status := .superseded }

structure ReviewData where
  status : ReviewStatus
  rejectionReason : Option String
  reviewedById : Uuid
  reviewedAt : Time
  deriving DecidableEq, Repr

/-- A reason that is `undefined` leaves the column as it is. -/
def ReviewData.apply (data : ReviewData) (d : Document) : Document :=
  { d with
    status := data.status.toStatus
    rejectionReason := data.rejectionReason.or d.rejectionReason
    reviewedById := some data.reviewedById
    reviewedAt := some data.reviewedAt }

theorem Document.supersede_key (d : Document) :
    Foundation.Keyed.key d.supersede = Foundation.Keyed.key d := rfl

theorem ReviewData.apply_key (data : ReviewData) (d : Document) :
    Foundation.Keyed.key (data.apply d) = Foundation.Keyed.key d := rfl

inductive DocumentStatement where
  | publish (event : DocumentEvent)
  | putObject (object : StoredObject)
  /-- One `$transaction`: the previous version is superseded, and the new one created. -/
  | addVersion (previous : Option Uuid) (row : Document)
  | updateReview (id : Uuid) (data : ReviewData)

abbrev DocumentStatement.Reply : DocumentStatement → Type
  | .publish _ => Unit
  | .putObject _ => Unit
  | .addVersion .. => Document
  | .updateReview .. => Document

abbrev documentStore : Interface := ⟨DocumentStatement, DocumentStatement.Reply⟩

def Documents.superseding (previous : Option Uuid) (t : Documents) : Except Failure (Table Document) :=
  match previous with
  | none => .ok t.documents
  | some id => do
      let _ ← orFail (t.documents.find (·.id == id)) .recordNotFound
      return t.documents.update (·.id == id) Document.supersede Document.supersede_key

def Documents.apply : (stmt : DocumentStatement) → Documents → Except Failure (stmt.Reply × Documents)
  | .publish event, t => .ok ((), { t with events := t.events ++ [event] })
  | .putObject object, t =>
      .ok ((), { t with objects := t.objects.filter (·.key != object.key) ++ [object] })
  | .addVersion previous row, t => do
      let documents ← t.superseding previous
      require (row.uploadedById ∈ t.users) .foreignKeyViolation
      let documents ← orFail (documents.insert row) .uniqueViolation
      return (row, { t with documents })
  | .updateReview id data, t => do
      let d ← orFail (t.documents.find (·.id == id)) .recordNotFound
      require (data.reviewedById ∈ t.users) .foreignKeyViolation
      return (data.apply d, { t with documents := t.documents.update (·.id == id) data.apply data.apply_key })

def handleDocument : Handler documentStore Documents Failure := fun stmt t => t.apply stmt

abbrev DocumentOp (A : Type) := Proc documentStore Documents Failure A

def writeDocument (stmt : DocumentStatement) : DocumentOp stmt.Reply :=
  Proc.command (I := documentStore) stmt

theorem writeDocument_bind {B : Type} (stmt : DocumentStatement) (g : stmt.Reply → DocumentOp B) :
    (writeDocument stmt >>= g) = .exec stmt g := rfl

/-! ## Service -/

structure StorageConfig where
  maxFileSizeBytes : Nat := 10 * 1024 * 1024
  allowedMimeTypes : List String := ["application/pdf", "image/jpeg", "image/png", "image/webp"]
  deriving DecidableEq, Repr

structure DocumentServices where
  config : StorageConfig := {}
  /-- In hexadecimal. -/
  sha256 : Buffer → String

/-- What one call draws from its surroundings. `choice` settles which of several
rows of one version is found; `storageFails` says that the object storage does. -/
structure DocumentAmbient where
  freshId : Uuid := ""
  randomUUID : String := ""
  now : Time := 0
  choice : Nat := 0
  storageFails : Bool := false

/-- `Math.round` of the size in megabytes. -/
def StorageConfig.maxFileSizeMo (config : StorageConfig) : Nat :=
  (2 * config.maxFileSizeBytes + 1048576) / 2097152

def assertValidFile (config : StorageConfig) (file : UploadFileInput) : Except DomainError Unit :=
  if file.size > config.maxFileSizeBytes then
    .error {
      code := "DOCUMENT_TOO_LARGE"
      message := "Le fichier depasse la taille maximale autorisee (" ++
        toString config.maxFileSizeMo ++ " Mo)."
      kind := .validation }
  else if file.mimetype ∉ config.allowedMimeTypes then
    .error {
      code := "DOCUMENT_INVALID_FORMAT"
      message := "Format non autorise : " ++ file.mimetype ++ "."
      kind := .validation }
  else .ok ()

def documentNotFound : DomainError :=
  { code := "DOCUMENT_NOT_FOUND", message := "Document introuvable.", kind := .notFound }

def DocumentSubjectType.toLowerCase : DocumentSubjectType → String
  | .media => "media"
  | .requester => "requester"
  | .request => "request"

/-- What `/[^a-zA-Z0-9._-]/g` leaves alone. -/
def isSafe (c : Char) : Bool := c.isAlphanum || c == '.' || c == '_' || c == '-'

/-- A replacement works on UTF-16 code units, of which some characters have two. -/
def safeName (originalName : String) : String :=
  String.ofList (originalName.toList.flatMap fun c =>
    if isSafe c then [c] else List.replicate (if c.toNat < 0x10000 then 1 else 2) '_')

def buildDocumentStorageKey (ambient : DocumentAmbient) (subjectType : DocumentSubjectType)
    (subjectId : Uuid) (originalName : String) : String :=
  subjectType.toLowerCase ++ "/" ++ subjectId ++ "/" ++ ambient.randomUUID ++ "-" ++ safeName originalName

/-- What a document is a version of. -/
abbrev Piece := DocumentSubjectType × Uuid × DocumentType

def Document.piece (d : Document) : Piece := (d.subjectType, d.subjectId, d.documentType)

/-- The `WHERE` clause of the previous version. -/
def currentOf (piece : Piece) (d : Document) : Bool := d.piece == piece && d.status != .superseded

def putObject (ambient : DocumentAmbient) (object : StoredObject) : DocumentOp Unit :=
  if ambient.storageFails then .fail .external else writeDocument (.putObject object)

def upload (services : DocumentServices) (ambient : DocumentAmbient)
    (subjectType : DocumentSubjectType) (subjectId : Uuid) (documentType : DocumentType)
    (file : UploadFileInput) (uploadedById : Uuid) : DocumentOp Document :=
  match assertValidFile services.config file with
  | .error why => .fail (.domain why)
  | .ok () => do
      let previous ← Proc.query fun t =>
        t.documents.highest ambient.choice (currentOf (subjectType, subjectId, documentType)) (·.version)
      let storageKey := buildDocumentStorageKey ambient subjectType subjectId file.originalname
      putObject ambient { key := storageKey, body := file.buffer, contentType := file.mimetype }
      let created : Document ← writeDocument (.addVersion (previous.map (·.id)) {
        id := ambient.freshId
        subjectType
        subjectId
        documentType
        version := (previous.map (·.version)).getD 0 + 1
        status := .pending
        storageKey
        mimeType := file.mimetype
        sizeBytes := file.size
        checksum := some (services.sha256 file.buffer)
        uploadedById })
      writeDocument (.publish (.uploaded created.id subjectType subjectId))
      return created

def getDocument (id : Uuid) : DocumentOp Document := do
  let found ← Proc.query fun t => t.documents.find (·.id == id)
  match found with
  | some document => return document
  | none => Proc.fail (.domain documentNotFound)

def review (ambient : DocumentAmbient) (documentId : Uuid) (status : ReviewStatus) (reviewedById : Uuid)
    (rejectionReason : Option String) : DocumentOp Document := do
  let document ← getDocument documentId
  let updated : Document ← writeDocument
    (.updateReview documentId { status, rejectionReason, reviewedById, reviewedAt := ambient.now })
  writeDocument
    (.publish (.reviewed document.id document.subjectType document.subjectId status.toStatus rejectionReason))
  return updated

/-! ## Sequential runs -/

inductive DocumentOperation where
  | upload (ambient : DocumentAmbient) (subjectType : DocumentSubjectType) (subjectId : Uuid)
      (documentType : DocumentType)
      (file : UploadFileInput) (uploadedById : Uuid)
  | review (ambient : DocumentAmbient) (documentId : Uuid) (status : ReviewStatus) (reviewedById : Uuid)
      (rejectionReason : Option String)

section Sequential

variable (services : DocumentServices)

def DocumentOperation.execute : DocumentOperation → DocumentOp Document
  | .upload ambient subjectType subjectId documentType file uploadedById =>
      AccreditationBackend.upload services ambient subjectType subjectId documentType file uploadedById
  | .review ambient documentId status reviewedById rejectionReason =>
      AccreditationBackend.review ambient documentId status reviewedById rejectionReason

def performDocument (t : Documents) (op : DocumentOperation) : Documents :=
  ((op.execute services).run handleDocument t).2

end Sequential

end AccreditationBackend
