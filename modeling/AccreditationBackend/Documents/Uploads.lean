import AccreditationBackend.Documents.StorageKeys
import AccreditationBackend.Foundation.Interleaving

/-! The objects of the documents while uploads and reviews run at once. -/

set_option autoImplicit false

namespace AccreditationBackend

open Foundation

/-- What ties a document to its subject and to its object. -/
structure Filing where
  subjectType : DocumentSubjectType
  subjectId : Uuid
  storageKey : String
  mimeType : String
  checksum : Option String
  deriving DecidableEq, Repr

def Document.filing (d : Document) : Filing :=
  ⟨d.subjectType, d.subjectId, d.storageKey, d.mimeType, d.checksum⟩

def Documents.filings (t : Documents) : List Filing := t.documents.column Document.filing

/-- The UUIDs that name the objects of an operation. -/
def DocumentOperation.draws : DocumentOperation → List String
  | .upload ambient .. => [ambient.randomUUID]
  | .review .. => []

/-- The object is the one that the filing tells of, and its key names the subject. -/
structure Filing.Matches (services : DocumentServices) (f : Filing) (o : StoredObject) : Prop where
  key : o.key = f.storageKey
  contentType : f.mimeType = o.contentType
  checksum : f.checksum = some (services.sha256 o.body)
  subject : ∃ generated, readKey f.storageKey = some (f.subjectType, f.subjectId, generated)

/-- Each document has its object in the storage, and no other document has its key. -/
structure Shelved (services : DocumentServices) (t : Documents) : Prop where
  object : ∀ f ∈ t.filings, ∃ o ∈ t.objects, f.Matches services o
  distinct : (t.filings.map (·.storageKey)).Nodup

/-! ## One statement -/

section Statements

variable (t : Documents)

end Statements

/-! ## How far an upload has come -/

/-- What the upload puts into the storage. -/
def DocumentOperation.object : DocumentOperation → Option StoredObject
  | .upload ambient subjectType subjectId _ file _ =>
      some ⟨buildDocumentStorageKey ambient subjectType subjectId file.originalname, file.buffer, file.mimetype⟩
  | .review .. => none

inductive Stage where
  | started | stored | filed
  deriving DecidableEq

/-- Until its row is there no document has its key; once stored, its object is there. -/
structure Stage.Holds (stage : Stage) (object : StoredObject) (t : Documents) : Prop where
  unnamed : stage ≠ .filed → object.key ∉ t.filings.map (·.storageKey)
  stored : stage = .stored → object ∈ t.objects

section Calls

variable (services : DocumentServices)

end Calls

/-! ## Every interleaving -/

section Plays

variable {ι : Type} [DecidableEq ι] (services : DocumentServices) {calls : ι → DocumentOperation}

/-- The stored objects are all there, each upload knows how far it has come. -/
structure Shelving (calls : ι → DocumentOperation) (t : Documents) (stages : ι → Stage) : Prop
    extends Shelved services t where
  stages : ∀ i, ∀ o ∈ (calls i).object, (stages i).Holds o t

variable {services} {t : Documents} {stages : ι → Stage}

theorem Shelving.same (held : Shelving services calls t stages) {after : Documents}
    (objects : after.objects = t.objects) (filings : after.filings = t.filings) (i : ι) :
    Shelving services calls after (Function.update stages i (stages i)) where
  object := by
    rw [objects, filings]
    exact held.object
  distinct := filings ▸ held.distinct
  stages j o own := by
    rw [Function.update_eq_self]
    exact ⟨filings ▸ (held.stages j o own).unnamed, objects ▸ (held.stages j o own).stored⟩

variable (apart : ∀ i j, i ≠ j → ∀ o ∈ (calls i).object, ∀ o' ∈ (calls j).object, o.key ≠ o'.key)

include apart

theorem Shelving.put (held : Shelving services calls t stages) {i : ι} {object : StoredObject}
    (own : (calls i).object = some object) (started : stages i = .started) {after : Documents}
    (objects : after.objects = t.objects.filter (·.key != object.key) ++ [object])
    (filings : after.filings = t.filings) :
    Shelving services calls after (Function.update stages i .stored) := by
  have unnamed := (held.stages i object own).unnamed (by rw [started]; decide)
  have kept {o : StoredObject} (stored : o ∈ t.objects) (other : o.key ≠ object.key) : o ∈ after.objects := by
    rw [objects]
    exact List.mem_append_left _ (List.mem_filter.mpr ⟨stored, bne_iff_ne.mpr other⟩)
  refine ⟨⟨fun f member => ?_, filings ▸ held.distinct⟩, fun j o mine => ?_⟩
  · rw [filings] at member
    obtain ⟨o, stored, tells⟩ := held.object f member
    refine ⟨o, kept stored fun same => ?_, tells⟩
    exact unnamed (List.mem_map.mpr ⟨f, member, tells.key.symm.trans same⟩)
  · have before := held.stages j o mine
    by_cases moved : j = i
    · subst moved
      obtain rfl : object = o := Option.some.inj (own.symm.trans mine)
      rw [Function.update_self]
      refine ⟨fun _ => filings ▸ unnamed, fun _ => ?_⟩
      rw [objects]
      exact List.mem_append_right _ (List.mem_singleton_self _)
    · rw [Function.update_of_ne moved]
      exact ⟨filings ▸ before.unnamed, fun stored =>
        kept (before.stored stored) (apart j i moved o mine object own)⟩

theorem Shelving.filed (held : Shelving services calls t stages) {i : ι} {object : StoredObject}
    (own : (calls i).object = some object) (stored : stages i = .stored) {f : Filing}
    (tells : f.Matches services object) {after : Documents} (objects : after.objects = t.objects)
    (filings : after.filings = t.filings ∨ after.filings = t.filings ++ [f]) :
    Shelving services calls after (Function.update stages i .filed) := by
  have unnamed := (held.stages i object own).unnamed (by rw [stored]; decide)
  have there := (held.stages i object own).stored stored
  refine ⟨⟨fun g member => ?_, ?_⟩, fun j o mine => ?_⟩
  · have listed : g ∈ t.filings ∨ g = f := by
      rcases filings with same | grown
      · exact .inl (same ▸ member)
      · rw [grown, List.mem_append, List.mem_singleton] at member
        exact member
    rw [objects]
    obtain old | rfl := listed
    · exact held.object g old
    · exact ⟨object, there, tells⟩
  · rcases filings with same | grown
    · exact same ▸ held.distinct
    · rw [grown, List.map_append, List.map_singleton, List.nodup_append]
      refine ⟨held.distinct, List.pairwise_singleton _ _, fun key earlier new here => ?_⟩
      rintro rfl
      rw [List.mem_singleton.mp here, ← tells.key] at earlier
      exact unnamed earlier
  · have before := held.stages j o mine
    by_cases moved : j = i
    · subst moved
      rw [Function.update_self]
      exact ⟨fun late => absurd rfl late, fun late => by cases late⟩
    · rw [Function.update_of_ne moved]
      refine ⟨fun early => ?_, objects ▸ before.stored⟩
      rcases filings with same | grown
      · exact same ▸ before.unnamed early
      · rw [grown, List.map_append, List.map_singleton, List.mem_append, List.mem_singleton, ← tells.key]
        exact fun named => named.elim (before.unnamed early) (apart j i moved o mine object own)

end Plays

end AccreditationBackend
