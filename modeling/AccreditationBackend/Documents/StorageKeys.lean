import AccreditationBackend.Documents.Versions
import AccreditationBackend.Foundation.CodeUnits
import AccreditationBackend.Foundation.Delimited

/-! The keys of stored documents: subjects are kept apart whatever the files are called. -/

set_option autoImplicit false

namespace AccreditationBackend

open Foundation

/-! ## Safe characters -/

def isHexDigit (c : Char) : Bool := c.isDigit || ('a' ≤ c && c ≤ 'f') || ('A' ≤ c && c ≤ 'F')

theorem isAlphanum_iff {c : Char} : c.isAlphanum = true ↔
    ('A' ≤ c ∧ c ≤ 'Z' ∨ 'a' ≤ c ∧ c ≤ 'z') ∨ '0' ≤ c ∧ c ≤ '9' := by
  change ((decide ('A' ≤ c ∧ c ≤ 'Z') || (decide ('a' ≤ c) && decide (c ≤ 'z'))) ||
    (decide ('0' ≤ c) && decide (c ≤ '9'))) = true ↔ _
  simp only [Bool.or_eq_true, Bool.and_eq_true, decide_eq_true_eq]

theorem isHexDigit_isSafe {c : Char} (digit : isHexDigit c = true) : isSafe c = true := by
  have letter : c.isAlphanum = true := by
    rw [isAlphanum_iff]
    simp only [isHexDigit, Char.isDigit, Bool.or_eq_true, Bool.and_eq_true, decide_eq_true_eq] at digit
    rcases digit with (decimal | ⟨low, high⟩) | ⟨low, high⟩
    · exact .inr decimal
    · exact .inl (.inr ⟨low, UInt32.le_trans high (by decide)⟩)
    · exact .inl (.inl ⟨low, UInt32.le_trans high (by decide)⟩)
  simp [isSafe, letter]

theorem isSafe_ascii {c : Char} (safe : isSafe c = true) : c.toNat < 128 := by
  have below {d : Char} (small : d.toNat < 128) (le : c ≤ d) : c.toNat < 128 :=
    Nat.lt_of_le_of_lt (UInt32.le_iff_toNat_le.mp le) small
  simp only [isSafe, Bool.or_eq_true, beq_iff_eq, isAlphanum_iff] at safe
  rcases safe with ((((⟨-, high⟩ | ⟨-, high⟩) | ⟨-, high⟩) | rfl) | rfl) | rfl
  · exact below (by decide) high
  · exact below (by decide) high
  · exact below (by decide) high
  all_goals decide

theorem slash_not_safe : isSafe '/' = false := by decide

/-! ## UUIDs as they are written -/

/-- The form that `@IsUUID()` checks and `randomUUID` has, of any version and either case. -/
def isUuid (s : String) : Bool :=
  (s.toList.splitOn '-').map List.length == [8, 4, 4, 4, 12] &&
    (s.toList.splitOn '-').all (·.all isHexDigit)

structure UuidText where
  text : Uuid
  valid : isUuid text = true
  deriving DecidableEq

namespace UuidText

variable (id : UuidText)

theorem groups : ∃ a b c d e : List Char,
    id.text.toList = a ++ '-' :: (b ++ '-' :: (c ++ '-' :: (d ++ '-' :: e))) ∧
      [a.length, b.length, c.length, d.length, e.length] = [8, 4, 4, 4, 12] ∧
      ∀ group ∈ [a, b, c, d, e], ∀ digit ∈ group, isHexDigit digit = true := by
  have valid := id.valid
  have joined : ['-'].intercalate (id.text.toList.splitOn '-') = id.text.toList :=
    List.intercalate_splitOn '-'
  simp only [isUuid, Bool.and_eq_true, beq_iff_eq, List.all_eq_true] at valid
  generalize id.text.toList.splitOn '-' = split at valid joined
  obtain ⟨lengths, digits⟩ := valid
  simp only [List.map_eq_cons_iff, List.map_eq_nil_iff] at lengths
  obtain ⟨a, _, rfl, first, b, _, rfl, second, c, _, rfl, third, d, _, rfl, fourth,
    e, _, rfl, fifth, rfl⟩ := lengths
  refine ⟨a, b, c, d, e, ?_, by rw [first, second, third, fourth, fifth], digits⟩
  rw [← joined]
  simp [List.intercalate_cons_cons]

theorem length_toList : id.text.toList.length = 36 := by
  obtain ⟨a, b, c, d, e, written, lengths, -⟩ := id.groups
  simp only [List.cons.injEq, and_true] at lengths
  simp only [written, List.length_append, List.length_cons]
  omega

theorem safe : ∀ c ∈ id.text.toList, isSafe c = true := by
  obtain ⟨a, b, c, d, e, written, -, digits⟩ := id.groups
  intro letter member
  rw [written] at member
  by_cases dash : letter = '-'
  · subst dash
    decide
  · refine isHexDigit_isSafe ?_
    simp only [List.mem_append, List.mem_cons, dash, false_or] at member
    simp only [List.forall_mem_cons] at digits
    obtain ⟨first, second, third, fourth, fifth, -⟩ := digits
    rcases member with inside | inside | inside | inside | inside
    · exact first _ inside
    · exact second _ inside
    · exact third _ inside
    · exact fourth _ inside
    · exact fifth _ inside

theorem text_injective : Function.Injective UuidText.text := by
  rintro ⟨s, _⟩ ⟨t, _⟩ same
  cases same
  rfl

theorem toList_injective : Function.Injective fun id : UuidText => id.text.toList := by
  intro a b same
  exact text_injective (String.toList_inj.mp same)

end UuidText

/-! ## The name of the file -/

/-- The replacement on one UTF-16 unit; a surrogate is no character, and not safe. -/
def safeUnit (u : UInt16) : Char := if isSafe (.ofNat u.toNat) then .ofNat u.toNat else '_'

/-- `originalName.replace(/[^a-zA-Z0-9._-]/g, '_')` of any text. -/
def safeUnits (originalName : CodeUnits) : List Char := originalName.map safeUnit

theorem safeUnit_isSafe (u : UInt16) : isSafe (safeUnit u) = true := by
  unfold safeUnit
  split
  · assumption
  · decide

theorem safeUnit_surrogate {u : UInt16} (surrogate : isSurrogate u = true) : safeUnit u = '_' := by
  have invalid : ¬ u.toNat.isValidChar := by
    simp only [isSurrogate, Bool.and_eq_true, decide_eq_true_eq] at surrogate
    simp only [Nat.isValidChar]
    omega
  rw [safeUnit, Char.ofNat, dif_neg invalid]
  rfl

theorem safeUnits_encodeChar (c : Char) :
    safeUnits (encodeChar c) =
      if isSafe c then [c] else List.replicate (if c.toNat < 0x10000 then 1 else 2) '_' := by
  have valid : c.toNat.isValidChar := c.valid
  simp only [Nat.isValidChar] at valid
  unfold encodeChar
  split
  next basic =>
    rw [safeUnits, List.map_singleton, safeUnit, toNat_unit basic, Char.ofNat_toNat]
    split <;> rfl
  next astral =>
    have replaced : ¬ isSafe c = true := fun safe => by
      have small := isSafe_ascii safe
      omega
    have high : isSurrogate (.ofNat (0xD800 + (c.toNat - 0x10000) / 0x400)) = true := by
      rw [isSurrogate, toNat_unit (by omega), Bool.and_eq_true, decide_eq_true_eq, decide_eq_true_eq]
      omega
    have low : isSurrogate (.ofNat (0xDC00 + (c.toNat - 0x10000) % 0x400)) = true := by
      rw [isSurrogate, toNat_unit (by omega), Bool.and_eq_true, decide_eq_true_eq, decide_eq_true_eq]
      omega
    rw [if_neg replaced, safeUnits, List.map_cons, List.map_singleton, safeUnit_surrogate high,
      safeUnit_surrogate low]
    rfl

theorem safeName_units (s : String) : safeName s = String.ofList (safeUnits (codeUnits s)) := by
  rw [safeName, codeUnits, safeUnits, List.map_flatMap]
  exact congrArg _ (congrArg (List.flatMap · _) (funext fun c => (safeUnits_encodeChar c).symm))

example : safeName "../carte d'identité.pdf" = ".._carte_d_identit_.pdf" := by decide

/-! ## Keys -/

structure DocumentSubject where
  subjectType : DocumentSubjectType
  subjectId : UuidText
  deriving DecidableEq

/-- What the keys of a subject start with. -/
def DocumentSubject.path (subject : DocumentSubject) : String :=
  subject.subjectType.toLowerCase ++ "/" ++ subject.subjectId.text

/-- What a key is built from. -/
structure KeyParts where
  subject : DocumentSubject
  randomUUID : UuidText
  originalName : CodeUnits

namespace KeyParts

variable (parts : KeyParts)

/-- `${randomUUID()}-${safeName}` -/
def file : String := parts.randomUUID.text ++ "-" ++ String.ofList (safeUnits parts.originalName)

/-- `buildDocumentStorageKey` where any text can name the file. -/
def key : String :=
  parts.subject.subjectType.toLowerCase ++ "/" ++ parts.subject.subjectId.text ++ "/" ++ parts.file

end KeyParts

/-- The keys of uploads are those of the names in Unicode. -/
theorem buildDocumentStorageKey_parts (ambient : DocumentAmbient) (subject : DocumentSubject)
    (generated : UuidText) (originalName : String) :
    buildDocumentStorageKey { ambient with randomUUID := generated.text } subject.subjectType
        subject.subjectId.text originalName =
      KeyParts.key ⟨subject, generated, codeUnits originalName⟩ := by
  rw [buildDocumentStorageKey, KeyParts.key, KeyParts.file, safeName_units]
  simp only [String.append_assoc]

/-! ## Reading a key -/

/-- `key.split('/')` -/
def segments (key : String) : List String := (key.toList.splitOn '/').map String.ofList

def DocumentSubjectType.ofLowerCase : String → Option DocumentSubjectType
  | "media" => some .media
  | "requester" => some .requester
  | "request" => some .request
  | _ => none

/-- The type and the id of the subject, and the UUID that was generated. -/
def readKey (key : String) : Option (DocumentSubjectType × Uuid × Uuid) :=
  match segments key with
  | [type, id, file] =>
      (DocumentSubjectType.ofLowerCase type).map fun subjectType =>
        (subjectType, id, String.ofList (file.toList.take 36))
  | _ => none

theorem DocumentSubjectType.ofLowerCase_toLowerCase (type : DocumentSubjectType) :
    DocumentSubjectType.ofLowerCase type.toLowerCase = some type := by
  cases type <;> rfl

theorem DocumentSubjectType.toLowerCase_safe (type : DocumentSubjectType) :
    ∀ c ∈ type.toLowerCase.toList, isSafe c = true := by
  cases type <;> exact List.all_eq_true.mp rfl

theorem segments_join {a b c : String} (apart : ∀ s ∈ [a, b, c], '/' ∉ s.toList) :
    segments (a ++ "/" ++ b ++ "/" ++ c) = [a, b, c] := by
  have joined :
      (a ++ "/" ++ b ++ "/" ++ c).toList = ['/'].intercalate ([a, b, c].map String.toList) := by
    simp [List.intercalate_cons_cons]
  rw [segments, joined, List.splitOn_intercalate '/' (by simpa using apart) (by simp), List.map_map]
  simp

namespace KeyParts

variable (parts : KeyParts)

theorem file_toList : parts.file.toList =
    parts.randomUUID.text.toList ++ '-' :: safeUnits parts.originalName := by
  simp [file]

theorem file_safe : ∀ c ∈ parts.file.toList, isSafe c = true := by
  intro c member
  rw [file_toList, List.mem_append, List.mem_cons] at member
  rcases member with generated | rfl | named
  · exact parts.randomUUID.safe c generated
  · decide
  · obtain ⟨u, -, rfl⟩ := List.mem_map.mp named
    exact safeUnit_isSafe u

theorem segments_key : segments parts.key =
    [parts.subject.subjectType.toLowerCase, parts.subject.subjectId.text, parts.file] := by
  have apart {s : String} (safe : ∀ c ∈ s.toList, isSafe c = true) : '/' ∉ s.toList := by
    intro member
    cases slash_not_safe.symm.trans (safe '/' member)
  refine segments_join fun s member => apart ?_
  simp only [List.mem_cons, List.not_mem_nil, or_false] at member
  rcases member with rfl | rfl | rfl
  · exact parts.subject.subjectType.toLowerCase_safe
  · exact parts.subject.subjectId.safe
  · exact parts.file_safe

theorem segments_proper : ∀ segment ∈ segments parts.key, segment ∉ ["", ".", ".."] := by
  have proper {s : String} (long : 2 < s.toList.length) : s ∉ ["", ".", ".."] := by
    intro short
    simp only [List.mem_cons, List.not_mem_nil, or_false] at short
    rcases short with rfl | rfl | rfl <;> exact absurd long (by decide)
  intro segment member
  rw [segments_key] at member
  simp only [List.mem_cons, List.not_mem_nil, or_false] at member
  refine proper ?_
  rcases member with rfl | rfl | rfl
  · cases parts.subject.subjectType <;> decide
  · rw [parts.subject.subjectId.length_toList]
    decide
  · rw [file_toList, List.length_append, parts.randomUUID.length_toList]
    omega

theorem readKey_key : readKey parts.key =
    some (parts.subject.subjectType, parts.subject.subjectId.text, parts.randomUUID.text) := by
  have generated : parts.file.toList.take 36 = parts.randomUUID.text.toList := by
    rw [file_toList, ← parts.randomUUID.length_toList, List.take_left]
  rw [readKey, segments_key]
  simp [DocumentSubjectType.ofLowerCase_toLowerCase, generated]

variable {parts}

/-- Uploads with one key are of one subject, and have drawn one UUID. -/
theorem key_apart {other : KeyParts} (same : parts.key = other.key) :
    parts.subject = other.subject ∧ parts.randomUUID = other.randomUUID := by
  obtain ⟨⟨subjectType, subjectId⟩, generated, _⟩ := parts
  obtain ⟨⟨otherType, otherId⟩, otherGenerated, _⟩ := other
  have read := congrArg readKey same
  rw [readKey_key, readKey_key] at read
  simp only [Option.some.injEq, Prod.mk.injEq] at read
  obtain ⟨rfl, ids, draws⟩ := read
  obtain rfl := UuidText.text_injective ids
  exact ⟨rfl, UuidText.text_injective draws⟩

end KeyParts

/-! ## Subjects as folders -/

theorem DocumentSubjectType.toLowerCase_delimited :
    Delimited (fun s => ∀ c ∈ s.head?, isSafe c = false)
      fun type : DocumentSubjectType => type.toLowerCase.toList := by
  refine .of_alphabet ?_ DocumentSubjectType.toLowerCase_safe
  intro a b same
  have read := congrArg DocumentSubjectType.ofLowerCase (String.toList_inj.mp same)
  rw [DocumentSubjectType.ofLowerCase_toLowerCase, DocumentSubjectType.ofLowerCase_toLowerCase] at read
  exact Option.some.inj read

/-- No path of a subject starts another, not even `request` and `requester`. -/
theorem DocumentSubject.path_delimited :
    Delimited (fun _ => True) fun subject : DocumentSubject => subject.path.toList := by
  have id : Delimited (fun _ => True) fun id : UuidText => '/' :: id.text.toList :=
    (Delimited.of_length UuidText.toList_injective UuidText.length_toList).cons '/'
  have pair := DocumentSubjectType.toLowerCase_delimited.pair id fun id s _ c first => by
    cases first
    exact slash_not_safe
  have whole : Function.Injective fun subject : DocumentSubject =>
      (subject.subjectType, subject.subjectId) := by
    rintro ⟨_, _⟩ ⟨_, _⟩ same
    cases same
    rfl
  simpa [DocumentSubject.path] using pair.comp whole

theorem KeyParts.under_path (parts : KeyParts) (subject : DocumentSubject) :
    subject.path.toList <+: parts.key.toList ↔ subject = parts.subject := by
  have key : parts.key.toList = parts.subject.path.toList ++ '/' :: parts.file.toList := by
    simp [KeyParts.key, DocumentSubject.path]
  rw [key]
  constructor
  · rintro ⟨rest, same⟩
    exact (DocumentSubject.path_delimited subject parts.subject _ _ trivial trivial same).1
  · rintro rfl
    exact List.prefix_append _ _

/-- The key of an upload has three proper segments, of which the last one is safe.
The subject and the drawn UUID can be read back, so that different subjects or
draws never share a key, and no key lies under the path of another subject.
This holds of any text as the name of the file, those in Unicode among them. -/
theorem storageKeys_isolate_subjects (parts : KeyParts) :
    segments parts.key =
        [parts.subject.subjectType.toLowerCase, parts.subject.subjectId.text, parts.file] ∧
    (∀ segment ∈ segments parts.key, segment ∉ ["", ".", ".."]) ∧
    (∀ c ∈ parts.file.toList, isSafe c = true) ∧
    readKey parts.key =
      some (parts.subject.subjectType, parts.subject.subjectId.text, parts.randomUUID.text) ∧
    (∀ other : KeyParts, parts.key = other.key →
      parts.subject = other.subject ∧ parts.randomUUID = other.randomUUID) ∧
    (∀ subject : DocumentSubject, subject.path.toList <+: parts.key.toList ↔ subject = parts.subject) ∧
    ∀ (ambient : DocumentAmbient) (originalName : String),
      buildDocumentStorageKey { ambient with randomUUID := parts.randomUUID.text }
          parts.subject.subjectType parts.subject.subjectId.text originalName =
        KeyParts.key { parts with originalName := codeUnits originalName } :=
  ⟨parts.segments_key, parts.segments_proper, parts.file_safe, parts.readKey_key,
    fun _ => KeyParts.key_apart, parts.under_path,
    fun ambient => buildDocumentStorageKey_parts ambient parts.subject parts.randomUUID⟩

end AccreditationBackend
