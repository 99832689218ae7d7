import AccreditationBackend.Accreditations.Signing
import AccreditationBackend.Foundation.JsonText

/-! The canonical text of a signed object, for all strings that JavaScript has. -/

set_option autoImplicit false

namespace AccreditationBackend

open Foundation

/-- The keys of the object literal that is signed. -/
def signedKeys : List String :=
  ["accreditationId", "number", "reference", "firstName", "lastName", "mediaName", "matchId", "zoneIds",
    "boothNumber", "flashSlot", "issuedAt", "expiresAt"]

/-- An object with these properties, inserted in any order. -/
structure SignedObject where
  members : List JSON.Member
  keys : (members.map (·.1)).Perm (signedKeys.map codeUnits)

namespace EcdsaSignerService

/-- Strings are compared by their code units. None of the keys is an array index, so the
object keeps them in the order in which they are assigned. -/
def sorted (payload : List JSON.Member) : List JSON.Member :=
  payload.mergeSort fun a b => decide (a.1 ≤ b.1)

def canonicalizeObject (payload : List JSON.Member) : String := JSON.stringify (sorted payload)

theorem sorted_perm (payload : List JSON.Member) : (sorted payload).Perm payload :=
  List.mergeSort_perm _ _

theorem sorted_pairwise (payload : List JSON.Member) :
    (sorted payload).Pairwise fun a b => a.1 ≤ b.1 := by
  refine (List.pairwise_mergeSort (fun a b c first second => ?_) (fun a b => ?_) payload).imp
    of_decide_eq_true
  · exact decide_eq_true (List.le_trans (of_decide_eq_true first) (of_decide_eq_true second))
  · simpa only [Bool.or_eq_true, decide_eq_true_eq] using List.le_total a.1 b.1

end EcdsaSignerService

namespace SignedObject

variable (p q : SignedObject)

def value (key : String) : Option JSON.Value := JSON.property p.members (codeUnits key)

def rawPayload : String := EcdsaSignerService.canonicalizeObject p.members

/-! ## The text and the properties tell each other -/

theorem signedKeys_distinct : (signedKeys.map codeUnits).Nodup := by
  decide

theorem distinct : (p.members.map (·.1)).Nodup := p.keys.nodup_iff.mpr signedKeys_distinct

variable {p q}

/-- The canonical order forgets the order of insertion. -/
theorem rawPayload_perm (perm : p.members.Perm q.members) : p.rawPayload = q.rawPayload := by
  have same := (EcdsaSignerService.sorted_perm p.members).trans
    (perm.trans (EcdsaSignerService.sorted_perm q.members).symm)
  refine congrArg JSON.stringify (same.eq_of_pairwise (fun a b inside inside' first second => ?_)
    (EcdsaSignerService.sorted_pairwise _) (EcdsaSignerService.sorted_pairwise _))
  -- Two members of one key are one member.
  refine List.inj_on_of_nodup_map p.distinct ?_ ?_ (List.le_antisymm first second)
  · exact (EcdsaSignerService.sorted_perm _).mem_iff.mp inside
  · exact perm.mem_iff.mpr ((EcdsaSignerService.sorted_perm _).mem_iff.mp inside')

theorem value_some {key : String} (signed : key ∈ signedKeys) : ∃ v, p.value key = some v := by
  have member : codeUnits key ∈ p.members.map (·.1) := p.keys.mem_iff.mpr (List.mem_map_of_mem signed)
  obtain ⟨⟨_, v⟩, inside, rfl⟩ := List.mem_map.mp member
  exact ⟨v, (JSON.property_iff p.distinct).mpr inside⟩

/-- The twelve properties make up the object. -/
theorem members_perm (same : ∀ key ∈ signedKeys, p.value key = q.value key) :
    p.members.Perm q.members := by
  refine (List.perm_ext_iff_of_nodup p.distinct.of_map q.distinct.of_map).mpr fun member => ?_
  have shared (key : String) (signed : key ∈ signedKeys) (v : JSON.Value) :
      (codeUnits key, v) ∈ p.members ↔ (codeUnits key, v) ∈ q.members := by
    rw [← JSON.property_iff p.distinct, ← JSON.property_iff q.distinct]
    exact iff_of_eq (congrArg (· = some v) (same key signed))
  constructor
  · intro inside
    obtain ⟨key, signed, named⟩ := List.mem_map.mp (p.keys.mem_iff.mp (List.mem_map_of_mem inside))
    obtain ⟨_, v⟩ := member
    cases named
    exact (shared key signed v).mp inside
  · intro inside
    obtain ⟨key, signed, named⟩ := List.mem_map.mp (q.keys.mem_iff.mp (List.mem_map_of_mem inside))
    obtain ⟨_, v⟩ := member
    cases named
    exact (shared key signed v).mpr inside

theorem parse_rawPayload :
    ∃ members, JSON.parse p.rawPayload = some members ∧
      ∀ key, JSON.property members (codeUnits key) = p.value key :=
  ⟨_, JSON.parse_stringify _, fun _ => JSON.property_perm p.distinct (EcdsaSignerService.sorted_perm _) _⟩

end SignedObject

/-- The canonical payload is the same exactly when all twelve values are, whatever the
order in which they were inserted, and its text gives every one of them back. -/
theorem canonical_payload (p q : SignedObject) :
    (p.rawPayload = q.rawPayload ↔ ∀ key ∈ signedKeys, p.value key = q.value key) ∧
      ∃ members, JSON.parse p.rawPayload = some members ∧
        ∀ key ∈ signedKeys, ∃ v, p.value key = some v ∧
          JSON.property members (codeUnits key) = some v := by
  obtain ⟨members, parsed, properties⟩ := p.parse_rawPayload
  constructor
  · constructor
    · intro same key _
      obtain ⟨others, parsed', properties'⟩ := q.parse_rawPayload
      obtain rfl := Option.some.inj (parsed.symm.trans ((congrArg JSON.parse same).trans parsed'))
      rw [← properties, properties']
    · exact fun same => SignedObject.rawPayload_perm (SignedObject.members_perm same)
  · refine ⟨members, parsed, fun key signed => ?_⟩
    obtain ⟨v, known⟩ := SignedObject.value_some signed
    exact ⟨v, known, (properties key).trans known⟩

/-! ## The payload of a badge -/

theorem record_keys (p : BadgePayload) : p.record.map (·.1) = signedKeys := rfl

/-- The payload of a badge as the object that is signed. -/
def BadgePayload.object (p : BadgePayload) : SignedObject where
  members := p.record.map JSON.ofEntry
  keys := .of_eq (by rw [← record_keys p, List.map_map, List.map_map]; rfl)

theorem signedKeys_order : ∀ a ∈ signedKeys, ∀ b ∈ signedKeys,
    decide (a ≤ b) = decide (codeUnits a ≤ codeUnits b) := by
  decide

/-- What is signed for a badge is the canonical payload of its object. -/
theorem rawPayload_object (p : BadgePayload) :
    p.object.rawPayload = EcdsaSignerService.canonicalize p.record := by
  have sorted : (p.record.mergeSort fun a b => decide (a.1 ≤ b.1)).map JSON.ofEntry =
      EcdsaSignerService.sorted (p.record.map JSON.ofEntry) :=
    List.map_mergeSort fun a inside b inside' =>
      signedKeys_order a.1 (List.mem_map_of_mem inside) b.1 (List.mem_map_of_mem inside')
  rw [EcdsaSignerService.canonicalize, ← JSON.stringify_ofEntry, sorted]
  rfl

end AccreditationBackend
