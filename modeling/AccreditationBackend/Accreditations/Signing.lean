import AccreditationBackend.Accreditations.Issuance
import AccreditationBackend.Foundation.Json

/-! The signature of a badge: its payload as canonical text, signed with the server's key. -/

set_option autoImplicit false

namespace AccreditationBackend

open Foundation

/-- The private key with its public fingerprint, and the digests of `node:crypto`. -/
structure SigningKey where
  /-- ECDSA P-256 over SHA-256, in hex. -/
  signatureHex : String → String
  fingerprint : String
  sha256Hex : String → String

def nullable {A : Type} (value : A → JsonValue) : Option A → JsonValue
  | some a => value a
  | none => .null

/-- The object literal that is signed, in the order of its keys in the source. -/
def BadgePayload.record (p : BadgePayload) : List (String × JsonValue) :=
  [("accreditationId", .str p.accreditationId),
    ("number", .str p.number),
    ("reference", .str p.reference),
    ("firstName", .str p.firstName),
    ("lastName", .str p.lastName),
    ("mediaName", .str p.mediaName),
    ("matchId", .str p.matchId),
    ("zoneIds", .strs p.zoneIds),
    ("boothNumber", nullable .num p.boothNumber),
    ("flashSlot", nullable .str p.flashSlot),
    ("issuedAt", .num p.issuedAt),
    ("expiresAt", .num p.expiresAt)]

namespace EcdsaSignerService

/-- The keys are ASCII, where code points and UTF-16 units sort alike. -/
def canonicalize (payload : List (String × JsonValue)) : String :=
  stringify (payload.mergeSort fun a b => decide (a.1 ≤ b.1))

def sign (key : SigningKey) (payload : List (String × JsonValue)) : Signature :=
  let rawPayload := canonicalize payload
  { rawPayload
    ecdsaSignatureHex := key.signatureHex rawPayload
    publicKeyFingerprint := key.fingerprint
    offlineChecksum := String.ofList (((key.sha256Hex rawPayload).toList.take 16).map Char.toUpper) }

end EcdsaSignerService

/-- The services with the signature as the server makes it. -/
def signingServices (hash : String → String) (key : SigningKey) : Services where
  hash := hash
  sign payload := EcdsaSignerService.sign key payload.record

/-! ## The text tells the payload -/

theorem nullable_injective {A : Type} {value : A → JsonValue} (injective : Function.Injective value)
    (present : ∀ a, value a ≠ .null) : Function.Injective (nullable value) := by
  intro a b same
  cases a with
  | none =>
      cases b with
      | none => rfl
      | some b => exact absurd same.symm (present b)
  | some a =>
      cases b with
      | none => exact absurd same (present a)
      | some b => rw [injective same]

theorem record_injective : Function.Injective BadgePayload.record := by
  intro p q same
  simp only [BadgePayload.record, List.cons.injEq, Prod.mk.injEq, JsonValue.str.injEq,
    JsonValue.strs.injEq, JsonValue.num.injEq, true_and, and_true] at same
  obtain ⟨id, number, reference, first, last, media, matchId, zones, booth, slot, issued, expires⟩ := same
  have booths := nullable_injective (fun _ _ => JsonValue.num.inj) (fun _ => by simp) booth
  have slots := nullable_injective (fun _ _ => JsonValue.str.inj) (fun _ => by simp) slot
  cases p
  cases q
  simp_all

theorem canonicalize_injective {p q : BadgePayload}
    (same : EcdsaSignerService.canonicalize p.record = EcdsaSignerService.canonicalize q.record) :
    p = q := by
  have sorted := stringify_injective same
  have perm : p.record.Perm q.record :=
    (List.mergeSort_perm _ _).symm.trans ((List.Perm.of_eq sorted).trans (List.mergeSort_perm _ _))
  have distinct : (p.record.map (·.1)).Nodup := by
    simp only [BadgePayload.record, List.map_cons, List.map_nil]
    decide
  exact record_injective (entries_determined perm rfl distinct)

end AccreditationBackend
