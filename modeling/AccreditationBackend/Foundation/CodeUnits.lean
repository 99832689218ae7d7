import Mathlib.Data.List.Basic

/-! Strings as sequences of UTF-16 code units, in which surrogates may stand alone. -/

set_option autoImplicit false

namespace AccreditationBackend.Foundation

abbrev CodeUnits := List UInt16

def isHighSurrogate (u : UInt16) : Bool := decide (0xD800 ≤ u.toNat) && decide (u.toNat < 0xDC00)

def isLowSurrogate (u : UInt16) : Bool := decide (0xDC00 ≤ u.toNat) && decide (u.toNat < 0xE000)

def isSurrogate (u : UInt16) : Bool := decide (0xD800 ≤ u.toNat) && decide (u.toNat < 0xE000)

/-- A code point of a string: a character, or a surrogate without its partner. -/
inductive CodePoint where
  | scalar (c : Char)
  | lone (u : UInt16) (surrogate : isSurrogate u = true)
  deriving DecidableEq

/-! ## Encoding -/

def encodeChar (c : Char) : CodeUnits :=
  if c.toNat < 0x10000 then [.ofNat c.toNat]
  else [.ofNat (0xD800 + (c.toNat - 0x10000) / 0x400), .ofNat (0xDC00 + (c.toNat - 0x10000) % 0x400)]

def codeUnits (s : String) : CodeUnits := s.toList.flatMap encodeChar

def CodePoint.units : CodePoint → CodeUnits
  | .scalar c => encodeChar c
  | .lone u _ => [u]

/-! ## Decoding -/

def unpaired (u : UInt16) : CodePoint :=
  if surrogate : isSurrogate u = true then .lone u surrogate else .scalar (.ofNat u.toNat)

def paired (high low : UInt16) : Char :=
  .ofNat (0x10000 + (high.toNat - 0xD800) * 0x400 + (low.toNat - 0xDC00))

/-- A high surrogate is paired with a low one right behind it. -/
def codePoints : CodeUnits → List CodePoint
  | [] => []
  | [u] => [unpaired u]
  | u :: v :: rest =>
      if isHighSurrogate u && isLowSurrogate v then .scalar (paired u v) :: codePoints rest
      else unpaired u :: codePoints (v :: rest)

/-! ## A string is what its code points encode -/

theorem toNat_ofNat {n : Nat} (valid : n.isValidChar) : (Char.ofNat n).toNat = n := by
  rw [Char.ofNat, dif_pos valid]
  rfl

theorem toNat_unit {n : Nat} (small : n < 0x10000) : (UInt16.ofNat n).toNat = n :=
  UInt16.toNat_ofNat_of_lt' small

theorem units_unpaired (u : UInt16) : (unpaired u).units = [u] := by
  unfold unpaired
  split
  next => rfl
  next scalar =>
    have bound := u.toNat_lt
    have valid : u.toNat.isValidChar := by
      simp only [isSurrogate, Bool.and_eq_true, decide_eq_true_eq] at scalar
      simp only [Nat.isValidChar]
      omega
    rw [CodePoint.units, encodeChar, toNat_ofNat valid, if_pos (by omega), UInt16.ofNat_toNat]

theorem encodeChar_paired {u v : UInt16} (high : isHighSurrogate u = true)
    (low : isLowSurrogate v = true) :
    encodeChar (paired u v) = [u, v] := by
  simp only [isHighSurrogate, isLowSurrogate, Bool.and_eq_true, decide_eq_true_eq] at high low
  have valid : (0x10000 + (u.toNat - 0xD800) * 0x400 + (v.toNat - 0xDC00)).isValidChar := by
    simp only [Nat.isValidChar]
    omega
  have front : 0xD800 + (0x10000 + (u.toNat - 0xD800) * 0x400 + (v.toNat - 0xDC00) - 0x10000) / 0x400 =
      u.toNat := by omega
  have back : 0xDC00 + (0x10000 + (u.toNat - 0xD800) * 0x400 + (v.toNat - 0xDC00) - 0x10000) % 0x400 =
      v.toNat := by omega
  rw [encodeChar, paired, toNat_ofNat valid, if_neg (by omega), front, back, UInt16.ofNat_toNat,
    UInt16.ofNat_toNat]

theorem flatMap_codePoints (s : CodeUnits) : (codePoints s).flatMap CodePoint.units = s := by
  induction s using codePoints.induct with
  | case1 => rfl
  | case2 u => rw [codePoints, List.flatMap_singleton, units_unpaired]
  | case3 u v rest pair ih =>
      obtain ⟨high, low⟩ := Bool.and_eq_true_iff.mp pair
      rw [codePoints, if_pos pair, List.flatMap_cons, ih, CodePoint.units, encodeChar_paired high low]
      rfl
  | case4 u v rest alone ih =>
      rw [codePoints, if_neg alone, List.flatMap_cons, ih, units_unpaired]
      rfl

/-! ## The code points of a text are its characters -/

theorem codePoints_cons {u : UInt16} (single : isHighSurrogate u = false) (rest : CodeUnits) :
    codePoints (u :: rest) = unpaired u :: codePoints rest := by
  cases rest with
  | nil => rfl
  | cons v rest => rw [codePoints, single, Bool.false_and, if_neg Bool.false_ne_true]

theorem codePoints_encodeChar (c : Char) (rest : CodeUnits) :
    codePoints (encodeChar c ++ rest) = .scalar c :: codePoints rest := by
  have valid : c.toNat.isValidChar := c.valid
  simp only [Nat.isValidChar] at valid
  unfold encodeChar
  split
  next basic =>
    have unit : (UInt16.ofNat c.toNat).toNat = c.toNat := toNat_unit basic
    have plain : isSurrogate (.ofNat c.toNat) = false ∧ isHighSurrogate (.ofNat c.toNat) = false := by
      simp only [isSurrogate, isHighSurrogate, unit, Bool.and_eq_false_iff, decide_eq_false_iff_not]
      omega
    rw [List.singleton_append, codePoints_cons plain.2, unpaired, dif_neg (by simp [plain.1]), unit,
      Char.ofNat_toNat]
  next astral =>
    have high : (UInt16.ofNat (0xD800 + (c.toNat - 0x10000) / 0x400)).toNat =
        0xD800 + (c.toNat - 0x10000) / 0x400 := toNat_unit (by omega)
    have low : (UInt16.ofNat (0xDC00 + (c.toNat - 0x10000) % 0x400)).toNat =
        0xDC00 + (c.toNat - 0x10000) % 0x400 := toNat_unit (by omega)
    rw [List.cons_append, List.singleton_append, codePoints, if_pos ?_, paired, high, low]
    · have code : 0x10000 + (0xD800 + (c.toNat - 0x10000) / 0x400 - 0xD800) * 0x400 +
          (0xDC00 + (c.toNat - 0x10000) % 0x400 - 0xDC00) = c.toNat := by omega
      rw [code, Char.ofNat_toNat]
    · simp only [isHighSurrogate, isLowSurrogate, high, low, Bool.and_eq_true, decide_eq_true_eq]
      omega

theorem codePoints_codeUnits (s : String) : codePoints (codeUnits s) = s.toList.map .scalar := by
  rw [codeUnits]
  induction s.toList with
  | nil => rfl
  | cons c rest ih => rw [List.flatMap_cons, codePoints_encodeChar, ih, List.map_cons]

/-! ## Reading a text back -/

/-- The character of a code point, unless it is a lone surrogate. -/
def CodePoint.char? : CodePoint → Option Char
  | .scalar c => some c
  | .lone _ _ => none

/-- The text that the code units spell; a lone surrogate spells nothing. -/
def spelled (s : CodeUnits) : String := String.ofList ((codePoints s).filterMap CodePoint.char?)

theorem spelled_codeUnits (s : String) : spelled (codeUnits s) = s := by
  have chars : (s.toList.map CodePoint.scalar).filterMap CodePoint.char? = s.toList := by
    rw [List.filterMap_map]
    exact List.filterMap_some
  rw [spelled, codePoints_codeUnits, chars, String.ofList_toList]

theorem codeUnits_injective : Function.Injective codeUnits := by
  intro s t same
  simpa only [spelled_codeUnits] using congrArg spelled same

end AccreditationBackend.Foundation
