import AccreditationBackend.Foundation.Delimited
import Mathlib.Data.List.Nodup

/-! Flat JSON records as text, and that the text tells the record. -/

set_option autoImplicit false

namespace AccreditationBackend.Foundation

/-- A value of a flat record; a number is an integer that a double holds exactly. -/
inductive JsonValue where
  | null
  | num (n : Int)
  | str (s : String)
  | strs (items : List String)
  deriving DecidableEq, Repr

/-! ## Text -/

def shortEscapes : List (Nat × Char) :=
  [(8, 'b'), (9, 't'), (10, 'n'), (12, 'f'), (13, 'r'), (34, '"'), (92, '\\')]

def escapeCode (n : Nat) : List Char :=
  match shortEscapes.lookup n with
  | some letter => ['\\', letter]
  | none => ['\\', 'u', '0', '0', (n / 16).digitChar, (n % 16).digitChar]

def isEscaped (c : Char) : Bool := decide (c.toNat < 32) || c == '"' || c == '\\'

def escape (c : Char) : List Char := if isEscaped c then escapeCode c.toNat else [c]

def quoted (s : String) : List Char := '"' :: upTo '"' escape s.toList

def decimal (n : Int) : List Char :=
  if n < 0 then '-' :: Nat.toDigits 10 n.natAbs else Nat.toDigits 10 n.natAbs

def JsonValue.text : JsonValue → List Char
  | .null => ['n', 'u', 'l', 'l']
  | .num n => decimal n
  | .str s => quoted s
  | .strs items => enclosed '[' ',' ']' quoted items

def entryText (entry : String × JsonValue) : List Char := quoted entry.1 ++ ':' :: entry.2.text

/-- `JSON.stringify` of an object with these entries, in their order. -/
def stringify (entries : List (String × JsonValue)) : String :=
  String.ofList (enclosed '{' ',' '}' entryText entries)

/-! ## Strings -/

theorem escapeCode_head (n : Nat) : ∃ rest, escapeCode n = '\\' :: rest := by
  unfold escapeCode
  split <;> exact ⟨_, rfl⟩

theorem escapeCode_apart : ∀ n ∈ List.range 32 ++ [34, 92], ∀ m ∈ List.range 32 ++ [34, 92],
    escapeCode n <+: escapeCode m → n = m := by
  decide

theorem isEscaped_code {c : Char} (escaped : isEscaped c = true) :
    c.toNat ∈ List.range 32 ++ [34, 92] := by
  simp only [isEscaped, Bool.or_eq_true, decide_eq_true_eq, beq_iff_eq] at escaped
  rcases escaped with (control | rfl) | rfl
  · exact List.mem_append_left _ (List.mem_range.mpr control)
  · decide
  · decide

theorem escape_prefixFree (c d : Char) (begins : escape c <+: escape d) : c = d := by
  unfold escape at begins
  -- The backslash is escaped itself, so it starts no other word.
  have backslash {a : Char} (plain : ¬ isEscaped a = true) (same : a = '\\') : False :=
    plain (by rw [same]; rfl)
  split at begins
  next first =>
    split at begins
    next second =>
      exact Char.toNat_inj.mp (escapeCode_apart _ (isEscaped_code first) _ (isEscaped_code second) begins)
    next plain =>
      obtain ⟨rest, word⟩ := escapeCode_head c.toNat
      rw [word, List.cons_prefix_cons] at begins
      exact (backslash plain begins.1.symm).elim
  next plain =>
    split at begins
    next second =>
      obtain ⟨rest, word⟩ := escapeCode_head d.toNat
      rw [word, List.cons_prefix_cons] at begins
      exact (backslash plain begins.1).elim
    next => exact (List.cons_prefix_cons.mp begins).1

theorem escape_apart (c : Char) (s : List Char) : (escape c ++ s).head? ≠ some '"' := by
  unfold escape
  split
  next =>
    obtain ⟨rest, word⟩ := escapeCode_head c.toNat
    rw [word]
    exact fun same => absurd (Option.some.inj same) (by decide)
  next plain =>
    intro same
    cases Option.some.inj same
    exact plain rfl

theorem quoted_delimited (stop : List Char → Prop) : Delimited stop quoted := by
  have letters : Delimited (fun _ => True) escape := .of_prefixFree escape_prefixFree
  have word : Delimited stop (upTo '"' escape) :=
    letters.upTo (fun _ => trivial) (fun _ _ => trivial) escape_apart
  exact (word.comp fun _ _ same => String.toList_inj.mp same).cons '"'

/-! ## Numbers -/

def inNumber (c : Char) : Bool := c.isDigit || c == '-'

/-- What follows a value does not continue a number. -/
def Ends (s : List Char) : Prop := ∀ c ∈ s.head?, inNumber c = false

theorem digits_inNumber {n : Nat} {c : Char} (member : c ∈ Nat.toDigits 10 n) : c.isDigit = true :=
  Nat.isDigit_of_mem_toDigits (by decide) (by decide) member

theorem decimal_injective : Function.Injective decimal := by
  have digits {n m : Nat} (same : Nat.toDigits 10 n = Nat.toDigits 10 m) : n = m := by
    have read := congrArg (Nat.ofDigitChars 10 · 0) same
    simpa using read
  have unsigned {n m : Nat} (same : '-' :: Nat.toDigits 10 n = Nat.toDigits 10 m) : False := by
    have sign := digits_inNumber (n := m) (c := '-') (same ▸ List.mem_cons_self)
    exact absurd sign (by decide)
  intro a b same
  unfold decimal at same
  split at same <;> split at same
  · have size := digits (List.cons_inj_right _ |>.mp same)
    omega
  · exact (unsigned same).elim
  · exact (unsigned same.symm).elim
  · have size := digits same
    omega

theorem decimal_inNumber (n : Int) : ∀ c ∈ decimal n, inNumber c = true := by
  intro c member
  unfold decimal at member
  split at member
  · rcases List.mem_cons.mp member with rfl | digit
    · rfl
    · simp [inNumber, digits_inNumber digit]
  · simp [inNumber, digits_inNumber member]

/-! ## Values and records -/

/-- What the first letter of a value tells. -/
def JsonValue.kindOf (c : Char) : Nat :=
  if c = 'n' then 0 else if c = '"' then 2 else if c = '[' then 3 else 1

def JsonValue.kind : JsonValue → Nat
  | .null => 0
  | .num _ => 1
  | .str _ => 2
  | .strs _ => 3

theorem text_head (v : JsonValue) : ∃ c rest, v.text = c :: rest ∧ JsonValue.kindOf c = v.kind := by
  cases v with
  | null => exact ⟨_, _, rfl, rfl⟩
  | num n =>
      cases word : decimal n with
      | nil =>
          unfold decimal at word
          split at word
          · cases word
          · exact absurd word Nat.toDigits_ne_nil
      | cons c rest =>
          refine ⟨c, rest, word, ?_⟩
          have letter := decimal_inNumber n c (word ▸ List.mem_cons_self)
          have other {d : Char} (outside : inNumber d = false) : c ≠ d := by
            rintro rfl
            rw [letter] at outside
            cases outside
          rw [JsonValue.kindOf, if_neg (other rfl), if_neg (other rfl), if_neg (other rfl)]
          rfl
  | str s => exact ⟨_, _, rfl, rfl⟩
  | strs items => cases items <;> exact ⟨_, _, rfl, rfl⟩

theorem text_delimited : Delimited Ends JsonValue.text := by
  intro a b s t first second same
  have kinds : a.kind = b.kind := by
    obtain ⟨c, rest, word, kind⟩ := text_head a
    obtain ⟨d, rest', word', kind'⟩ := text_head b
    rw [word, word', List.cons_append, List.cons_append, List.cons.injEq] at same
    rw [← kind, ← kind', same.1]
  cases a with
  | null =>
      cases b <;> cases kinds
      exact ⟨rfl, List.append_cancel_left same⟩
  | num n =>
      cases b <;> cases kinds
      obtain ⟨rfl, rest⟩ :=
        Delimited.of_alphabet decimal_injective decimal_inNumber _ _ s t first second same
      exact ⟨rfl, rest⟩
  | str s =>
      cases b <;> cases kinds
      obtain ⟨rfl, rest⟩ := quoted_delimited Ends _ _ _ t first second same
      exact ⟨rfl, rest⟩
  | strs items =>
      cases b <;> cases kinds
      have list : Delimited Ends (enclosed '[' ',' ']' quoted) :=
        (quoted_delimited fun _ => True).enclosed (fun _ => trivial) (fun _ => trivial)
          (fun _ _ => by simp [quoted]) (by decide)
      obtain ⟨rfl, rest⟩ := list _ _ s t first second same
      exact ⟨rfl, rest⟩

theorem entryText_delimited : Delimited Ends entryText :=
  (quoted_delimited fun _ => True).pair (text_delimited.cons ':') fun _ _ _ => trivial

theorem stringify_injective : Function.Injective stringify := by
  have record : Delimited (fun _ => True) (enclosed '{' ',' '}' entryText) :=
    entryText_delimited.enclosed (fun _ c member => by cases member; rfl)
      (fun _ c member => by cases member; rfl)
      (fun _ _ => by simp [entryText, quoted]) (by decide)
  intro entries others same
  exact record.injective trivial (String.ofList_injective same)

example : stringify [("a", .null), ("b\"", .strs ["x", "y\n"]), ("c", .num (-12))] =
    "\x7b\"a\":null,\"b\\\"\":[\"x\",\"y\\n\"],\"c\":-12\x7d" := by
  decide

/-- Entries under the same distinct keys are told by the set of them. -/
theorem entries_determined {entries others : List (String × JsonValue)} (perm : entries.Perm others)
    (keys : entries.map (·.1) = others.map (·.1)) (distinct : (entries.map (·.1)).Nodup) :
    entries = others := by
  refine List.ext_getElem perm.length_eq fun i first second => ?_
  have key : entries[i].1 = others[i].1 := by
    have both := congrArg (·[i]?) keys
    simpa [first, second] using both
  exact List.inj_on_of_nodup_map distinct (List.getElem_mem first)
    (perm.symm.subset (List.getElem_mem second)) key

end AccreditationBackend.Foundation
