import AccreditationBackend.Foundation.CodeUnits
import AccreditationBackend.Foundation.Json
import AccreditationBackend.Foundation.Readers

/-! Flat JSON records over arbitrary strings, written as text and read back. -/

set_option autoImplicit false

namespace AccreditationBackend.Foundation.JSON

/-- A value of a flat record; a number is an integer that a double holds exactly. -/
inductive Value where
  | null
  | num (n : Int)
  | str (s : CodeUnits)
  | strs (items : List CodeUnits)
  deriving DecidableEq, Repr

abbrev Member := CodeUnits × Value

/-! ## Writing -/

def unicodeEscape (n : Nat) : List Char :=
  ['\\', 'u', (n / 4096).digitChar, (n / 256 % 16).digitChar, (n / 16 % 16).digitChar, (n % 16).digitChar]

/-- A lone surrogate is escaped, so the text has none. -/
def escapePoint : CodePoint → List Char
  | .scalar c => escape c
  | .lone u _ => unicodeEscape u.toNat

def quote (s : CodeUnits) : List Char := '"' :: upTo '"' escapePoint (codePoints s)

def Value.text : Value → List Char
  | .null => ['n', 'u', 'l', 'l']
  | .num n => decimal n
  | .str s => quote s
  | .strs items => enclosed '[' ',' ']' quote items

def memberText (member : Member) : List Char := quote member.1 ++ ':' :: member.2.text

/-- `JSON.stringify` of an object with these members, in their order. -/
def stringify (members : List Member) : String :=
  String.ofList (enclosed '{' ',' '}' memberText members)

/-! ## Reading -/

def isBlank (c : Char) : Bool := c == ' ' || c == '\t' || c == '\n' || c == '\r'

def skipBlanks (s : List Char) : List Char := s.dropWhile isBlank

def hexDigit (c : Char) : Option Nat :=
  if c.isDigit then some (c.toNat - 48)
  else if 'a' ≤ c ∧ c ≤ 'f' then some (c.toNat - 87)
  else if 'A' ≤ c ∧ c ≤ 'F' then some (c.toNat - 55)
  else none

def unescaped (letter : Char) : Option Nat :=
  if letter = '/' then some 47 else (shortEscapes.find? fun short => short.2 == letter).map (·.1)

/-- What follows a backslash. -/
def readEscape : Reader Char CodeUnits
  | 'u' :: a :: b :: c :: d :: rest => do
      let a ← hexDigit a
      let b ← hexDigit b
      let c ← hexDigit c
      let d ← hexDigit d
      return ([.ofNat (((a * 16 + b) * 16 + c) * 16 + d)], rest)
  | letter :: rest => do
      let n ← unescaped letter
      return ([.ofNat n], rest)
  | [] => none

def readElement : Reader Char CodeUnits
  | [] => none
  | c :: rest =>
      if c = '\\' then readEscape rest
      else if c.toNat < 32 then none
      else some (encodeChar c, rest)

def readString : Reader Char CodeUnits :=
  Reader.after '"' ((Reader.upTo '"' readElement).map List.flatten)

/-- Without leading zeros. -/
def readDigits : Reader Char Nat := fun s =>
  let digits := s.takeWhile Char.isDigit
  if digits = [] ∨ (digits.head? = some '0' ∧ digits.length ≠ 1) then none
  else some (Nat.ofDigitChars 10 digits 0, s.dropWhile Char.isDigit)

def readNumber : Reader Char Int := fun s =>
  if s.head? = some '-' then Reader.map (fun n : Nat => -(n : Int)) readDigits s.tail
  else Reader.map (fun n : Nat => (n : Int)) readDigits s

def readValue : Reader Char Value := fun s =>
  if s.head? = some 'n' then if s.take 4 = ['n', 'u', 'l', 'l'] then some (.null, s.drop 4) else none
  else if s.head? = some '"' then readString.map .str s
  else if s.head? = some '[' then (Reader.enclosed skipBlanks '[' ',' ']' readString).map .strs s
  else readNumber.map .num s

def readMember : Reader Char Member :=
  readString.pair (Reader.past skipBlanks (Reader.after ':' (Reader.past skipBlanks readValue)))

/-- `JSON.parse` of the text of a flat record, with its members in their order. Other
texts, also those of other values, are refused here. -/
def parse (text : String) : Option (List Member) := do
  let (members, rest) ← Reader.enclosed skipBlanks '{' ',' '}' readMember (skipBlanks text.toList)
  if skipBlanks rest = [] then some members else none

/-- A property of the parsed object: of two members under one key, the last one counts. -/
def property (members : List Member) (key : CodeUnits) : Option Value := members.reverse.lookup key

/-! ## Strings -/

theorem hexDigit_digitChar : ∀ k < 16, hexDigit k.digitChar = some k := by
  decide

theorem readElement_unicodeEscape {n : Nat} (small : n < 0x10000) (s : List Char) :
    readElement (unicodeEscape n ++ s) = some ([.ofNat n], s) := by
  have first := hexDigit_digitChar (n / 4096) (by omega)
  have second := hexDigit_digitChar (n / 256 % 16) (by omega)
  have third := hexDigit_digitChar (n / 16 % 16) (by omega)
  have fourth := hexDigit_digitChar (n % 16) (by omega)
  have whole : ((n / 4096 * 16 + n / 256 % 16) * 16 + n / 16 % 16) * 16 + n % 16 = n := by omega
  simp only [unicodeEscape, List.cons_append, List.nil_append, readElement, if_true, readEscape, first,
    second, third, fourth, whole, Option.bind_eq_bind, Option.bind_some, Option.pure_def]

theorem unescaped_short :
    ∀ short ∈ shortEscapes, short.2 ≠ 'u' ∧ unescaped short.2 = some short.1 := by
  decide

theorem readEscape_letter {letter : Char} (other : letter ≠ 'u') {n : Nat}
    (known : unescaped letter = some n) (s : List Char) :
    readEscape (letter :: s) = some ([.ofNat n], s) := by
  unfold readEscape
  split
  next same => exact absurd (List.cons.inj same).1 other
  next same =>
    cases same
    simp only [known, Option.bind_eq_bind, Option.bind_some, Option.pure_def]
  next same => cases same

theorem readElement_escapeCode {n : Nat} (small : n < 256) (s : List Char) :
    readElement (escapeCode n ++ s) = some ([.ofNat n], s) := by
  unfold escapeCode
  split
  next letter short =>
    obtain ⟨front, back, table, -⟩ := List.lookup_eq_some_iff.mp short
    obtain ⟨other, known⟩ := unescaped_short (n, letter) (by rw [table]; simp)
    exact readEscape_letter other known s
  next =>
    have same : ['\\', 'u', '0', '0', (n / 16).digitChar, (n % 16).digitChar] = unicodeEscape n := by
      have first : n / 4096 = 0 := by omega
      have second : n / 256 % 16 = 0 := by omega
      have third : n / 16 % 16 = n / 16 := by omega
      rw [unicodeEscape, first, second, third]
      rfl
    rw [same, readElement_unicodeEscape (by omega)]

theorem readElement_escape (c : Char) (s : List Char) :
    readElement (escape c ++ s) = some (encodeChar c, s) := by
  unfold escape
  split
  next escaped =>
    have small : c.toNat < 256 := by
      rcases List.mem_append.mp (isEscaped_code escaped) with control | quotes
      · have := List.mem_range.mp control
        omega
      · simp only [List.mem_cons, List.not_mem_nil, or_false] at quotes
        omega
    rw [readElement_escapeCode small, encodeChar, if_pos (by omega)]
  next plain =>
    simp only [isEscaped, Bool.or_eq_true, decide_eq_true_eq, beq_iff_eq, not_or] at plain
    rw [List.singleton_append, readElement, if_neg plain.2, if_neg plain.1.1]

theorem readElement_reads : Reads (fun _ => True) readElement escapePoint CodePoint.units := by
  intro p s _
  cases p with
  | scalar c => exact readElement_escape c s
  | lone u surrogate =>
      rw [escapePoint, readElement_unicodeEscape u.toNat_lt, UInt16.ofNat_toNat]
      rfl

/-- A word of a code point starts with no quotation mark. -/
theorem escapePoint_apart (p : CodePoint) (s : List Char) : (escapePoint p ++ s).head? ≠ some '"' := by
  cases p with
  | scalar c => exact escape_apart c s
  | lone u surrogate => exact fun same => absurd (Option.some.inj same) (by decide)

theorem readString_reads (stop : List Char → Prop) : Reads stop readString quote id := by
  have pieces : Reads stop (Reader.upTo '"' readElement) (upTo '"' escapePoint)
      (List.map CodePoint.units) :=
    readElement_reads.upTo (fun _ => trivial) (fun _ _ => trivial) escapePoint_apart
  have whole : (fun s => ((codePoints s).map CodePoint.units).flatten) = id :=
    funext fun s => List.flatMap_def.symm.trans (flatMap_codePoints s)
  rw [← whole]
  exact ((pieces.map List.flatten).cons '"').comp codePoints

/-! ## Numbers -/

/-- What follows a value does not go on with its number. -/
def NoDigit (s : List Char) : Prop := ∀ c ∈ s.head?, c.isDigit = false

/-- Only the number zero starts with a zero. -/
theorem toDigits_head {n : Nat} (zero : (Nat.toDigits 10 n).head? = some '0') : n = 0 := by
  induction n using Nat.strongRecOn with
  | ind n ih =>
      by_cases small : n < 10
      · rw [Nat.toDigits_of_lt_base small, List.head?_cons, Option.some.injEq] at zero
        exact Nat.digitChar_eq_zero.mp zero
      · have fewer : n / 10 < n := by omega
        rw [Nat.toDigits_of_base_le (by decide) (by omega), List.head?_append_of_ne_nil _ Nat.toDigits_ne_nil] at zero
        have := ih (n / 10) fewer zero
        omega

theorem readDigits_reads : Reads NoDigit readDigits (Nat.toDigits 10) id := by
  intro n s follows
  have digits : (Nat.toDigits 10 n ++ s).takeWhile Char.isDigit = Nat.toDigits 10 n ∧
      (Nat.toDigits 10 n ++ s).dropWhile Char.isDigit = s := by
    rw [List.takeWhile_append_of_pos fun c => digits_inNumber, List.dropWhile_append_of_pos fun c => digits_inNumber]
    cases s with
    | nil => exact ⟨List.append_nil _, rfl⟩
    | cons c rest => simp [follows c rfl]
  have proper : ¬ (Nat.toDigits 10 n = [] ∨
      (Nat.toDigits 10 n).head? = some '0' ∧ (Nat.toDigits 10 n).length ≠ 1) := by
    rintro (empty | ⟨zero, long⟩)
    · exact Nat.toDigits_ne_nil empty
    · rw [toDigits_head zero] at long
      exact long rfl
  simp only [readDigits, digits.1, digits.2, if_neg proper, Nat.ofDigitChars_ten_toDigits, id]

theorem readNumber_reads : Reads NoDigit readNumber decimal id := by
  intro n s follows
  unfold decimal
  split
  next negative =>
    have value : -(n.natAbs : Int) = n := by omega
    rw [List.cons_append, readNumber, List.head?_cons, if_pos rfl, List.tail_cons, Reader.map,
      readDigits_reads n.natAbs s follows, Option.map_some, id, value, id]
  next positive =>
    have value : (n.natAbs : Int) = n := by omega
    have sign : (Nat.toDigits 10 n.natAbs ++ s).head? ≠ some '-' := by
      intro same
      rw [List.head?_append_of_ne_nil _ Nat.toDigits_ne_nil] at same
      exact absurd (digits_inNumber (List.mem_of_head? same)) (by decide)
    rw [readNumber, if_neg sign, Reader.map, readDigits_reads n.natAbs s follows, Option.map_some,
      id, value, id]

/-! ## Values and records -/

/-- What stands behind a value: a comma, or the end of a list or of a record. -/
def Stops (s : List Char) : Prop := ∃ c ∈ [',', ']', '}'], s.head? = some c

theorem Stops.cons {c : Char} (mark : c ∈ [',', ']', '}']) (s : List Char) : Stops (c :: s) :=
  ⟨c, mark, rfl⟩

theorem skipBlanks_solid {s : List Char} (solid : ∀ c ∈ s.head?, isBlank c = false) :
    skipBlanks s = s := by
  cases s with
  | nil => rfl
  | cons c rest => rw [skipBlanks, List.dropWhile_cons_of_neg (by simp [solid c rfl])]

theorem marks_apart : ∀ c ∈ [',', ']', '}'], isBlank c = false ∧ c.isDigit = false := by
  intro c mark
  simp only [List.mem_cons, List.not_mem_nil, or_false] at mark
  rcases mark with rfl | rfl | rfl <;> decide

theorem Stops.solid {s : List Char} (stops : Stops s) : skipBlanks s = s := by
  obtain ⟨c, mark, head⟩ := stops
  refine skipBlanks_solid fun d found => ?_
  cases head.symm.trans found
  exact (marks_apart c mark).1

theorem Stops.noDigit {s : List Char} (stops : Stops s) : NoDigit s := by
  obtain ⟨c, mark, head⟩ := stops
  intro d found
  cases head.symm.trans found
  exact (marks_apart c mark).2

theorem quote_solid (s : CodeUnits) (rest : List Char) :
    skipBlanks (quote s ++ rest) = quote s ++ rest :=
  skipBlanks_solid fun c found => by cases found; rfl

theorem decimal_head (n : Int) (s : List Char) :
    ∃ c, (decimal n ++ s).head? = some c ∧ inNumber c = true := by
  cases word : decimal n with
  | nil =>
      unfold decimal at word
      split at word
      · cases word
      · exact absurd word Nat.toDigits_ne_nil
  | cons c rest => exact ⟨c, rfl, decimal_inNumber n c (word ▸ List.mem_cons_self)⟩

theorem text_solid (v : Value) (s : List Char) : skipBlanks (v.text ++ s) = v.text ++ s := by
  refine skipBlanks_solid fun c found => ?_
  cases v with
  | null => cases found; rfl
  | str t => cases found; rfl
  | strs items => cases items <;> cases found <;> rfl
  | num n =>
      obtain ⟨d, head, letter⟩ := decimal_head n s
      cases head.symm.trans found
      by_contra blank
      simp only [isBlank, Bool.not_eq_false, Bool.or_eq_true, beq_iff_eq] at blank
      rcases blank with ((rfl | rfl) | rfl) | rfl <;> cases letter

theorem readStrings_reads (stop : List Char → Prop) :
    Reads stop (Reader.enclosed skipBlanks '[' ',' ']' readString) (enclosed '[' ',' ']' quote)
      (List.map id) :=
  (readString_reads Stops).enclosed (.cons (by decide)) (.cons (by decide))
    (fun _ _ same => absurd (Option.some.inj same) (by decide))
    (by decide) quote_solid fun _ => Stops.solid

theorem readValue_reads : Reads Stops readValue Value.text id := by
  intro v s stops
  cases v with
  | null => rfl
  | str t => exact (readString_reads Stops).map Value.str t s stops
  | strs items =>
      have read := (readStrings_reads Stops).map Value.strs items s stops
      cases items <;> exact read.trans (by simp only [List.map_id, id])
  | num n =>
      obtain ⟨c, head, letter⟩ := decimal_head n s
      have other {d : Char} (outside : inNumber d = false) : (decimal n ++ s).head? ≠ some d := by
        intro same
        cases head.symm.trans same
        rw [letter] at outside
        cases outside
      rw [Value.text, readValue, if_neg (other rfl), if_neg (other rfl), if_neg (other rfl)]
      exact readNumber_reads.map Value.num n s stops.noDigit

theorem readMember_reads : Reads Stops readMember memberText id := by
  have colon (v : Value) (s : List Char) : skipBlanks (':' :: v.text ++ s) = ':' :: v.text ++ s :=
    skipBlanks_solid fun c found => by cases found; rfl
  have value :
      Reads Stops (Reader.past skipBlanks (Reader.after ':' (Reader.past skipBlanks readValue)))
      (fun v : Value => ':' :: v.text) id :=
    ((readValue_reads.past text_solid).cons ':').past colon
  exact (readString_reads fun _ => True).pair value fun _ _ _ => trivial

/-- Parsing gives back the members that were written. -/
theorem parse_stringify (members : List Member) : parse (stringify members) = some members := by
  have record : Reads (fun _ => True) (Reader.enclosed skipBlanks '{' ',' '}' readMember)
      (enclosed '{' ',' '}' memberText) (List.map id) :=
    readMember_reads.enclosed (.cons (by decide)) (.cons (by decide))
      (fun _ _ same => absurd (Option.some.inj same) (by decide)) (by decide)
      (fun _ _ => skipBlanks_solid fun c found => by cases found; rfl) fun _ => Stops.solid
  have read := record members [] trivial
  rw [List.append_nil, List.map_id] at read
  have text : skipBlanks (stringify members).toList = enclosed '{' ',' '}' memberText members := by
    rw [stringify, String.toList_ofList]
    exact skipBlanks_solid fun c found => by cases members <;> cases found <;> rfl
  rw [parse, text, read]
  rfl

/-! ## Properties -/

/-- Under distinct keys, a property is any member of its key. -/
theorem property_iff {members : List Member} (distinct : (members.map (·.1)).Nodup) {key : CodeUnits}
    {v : Value} : property members key = some v ↔ (key, v) ∈ members := by
  rw [property, List.lookup_eq_some_iff, ← List.mem_reverse]
  constructor
  · rintro ⟨front, back, same, -⟩
    rw [same]
    exact List.mem_append_right _ List.mem_cons_self
  · intro member
    obtain ⟨front, back, same⟩ := List.append_of_mem member
    have apart : (members.reverse.map (·.1)).Nodup := by
      rwa [List.map_reverse, List.nodup_reverse]
    refine ⟨front, back, same, fun other before => ?_⟩
    rw [same, List.map_append, List.nodup_append] at apart
    exact bne_iff_ne.mpr (apart.2.2 _ (List.mem_map_of_mem before) _ List.mem_cons_self).symm

/-- The order of the members does not matter. -/
theorem property_perm {members others : List Member} (distinct : (members.map (·.1)).Nodup)
    (perm : others.Perm members) (key : CodeUnits) : property others key = property members key := by
  have distinct' : (others.map (·.1)).Nodup := (perm.map _).nodup_iff.mpr distinct
  ext v
  rw [property_iff distinct', property_iff distinct, perm.mem_iff]

example : parse "\x7b \"a\" : [ \"\\u0041\", \"\\n\" ] ,\"b\":-1\x7d" =
    some [(codeUnits "a", .strs [codeUnits "A", codeUnits "\n"]), (codeUnits "b", .num (-1))] := by
  decide

/-! ## Records of Unicode texts -/

def ofJson : JsonValue → Value
  | .null => .null
  | .num n => .num n
  | .str s => .str (codeUnits s)
  | .strs items => .strs (items.map codeUnits)

def ofEntry (entry : String × JsonValue) : Member := (codeUnits entry.1, ofJson entry.2)

theorem quote_codeUnits (s : String) : quote (codeUnits s) = quoted s := by
  rw [quote, quoted, codePoints_codeUnits, upTo, upTo, List.flatMap_map]
  rfl

theorem text_ofJson (v : JsonValue) : (ofJson v).text = v.text := by
  cases v with
  | null => rfl
  | num n => rfl
  | str s => exact quote_codeUnits s
  | strs items =>
      rw [ofJson, Value.text, JsonValue.text, enclosed_map]
      exact congrArg (enclosed '[' ',' ']' · items) (funext quote_codeUnits)

/-- On Unicode texts the serialisation is the one without surrogates. -/
theorem stringify_ofEntry (entries : List (String × JsonValue)) :
    stringify (entries.map ofEntry) = Foundation.stringify entries := by
  have member : (fun entry => memberText (ofEntry entry)) = entryText := by
    funext entry
    rw [memberText, ofEntry, quote_codeUnits, text_ofJson, entryText]
  rw [stringify, Foundation.stringify, enclosed_map, member]

end AccreditationBackend.Foundation.JSON
