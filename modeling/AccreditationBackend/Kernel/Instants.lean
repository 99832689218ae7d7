import AccreditationBackend.Store.Rows

/-! Instants and strings as the language's own library writes and reads them. -/

set_option autoImplicit false

namespace AccreditationBackend

/-- Year, month and day of a day counted from the epoch, in the proleptic Gregorian calendar. -/
def civilOfDay (day : Int) : Int × Int × Int :=
  -- Years are counted from March, so that the leap day comes last.
  let shifted := day + 719468
  let era := shifted / 146097
  let dayOfEra := shifted % 146097
  let yearOfEra := (dayOfEra - dayOfEra / 1460 + dayOfEra / 36524 - dayOfEra / 146096) / 365
  let dayOfYear := dayOfEra - (365 * yearOfEra + yearOfEra / 4 - yearOfEra / 100)
  let monthFromMarch := (5 * dayOfYear + 2) / 153
  let month := if monthFromMarch < 10 then monthFromMarch + 3 else monthFromMarch - 9
  (yearOfEra + era * 400 + if month ≤ 2 then 1 else 0, month, dayOfYear - (153 * monthFromMarch + 2) / 5 + 1)

def padded (width : Nat) (n : Nat) : String := String.ofList ((toString n).toList.leftpad width '0')

/-- `Date.prototype.toISOString`; years outside four digits carry a sign and six. -/
def toISOString (t : Time) : String :=
  let (year, month, day) := civilOfDay (t / 86400000)
  let time := (t % 86400000).toNat
  let years := if 0 ≤ year ∧ year ≤ 9999 then padded 4 year.toNat
    else (if year < 0 then "-" else "+") ++ padded 6 year.natAbs
  years ++ "-" ++ padded 2 month.toNat ++ "-" ++ padded 2 day.toNat ++ "T" ++
    padded 2 (time / 3600000) ++ ":" ++
    padded 2 (time / 60000 % 60) ++ ":" ++ padded 2 (time / 1000 % 60) ++ "." ++
      padded 3 (time % 1000) ++ "Z"

/-- White space and line terminators, as `trim` takes them off. -/
def isJsSpace (c : Char) : Bool :=
  let n := c.toNat
  (9 ≤ n && n ≤ 13) || (0x2000 ≤ n && n ≤ 0x200A) ||
    [0x20, 0xA0, 0x1680, 0x2028, 0x2029, 0x202F, 0x205F, 0x3000, 0xFEFF].contains n

def jsTrim (s : String) : List Char :=
  ((s.toList.dropWhile isJsSpace).reverse.dropWhile isJsSpace).reverse

end AccreditationBackend
