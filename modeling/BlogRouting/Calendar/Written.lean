import BlogRouting.Calendar.DateTime
import BlogRouting.Text.Blank
import BlogRouting.Text.Numeral

/-!
# Written date-times

The written form is `2004-04-01T12:30:00`, with a fraction of three, six or nine digits after the
second where one is needed. Years outside 0 to 9999 carry a sign. Reading is more lenient: blanks
may stand before a number, a separator and at the end, and numbers need no leading zeros.
-/

namespace BlogRouting.DateTime

/-! ### Writing -/

/-- The decimal digits of `n`, with zeros in front up to `width`. -/
def padded (width n : Nat) : String :=
  let digits := toString n
  String.ofList (List.replicate (width - digits.length) '0') ++ digits

/-- Four digits, or a sign and at least four digits. -/
def yearText (year : Int) : String :=
  let digits := padded 4 year.natAbs
  if year < 0 then "-" ++ digits else if year ≤ 9999 then digits else "+" ++ digits

/-- The shortest of no digits, three, six and nine that is exact. -/
def fractionText (nanosecond : Nat) : String :=
  if nanosecond = 0 then ""
  else if nanosecond % 1000000 = 0 then "." ++ padded 3 (nanosecond / 1000000)
  else if nanosecond % 1000 = 0 then "." ++ padded 6 (nanosecond / 1000)
  else "." ++ padded 9 nanosecond

def text (t : DateTime) : String :=
  yearText t.year ++ "-" ++ padded 2 t.month ++ "-" ++ padded 2 t.day
    ++ "T" ++ padded 2 t.hour ++ ":" ++ padded 2 t.minute ++ ":" ++ padded 2 t.second
    ++ fractionText t.nanosecond

/-! ### Reading -/

/-- Reads digits, at least one and at most `limit` if there is a limit, and gives the rest. -/
def digits? (limit : Option Nat) (text : List Char) : Option (Nat × List Char) :=
  let run := text.takeWhile Char.isDigit
  let digits := limit.elim run run.take
  if digits = [] then none else some (Numeral.value digits, text.drop digits.length)

/-- Reads one or two digits after blanks. -/
def field? (text : List Char) : Option (Nat × List Char) :=
  digits? (some 2) (skipBlank text)

/-- Reads the character `c` after blanks and gives the rest. -/
def separator? (c : Char) (text : List Char) : Option (List Char) :=
  match skipBlank text with
  | d :: rest => if d = c then some rest else none
  | [] => none

/-- Reads a year after blanks: up to four digits, or a sign and any number of digits. -/
def year? (text : List Char) : Option (Int × List Char) :=
  match skipBlank text with
  | '-' :: rest => (digits? none rest).map fun (n, rest) => (-(n : Int), rest)
  | '+' :: rest => (digits? none rest).map fun (n, rest) => ((n : Int), rest)
  | rest => (digits? (some 4) rest).map fun (n, rest) => ((n : Int), rest)

/-- Reads a fraction of a second in nanoseconds, if a point follows. Digits after the ninth are
dropped. -/
def fraction? : List Char → Option (Nat × List Char)
  | '.' :: text =>
    let run := text.takeWhile Char.isDigit
    let digits := run.take 9
    if digits = [] then none
    else some (Numeral.value digits * Nat.pow 10 (9 - digits.length), text.drop run.length)
  | text => some (0, text)

/-- Reads a text that is a date-time as a whole. -/
def parse? (text : String) : Option DateTime := do
  let (year, rest) ← year? text.toList
  let (month, rest) ← field? (← separator? '-' rest)
  let (day, rest) ← field? (← separator? '-' rest)
  let (hour, rest) ← field? (← separator? 'T' rest)
  let (minute, rest) ← field? (← separator? ':' rest)
  let (second, rest) ← field? (← separator? ':' rest)
  let (nanosecond, rest) ← fraction? rest
  guard (skipBlank rest = [])
  let t : DateTime := { year, month, day, hour, minute, second, nanosecond }
  guard t.isValid
  return t

end BlogRouting.DateTime
