import BlogRouting.Text.Hexadecimal

/-!
# Numerals

Numbers in paths, ports and date-times are written with ASCII digits. Leading zeros never change
a value and no value is too large to be read: limits belong to whoever asks for the number.
-/

namespace BlogRouting.Numeral

def digitValue (c : Char) : Nat :=
  c.toNat - '0'.toNat

/-- The value of a sequence of decimal digits. -/
def value (digits : List Char) : Nat :=
  digits.foldl (fun n c => 10 * n + digitValue c) 0

/-- Reads one or more decimal digits and nothing else. -/
def decimal? (text : List Char) : Option Nat :=
  if text ≠ [] ∧ text.all Char.isDigit then some (value text) else none

/-- Reads a decimal numeral that may begin with a plus sign. -/
def unsigned? : List Char → Option Nat
  | '+' :: digits => decimal? digits
  | text => decimal? text

/-- Reads a decimal numeral that may begin with a sign. -/
def signed? : List Char → Option Int
  | '-' :: digits => (decimal? digits).map fun n => -(n : Int)
  | text => (unsigned? text).map fun n => (n : Int)

/-- Reads one or more digits in a base of at most sixteen and nothing else. -/
def inBase? (base : Nat) (digits : List Char) : Option Nat := do
  guard (digits ≠ [])
  digits.foldlM (fun n c => do
    let d ← hexValue? c
    guard (d < base)
    return base * n + d) 0

end BlogRouting.Numeral
