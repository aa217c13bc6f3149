import BlogRouting.Text.Numeral

/-!
# IP addresses

A host whose last label is a number is an IPv4 address: one to four numbers, decimal, octal or
hexadecimal, the last of which fills the bytes that are left. A host in brackets is an IPv6
address.
-/

namespace BlogRouting.Url

/-! ### IPv4 -/

/-- A number of an IPv4 address. `0x` alone is zero. -/
def ipv4Number? : List Char → Option Nat
  | [] => none
  | ['0', 'x'] | ['0', 'X'] => some 0
  | '0' :: 'x' :: digits | '0' :: 'X' :: digits => Numeral.inBase? 16 digits
  | '0' :: c :: digits => Numeral.inBase? 8 (c :: digits)
  | digits => Numeral.inBase? 10 digits

/-- The labels of a domain, without the empty one after a dot at the end. -/
def labelsOf (domain : List Char) : List (List Char) :=
  match (domain.splitOn '.').reverse with
  | [] :: labels => labels.reverse
  | labels => labels.reverse

/-- Whether the domain has to be read as an IPv4 address. -/
def endsInNumber (domain : List Char) : Bool :=
  match (labelsOf domain).getLast? with
  | none | some [] => false
  | some label => label.all Char.isDigit || (ipv4Number? label).isSome

/-- The address of one to four numbers. The last one fills the bytes that the others leave. -/
def ipv4OfNumbers? (numbers : List Nat) : Option Nat := do
  let last ← numbers.getLast?
  let bytes := numbers.dropLast
  guard (numbers.length ≤ 4)
  guard (bytes.all (· < 256))
  let rest := Nat.pow 256 (4 - bytes.length)
  guard (last < rest)
  let leading := bytes.foldl (fun n byte => 256 * n + byte) 0
  return leading * rest + last

def ipv4? (domain : List Char) : Option Nat := do
  ipv4OfNumbers? (← (labelsOf domain).mapM ipv4Number?)

/-! ### IPv6 -/

/-- The text in front of the first `::` and the text after it, if there is one. -/
def cutAtGap : List Char → List Char × Option (List Char)
  | ':' :: ':' :: rest => ([], some rest)
  | c :: rest =>
    let (front, back) := cutAtGap rest
    (c :: front, back)
  | [] => ([], none)

/-- One to four hexadecimal digits. -/
def ipv6Piece? (text : List Char) : Option Nat :=
  if text.length ≤ 4 then Numeral.inBase? 16 text else none

/-- A byte in decimal digits without leading zeros. -/
def ipv4Byte? (text : List Char) : Option Nat := do
  guard (text.length ≤ 3 ∧ (text = ['0'] ∨ text.head? ≠ some '0'))
  let n ← Numeral.inBase? 10 text
  guard (n < 256)
  return n

/-- The two pieces that a dotted address stands for. -/
def dottedPieces? (text : List Char) : Option (List Nat) := do
  match ← (text.splitOn '.').mapM ipv4Byte? with
  | [a, b, c, d] => return [256 * a + b, 256 * c + d]
  | _ => none

/-- The pieces of a part of an address. The last may be dotted if the address ends here. -/
def ipv6Pieces? (final : Bool) (text : List Char) : Option (List Nat) := do
  if text = [] then return []
  let pieces := text.splitOn ':'
  let front ← pieces.dropLast.mapM ipv6Piece?
  let last := pieces.getLast?.getD []
  if final && last.contains '.' then return front ++ (← dottedPieces? last)
  return front ++ [← ipv6Piece? last]

/-- The eight pieces of an address. A `::` stands for one or more zeros. -/
def ipv6? (text : List Char) : Option (List Nat) := do
  match cutAtGap text with
  | (whole, none) =>
    let pieces ← ipv6Pieces? true whole
    guard (pieces.length = 8)
    return pieces
  | (front, some back) =>
    let front ← ipv6Pieces? false front
    let back ← ipv6Pieces? true back
    guard (front.length + back.length ≤ 7)
    return front ++ List.replicate (8 - front.length - back.length) 0 ++ back

end BlogRouting.Url
