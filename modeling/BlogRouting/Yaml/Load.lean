import BlogRouting.Datum
import BlogRouting.Text.Numeral
import BlogRouting.Yaml.Node

/-!
# Loading YAML

A text is loaded if it holds exactly one document. Every scalar can be read as text. A plain one
can also be a number, a truth value or nothing, by its spelling alone; a tag asks for one of these.
-/

namespace BlogRouting.Yaml

/-! ### Spellings of numbers -/

/-- The numbers that a scalar can stand for: sixty-four bits, with a sign or without. -/
def inRange? (n : Int) : Option Int :=
  if -9223372036854775808 ≤ n ∧ n < 18446744073709551616 then some n else none

/-- The digits of a number in another base. Where the number has no minus sign they may have a
plus sign of their own. -/
def basedNumber? (base : Nat) (negative : Bool) : List Char → Option Nat
  | '+' :: digits => if negative then none else Numeral.inBase? base digits
  | digits => Numeral.inBase? base digits

/-- A number after its sign. Decimal digits after a leading zero are only text. -/
def magnitude? (negative : Bool) : List Char → Option Nat
  | '0' :: 'x' :: digits => basedNumber? 16 negative digits
  | '0' :: 'o' :: digits => basedNumber? 8 negative digits
  | '0' :: 'b' :: digits => basedNumber? 2 negative digits
  | '0' :: _ :: _ => none
  | digits => Numeral.decimal? digits

/-- The number that a plain scalar without a tag stands for. -/
def plainInteger? (text : List Char) : Option Int := do
  let n ← match text with
    | '-' :: digits => (magnitude? true digits).map fun n => -(n : Int)
    | '+' :: digits => (magnitude? false digits).map fun n => (n : Int)
    | digits => (magnitude? false digits).map fun n => (n : Int)
  inRange? n

/-- The number that a scalar with the tag of integers stands for. -/
def taggedInteger? (text : List Char) : Option Int := do
  let n ← Numeral.signed? text
  guard (-9223372036854775808 ≤ n ∧ n ≤ 9223372036854775807)
  return n

def boolean? : String → Option Bool
  | "true" => some true
  | "false" => some false
  | _ => none

/-- Whether a plain scalar stands for nothing. -/
def isNull (text : String) : Bool :=
  text = "~" || text = "null"

/-- The readings of a scalar. -/
def readings (style : Style) (tag : Option (String × String)) (text : String) : Scalar :=
  let plain := style = .plain
  match tag with
  | none =>
    if plain then
      { text := some text
        integer := plainInteger? text.toList
        boolean := boolean? text
        absent := some (isNull text) }
    else { text := some text }
  | some ("!!", "int") => { text := some text, integer := taggedInteger? text.toList }
  | some ("!!", "bool") => { text := some text, boolean := boolean? text }
  | some ("!!", "null") =>
    { text := some text
      absent := if ¬ plain then some false else if isNull text then some true else none }
  | some _ => { text := some text }

mutual

/-- The data that a node describes. -/
def Node.datum : Node → Datum
  | .scalar style tag text => .scalar (readings style tag text)
  | .sequence items => .list (Node.data items)
  | .mapping entries => .record (Node.entriesData entries)
  | .loop => .scalar { absent := none }

def Node.data : List Node → List Datum
  | [] => []
  | node :: nodes => node.datum :: Node.data nodes

def Node.entriesData : List (Node × Node) → List (Option String × Datum)
  | [] => []
  | (key, value) :: entries => (key.datum.text?, value.datum) :: Node.entriesData entries

end

/-- The data of a text with one document. -/
def load? (text : String) : Option Datum := do
  let [node] ← Node.ofTokens? (← Token.scan? text) | none
  return node.datum

end BlogRouting.Yaml
