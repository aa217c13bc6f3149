/-!
# Data

Items, redirects and configurations come in as data of a general kind: scalars, lists and records.
A notation may leave open whether a scalar is text or a number, so a scalar is kept as all the
readings it admits, and whoever asks for a field decides.
-/

namespace BlogRouting

/-- The readings of a scalar. -/
structure Scalar where
  text : Option String := none
  integer : Option Int := none
  boolean : Option Bool := none
  /-- Whether the scalar stands for an absent value. Not known for one that claims to and is none
  of the spellings of an absent value. -/
  absent : Option Bool := some false
  deriving DecidableEq, Repr

inductive Datum where
  | scalar (readings : Scalar)
  | list (items : List Datum)
  /-- The values with their names. A name that is no text is left out. -/
  | record (entries : List (Option String × Datum))
  deriving Inhabited

namespace Datum

def null : Datum := scalar { absent := some true }

def bool (b : Bool) : Datum := scalar { boolean := some b }

def integer (n : Int) : Datum := scalar { integer := some n }

/-- A number that is no integer. -/
def fraction : Datum := scalar {}

def string (text : String) : Datum := scalar { text := some text }

/-! ### Readings -/

def readings? : Datum → Option Scalar
  | scalar readings => some readings
  | _ => none

def text? (d : Datum) : Option String := do
  (← d.readings?).text

def boolean? (d : Datum) : Option Bool := do
  (← d.readings?).boolean

/-- A number of sixty-four bits without a sign. -/
def identifier? (d : Datum) : Option Nat := do
  let n ← (← d.readings?).integer
  guard (0 ≤ n ∧ n < 18446744073709551616)
  return n.toNat

/-- What `read` makes of a value that may be absent. -/
def optional? {α : Type} (read : Datum → Option α) (d : Datum) : Option (Option α) :=
  match d.readings? with
  | none => (read d).map some
  | some readings =>
    match readings.absent with
    | none => none
    | some true => some none
    | some false => (read d).map some

def list? : Datum → Option (List Datum)
  | list items => some items
  | _ => none

/-! ### Fields of a record -/

/-- The value under a name, or none. Fails if the name occurs more than once. -/
def unique? (name : String) (entries : List (Option String × Datum)) : Option (Option Datum) :=
  match entries.filter (·.1 = some name) with
  | [] => some none
  | [(_, value)] => some (some value)
  | _ => none

/-- The values of the named fields. A record may have other entries, but each with a name. A list
gives its items to the fields in order and may not have more. -/
def fields? (names : List String) : Datum → Option (List (Option Datum))
  | scalar _ => none
  | list items =>
    if items.length ≤ names.length then
      some (items.map some ++ List.replicate (names.length - items.length) none)
    else none
  | record entries =>
    if entries.all (·.1.isSome) then names.mapM (unique? · entries) else none

/-- What `read` makes of a field that has to be there. -/
def required? {α : Type} (read : Datum → Option α) (field : Option Datum) : Option α :=
  field.bind read

/-- What `read` makes of a field, or `missing` if it is not there. -/
def defaulted? {α : Type} (missing : α) (read : Datum → Option α) : Option Datum → Option α
  | none => some missing
  | some d => read d

end Datum

end BlogRouting
