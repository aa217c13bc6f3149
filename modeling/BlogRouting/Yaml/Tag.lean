import BlogRouting.Text.Hexadecimal
import BlogRouting.Yaml.Scalar

/-!
# Tags

The text of a tag may hold escapes of the form `%xx`, each for one octet. The first octet of a
character tells how many octets the character has, and together they are the digits of its code in
base 256. So an escaped character is ASCII or has two octets: three octets and more make a number
that is no code of a character.
-/

namespace BlogRouting.Yaml

/-- The octet that is escaped here. -/
def octet? (c : Cursor) : Option Nat := do
  guard (c.here = '%')
  return 16 * (← hexValue? (c.look 1)) + (← hexValue? (c.look 2))

/-- The number of octets of a character that begins with the octet. -/
def octetCount? (octet : Nat) : Option Nat :=
  if octet < 0x80 then some 1
  else if octet < 0xC0 then none
  else if octet < 0xE0 then some 2
  else if octet < 0xF0 then some 3
  else if octet < 0xF8 then some 4
  else none

/-- Reads more octets of a character, the octets before which make the number `code`. -/
def furtherOctets? (code : Nat) (c : Cursor) : Nat → Option (Nat × Cursor)
  | 0 => some (code, c)
  | count + 1 => do
    let octet ← octet? c
    guard (0x80 ≤ octet ∧ octet < 0xC0)
    furtherOctets? (256 * code + octet) (c.advanceBy 3) count

/-- Reads an escaped character. -/
def escapedTagChar? (c : Cursor) : Option (Char × Cursor) := do
  let first ← octet? c
  let count ← octetCount? first
  let (code, c) ← furtherOctets? first (c.advanceBy 3) (count - 1)
  guard code.isValidChar
  return (Char.ofNat code, c)

/-- Whether the character may stand in a tag as it is. -/
def isTagChar (c : Char) : Bool :=
  isNameChar c || c ∈ ";/?:@&=+$,.!~*'()[]".toList

/-- Reads on in the text of a tag, which so far is `text`, last character first. -/
def tagTextOnto? (text : List Char) (c : Cursor) : Nat → Option (List Char × Cursor)
  | 0 => none
  | fuel + 1 =>
    if c.here = '%' then do
      let (char, c) ← escapedTagChar? c
      tagTextOnto? (char :: text) c fuel
    else if isTagChar c.here then tagTextOnto? (c.here :: text) c.advance fuel
    else some (text.reverse, c)

/-- Reads the text of a tag, which may be empty. -/
def tagText? (c : Cursor) : Option (List Char × Cursor) :=
  tagTextOnto? [] c c.steps

end BlogRouting.Yaml
