import BlogRouting.Text.Hexadecimal

/-!
# Percent-escapes

A percent-escape writes one byte of a character's UTF-8 form as `%` and two hexadecimal digits.
`encode` escapes the characters of a given class. `decodeOnce` reads every escape of a text once;
a `%` that does not start an escape stands for itself.
-/

namespace BlogRouting.Percent

def encodeByte (b : UInt8) : List Char :=
  ['%', hexDigit (b.toNat / 16), hexDigit (b.toNat % 16)]

/-- A character of the class is written as the escapes of its UTF-8 bytes, any other as itself. -/
def encodeChar (escaped : Char → Bool) (c : Char) : List Char :=
  if escaped c then (String.utf8EncodeChar c).flatMap encodeByte else [c]

def encode (escaped : Char → Bool) (text : List Char) : List Char :=
  text.flatMap (encodeChar escaped)

/-- Puts the bytes that `text` spells in front of `done`, the last byte first. -/
def octetsOnto (done : List UInt8) : List Char → List UInt8
  | [] => done
  | '%' :: a :: b :: rest =>
    match hexValue? a, hexValue? b with
    | some x, some y => octetsOnto (UInt8.ofNat (16 * x + y) :: done) rest
    | _, _ => octetsOnto (0x25 :: done) (a :: b :: rest)
  | c :: rest => octetsOnto ((String.utf8EncodeChar c).reverse ++ done) rest

/-- The bytes that `text` spells once its escapes are read. -/
def octets (text : List Char) : List UInt8 :=
  (octetsOnto [] text).reverse

/-- Reads the bytes that `text` spells as UTF-8. -/
def decode? (text : String) : Option String :=
  String.fromUTF8? (octets text.toList).toByteArray

/-- Reads the escapes of `text` once. A text whose bytes are not UTF-8 is left as it is. -/
def decodeOnce (text : String) : String :=
  (decode? text).getD text

end BlogRouting.Percent
