import BlogRouting.Text.Percent
import BlogRouting.Text.Composition
import BlogRouting.Text.Direction
import BlogRouting.Text.Folding
import BlogRouting.Text.Joining
import BlogRouting.Text.Repertoire
import BlogRouting.Url.Punycode

/-!
# Domains

The domain of a web URL is written in ASCII. Its escapes are read, its letters are folded and
composed with their marks, and its labels with letters outside ASCII are written in Punycode.
Characters that would mean something else in a URL are refused, however they are spelled.
-/

namespace BlogRouting.Url

/-- The characters of ASCII that no domain holds. -/
def forbiddenInDomain (c : Char) : Bool :=
  c.toNat ≤ 0x20 || c.toNat = 0x7F || c ∈ "#/:<>?@[\\]^|%".toList

/-- What a domain holds for `c`: nothing at all, or the plain small letters that it stands for. -/
def foldDomainChar? (c : Char) : Option (List Char) :=
  if c.toNat < 0x80 then some [c.toLower]
  else if Repertoire.ignored.contains c then some []
  else if Repertoire.refused.contains c then none
  else some (Folding.reading c)

def isAscii (text : List Char) : Bool :=
  text.all (·.toNat < 0x80)

/-! ### Labels -/

/-- The beginning of a label in Punycode. -/
def punycodeMark : List Char := "xn--".toList

/-- No longer label with letters outside ASCII is written in Punycode, and none of more than twice
the length is read. -/
def longestLabel : Nat := 1000

/-- The label that a folded one stands for. In Punycode it has to be one that is folded and would be
written like it. -/
def decodedLabel? (label : List Char) : Option (List Char) :=
  match punycodeMark.isPrefixOf? label with
  | none => some label
  | some code => do
    guard (isAscii code && decide (code.length ≤ 2 * longestLabel))
    let decoded ← Punycode.decode? code
    guard (!isAscii decoded && decoded.all fun c => foldDomainChar? c = some [c])
    guard (Composition.compose decoded = decoded && Punycode.encode decoded = code)
    return decoded

/-- Whether marks and joiners of a label have the letters that they belong to. -/
def isLabel (label : List Char) : Bool :=
  !label.head?.any Marks.isMark && Joining.fits [] label
    && (isAscii label || label.length ≤ longestLabel)

/-- The ASCII form of a label. -/
def asciiLabel (label : List Char) : List Char :=
  if isAscii label then label else punycodeMark ++ Punycode.encode label

/-- Whether the labels can be told apart on sight although letters run from right to left. -/
def agreeInDirection (labels : List (List Char)) : Bool :=
  labels.all Direction.agrees || !labels.any (·.any Direction.turns)

/-! ### Domains -/

/-- The ASCII form of a domain, if it is one. -/
def domain? (text : List Char) : Option (List Char) := do
  let decoded ← String.fromUTF8? (Percent.octets text).toByteArray
  let folded ← decoded.toList.mapM foldDomainChar?
  let labels ← ((Composition.compose folded.flatten).splitOn '.').mapM decodedLabel?
  guard (labels.all isLabel && agreeInDirection labels)
  let domain := ['.'].intercalate (labels.map asciiLabel)
  guard (domain.all (!forbiddenInDomain ·))
  return domain

end BlogRouting.Url
