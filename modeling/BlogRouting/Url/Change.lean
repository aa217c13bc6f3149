import BlogRouting.Text.Percent
import BlogRouting.Url.Basic

/-!
# Changing parts of a URL

A new path, query or fragment is text that still has to be brought into its final spelling: tabs
and line ends vanish, characters that the part cannot hold are escaped, and in a path with segments
the segments `.` and `..` are resolved, also where the dots are escaped.
-/

namespace BlogRouting.Url

/-! ### Escaped characters -/

/-- The characters that every part escapes: controls and all characters outside ASCII. -/
def escapedAnywhere (c : Char) : Bool :=
  c.toNat < 0x20 || 0x7E < c.toNat

def escapedInFragment (c : Char) : Bool :=
  escapedAnywhere c || c ∈ " \"<>\x60".toList

def escapedInPath (c : Char) : Bool :=
  escapedInFragment c || c ∈ "#?\x7b\x7d".toList

def escapedInUser (c : Char) : Bool :=
  escapedInPath c || c ∈ "/:;=@[\\]^|".toList

/-- The web's schemes also escape an apostrophe. -/
def escapedInQuery (special : Bool) (c : Char) : Bool :=
  escapedAnywhere c || c ∈ " \"#<>".toList || (special && c = '\'')

/-- Tabs and line ends, which mean nothing anywhere in a URL. -/
def isIgnored (c : Char) : Bool :=
  c = '\t' || c = '\n' || c = '\r'

def dropIgnored (text : List Char) : List Char :=
  text.filter (!isIgnored ·)

/-! ### Paths -/

/-- Whether the piece is one dot, escaped or not. -/
def isDot (piece : List Char) : Bool :=
  piece.map Char.toLower ∈ [".", "%2e"].map String.toList

/-- Whether the piece is two dots, each escaped or not. -/
def isDoubleDot (piece : List Char) : Bool :=
  piece.map Char.toLower ∈ ["..", "%2e.", ".%2e", "%2e%2e"].map String.toList

/-- The drive that a file path may begin with: a letter and a colon, which may be written as a
vertical bar. -/
def drive? : List Char → Option String
  | [c, ':'] | [c, '|'] => if c.isAlpha then some (.ofList [c, ':']) else none
  | _ => none

/-- Whether a segment looks like a drive, with a backslash after it or at its end. -/
def looksLikeDrive (segment : String) : Bool :=
  (drive? (segment.toList.takeWhile (· ≠ '\\'))).isSome

/-- The segments, last first, without the last. What looks like a drive stays, whatever the scheme
and wherever it stands. -/
def shorten : List String → List String
  | [] => []
  | segment :: before => if looksLikeDrive segment then segment :: before else before

/-- The text of a segment, without the characters that mean nothing. -/
def segmentText (piece : List Char) : String :=
  .ofList (Percent.encode escapedInPath (dropIgnored piece))

/-- The drive that a piece begins with and the text after it, if tabs or line ends keep the two
apart. -/
def cutDrive? (piece : List Char) : Option (String × List Char) :=
  match piece.dropWhile isIgnored with
  | [] => none
  | letter :: rest =>
    match rest.dropWhile isIgnored with
    | ':' :: gap :: rest =>
      if letter.isAlpha ∧ isIgnored gap ∧ dropIgnored rest ≠ [] then
        some (.ofList [letter, ':'], rest)
      else none
    | _ => none

/-- Adds a segment to the segments before it, which are listed last first. A drive that a file path
begins with is a segment of its own, also if text is kept apart from it only by tabs or line
ends. -/
def addSegment (file : Bool) (before : List String) (piece : List Char) : List String :=
  if file && before.isEmpty then
    match cutDrive? piece with
    | some (drive, rest) => [segmentText rest, drive]
    | none => [(drive? (dropIgnored piece)).getD (segmentText piece)]
  else segmentText piece :: before

/-- The segments after one more piece, last first. Dots that end the path leave an empty segment. -/
def resolvePiece (file isLast : Bool) (before : List String) (piece : List Char) : List String :=
  let close := fun (before : List String) => if isLast then "" :: before else before
  if isDoubleDot (dropIgnored piece) then close (shorten before)
  else if isDot (dropIgnored piece) then close before
  else addSegment file before piece

/-- The segments that result from `pieces` after the segments `before`, which are listed last
first. -/
def resolvePieces (file : Bool) (before : List String) : List (List Char) → List String
  | [] => before.reverse
  | piece :: pieces =>
    resolvePieces file (resolvePiece file pieces.isEmpty before piece) pieces

/-- Whether one of the pieces of a file path is a drive that the path begins with. -/
def reachesDrive (before : List String) : List (List Char) → Bool
  | [] => false
  | piece :: pieces =>
    (before.isEmpty && (drive? (dropIgnored piece)).isSome)
      || reachesDrive (resolvePiece true pieces.isEmpty before piece) pieces

/-- A file path has no empty segments in front of others. -/
def dropLeadingEmpty : List String → List String
  | "" :: segment :: segments => dropLeadingEmpty (segment :: segments)
  | segments => segments

/-- The pieces between the slashes of a path, the first slash left out. -/
def piecesOf (special : Bool) (text : List Char) : List (List Char) :=
  let text := text.dropWhile isIgnored
  match if special then text.map fun c => if c = '\\' then '/' else c else text with
  | '/' :: text => text.splitOn '/'
  | [] => if special then [[]] else []
  | text => text.splitOn '/'

/-- The segments of a path that is given as text. -/
def segmentsOf (scheme : String) (text : List Char) : List String :=
  let file := scheme = "file"
  let segments := resolvePieces file [] (piecesOf (isSpecial scheme) text)
  if file then dropLeadingEmpty segments else segments

/-- The text of a path without segments. A slash in front would make it look like one with
segments and is escaped. -/
def plainOf (text : List Char) : List Char :=
  match text with
  | '/' :: rest => "%2F".toList ++ Percent.encode escapedAnywhere (dropIgnored rest)
  | text => Percent.encode escapedAnywhere (dropIgnored text)

/-- A path of the same kind as before, read from `text`. -/
def Path.replace (scheme : String) (path : Path) (text : String) : Path :=
  match path with
  | segments _ => segments (segmentsOf scheme text.toList)
  | plain _ => plain (.ofList (plainOf text.toList))

def withPath (url : Url) (text : String) : Url :=
  { url with path := url.path.replace url.scheme text }

/-! ### Query and fragment -/

def queryOf (scheme : String) (text : List Char) : String :=
  .ofList (Percent.encode (escapedInQuery (isSpecial scheme)) (dropIgnored text))

def fragmentOf (text : List Char) : String :=
  .ofList (Percent.encode escapedInFragment (dropIgnored text))

/-- Spaces at the end of a path without segments would be lost when the URL is read again. They
go as soon as nothing follows the path. -/
def trimPlainPath (url : Url) : Url :=
  match url.path, url.query, url.fragment with
  | .plain text, none, none =>
    { url with path := .plain (.ofList (text.toList.reverse.dropWhile (· = ' ')).reverse) }
  | _, _, _ => url

def withQuery (url : Url) (query : Option String) : Url :=
  trimPlainPath { url with query := query.map fun text => queryOf url.scheme text.toList }

def withFragment (url : Url) (fragment : Option String) : Url :=
  trimPlainPath { url with fragment := fragment.map fun text => fragmentOf text.toList }

end BlogRouting.Url
