import BlogRouting.Text.Slashes

/-!
# URLs

A URL is kept in its parts, each in its final spelling, so that writing it only joins them. The
path is a list of segments, or plain text for schemes like `mailto` whose URLs have no hierarchy.
-/

namespace BlogRouting

namespace Url

inductive Host where
  /-- A domain in ASCII, or the name that a scheme of its own gives to a host. -/
  | name (text : String)
  | ipv4 (address : Nat)
  /-- Eight pieces of sixteen bits. -/
  | ipv6 (pieces : List Nat)
  deriving DecidableEq, Repr

structure Authority where
  user : String := ""
  password : String := ""
  host : Host
  /-- The port, unless it is the scheme's own. -/
  port : Option Nat := none
  deriving DecidableEq, Repr

/-- What stands between the scheme and the path. -/
inductive Front where
  | nothing
  /-- A dot that keeps a path with two slashes in front from being read as an authority. -/
  | dot
  | authority (authority : Authority)
  deriving DecidableEq, Repr

inductive Path where
  | segments (list : List String)
  | plain (text : String)
  deriving DecidableEq, Repr

end Url

structure Url where
  scheme : String
  front : Url.Front
  path : Url.Path
  query : Option String := none
  fragment : Option String := none
  deriving DecidableEq, Repr

namespace Url

/-- The schemes of the web. Their URLs have a host and a path that is never empty, and a
backslash in them is a slash. -/
def specialSchemes : List String := ["http", "https", "ws", "wss", "ftp", "file"]

def isSpecial (scheme : String) : Bool :=
  scheme ∈ specialSchemes

/-- The port that need not be written. -/
def defaultPort? : String → Option Nat
  | "http" | "ws" => some 80
  | "https" | "wss" => some 443
  | "ftp" => some 21
  | _ => none

/-! ### Writing -/

/-- The four bytes of an address with dots between them. -/
def ipv4Text (address : Nat) : String :=
  ".".intercalate
    ([16777216, 65536, 256, 1].map fun unit => toString (address / unit % 256))

/-- A piece of an address in lower-case hexadecimal digits. -/
def pieceText (piece : Nat) : String :=
  .ofList (Nat.toDigits 16 piece)

/-- The length of the run of zeros that the list begins with. -/
def leadingZeros (pieces : List Nat) : Nat :=
  (pieces.takeWhile (· = 0)).length

/-- Where the longest run of two or more zeros begins and how long it is. The first one wins. -/
def longestZeros? (pieces : List Nat) : Option (Nat × Nat) :=
  (List.range pieces.length).foldl
    (fun best i =>
      let length := leadingZeros (pieces.drop i)
      if best.elim 2 (·.2 + 1) ≤ length then some (i, length) else best)
    none

/-- The pieces with colons between them, the longest run of zeros left out. -/
def ipv6Text (pieces : List Nat) : String :=
  let join := fun (pieces : List Nat) => ":".intercalate (pieces.map pieceText)
  match longestZeros? pieces with
  | none => join pieces
  | some (start, length) => join (pieces.take start) ++ "::" ++ join (pieces.drop (start + length))

def Host.text : Host → String
  | name text => text
  | ipv4 address => ipv4Text address
  | ipv6 pieces => "[" ++ ipv6Text pieces ++ "]"

def Authority.text (authority : Authority) : String :=
  let password := if authority.password = "" then "" else ":" ++ authority.password
  let user := authority.user ++ password
  (if user = "" then "" else user ++ "@") ++ authority.host.text
    ++ authority.port.elim "" fun port => ":" ++ toString port

def Front.text : Front → String
  | nothing => ""
  | dot => "/."
  | authority a => "//" ++ a.text

def Path.text : Path → String
  | segments list => String.join (list.map ("/" ++ ·))
  | plain text => text

/-- The URL as it is written. -/
def text (url : Url) : String :=
  url.scheme ++ ":" ++ url.front.text ++ url.path.text
    ++ (url.query.elim "" ("?" ++ ·))
    ++ (url.fragment.elim "" ("#" ++ ·))

/-- The path of the URL without slashes at its ends. -/
def rootPath (url : Url) : String :=
  .ofList (Slashes.trim url.path.text.toList)

end Url

end BlogRouting
