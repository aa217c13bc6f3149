import BlogRouting.Text.Numeral
import BlogRouting.Url.Address
import BlogRouting.Url.Change
import BlogRouting.Url.Domain

/-!
# Reading URLs

A URL is read from text without a base to resolve it against, so it has to begin with a scheme.
-/

namespace BlogRouting.Url

/-- Why a text is no URL. -/
inductive ParseError where
  /-- There is no scheme, so the text means something only relative to another URL. -/
  | relativeWithoutBase
  | emptyHost
  | invalidDomain
  | invalidDomainCharacter
  | invalidPort
  | invalidIpv4
  | invalidIpv6
  deriving DecidableEq, Repr

def ParseError.message : ParseError → String
  | relativeWithoutBase => "relative URL without a base"
  | emptyHost => "empty host"
  | invalidDomain => "invalid international domain name"
  | invalidDomainCharacter => "invalid domain character"
  | invalidPort => "invalid port number"
  | invalidIpv4 => "invalid IPv4 address"
  | invalidIpv6 => "invalid IPv6 address"

/-! ### Scheme -/

/-- The text without the controls and spaces at its ends. -/
def trimOuter (text : List Char) : List Char :=
  let isOuter := fun (c : Char) => c.toNat ≤ 0x20
  ((text.dropWhile isOuter).reverse.dropWhile isOuter).reverse

def isSchemeChar (c : Char) : Bool :=
  c.isAlphanum || c = '+' || c = '-' || c = '.'

/-- The scheme in lower case and the text after its colon, which still has its tabs and line
ends. -/
def scheme? (text : List Char) : Option (String × List Char) :=
  let front := text.takeWhile fun c => isSchemeChar c || isIgnored c
  let scheme := dropIgnored front
  match scheme.head?, text.drop front.length with
  | some c, ':' :: rest =>
    if c.isAlpha then some (.ofList (scheme.map Char.toLower), rest) else none
  | _, _ => none

/-! ### Authority -/

/-- The text in front of the first `c` and the text after it, if there is one. -/
def cutAt (c : Char) (text : List Char) : List Char × Option (List Char) :=
  let front := text.takeWhile (· ≠ c)
  (front, (text.drop front.length).tail?)

/-- The host and the text of the port, if there is a colon outside brackets. -/
def cutAtPort (bracketed : Bool) (host : List Char) :
    List Char → List Char × Option (List Char)
  | [] => (host.reverse, none)
  | c :: rest =>
    if c = ':' ∧ ¬ bracketed then (host.reverse, some rest)
    else cutAtPort (if c = '[' then true else if c = ']' then false else bracketed)
      (c :: host) rest

/-- The address in a host that begins with a bracket. -/
def bracketedHost? (text : List Char) : Except ParseError Host :=
  match text.getLast?, ipv6? text.dropLast.tail with
  | some ']', some pieces => .ok (.ipv6 pieces)
  | _, _ => .error .invalidIpv6

/-- The host of a web URL. -/
def webHost? (text : List Char) : Except ParseError Host :=
  if text.head? = some '[' then bracketedHost? text
  else
    match domain? text with
    | none => .error .invalidDomain
    | some [] => .error .emptyHost
    | some domain =>
      if endsInNumber domain then
        match ipv4? domain with
        | some address => .ok (.ipv4 address)
        | none => .error .invalidIpv4
      else .ok (.name (.ofList domain))

/-- The host of a URL with a scheme of its own, which may be empty. -/
def otherHost? (text : List Char) : Except ParseError Host :=
  if text.head? = some '[' then bracketedHost? text
  else if text.any (· ∈ "\x00\t\n\r #/:<>?@[\\]^|".toList) then .error .invalidDomainCharacter
  else .ok (.name (.ofList (Percent.encode escapedAnywhere text)))

/-- The port, unless there are no digits or it is the scheme's own. -/
def port? (scheme : String) (text : List Char) : Except ParseError (Option Nat) :=
  if text.all Char.isDigit ∧ Numeral.value text ≤ 65535 then
    let port := Numeral.value text
    .ok (if text = [] ∨ defaultPort? scheme = some port then none else some port)
  else .error .invalidPort

/-- The name and password in front of the host. -/
def user (text : List Char) : String × String :=
  let encode := fun text => String.ofList (Percent.encode escapedInUser text)
  let (name, password) := cutAt ':' text
  (encode name, password.elim "" encode)

/-- The authority of a URL, from the text between the slashes and the path. A backslash after the
port begins the path, which is the second component then. -/
def authority? (scheme : String) (text : List Char) :
    Except ParseError (Authority × List Char) := do
  let hostAndPort := (text.reverse.takeWhile (· ≠ '@')).reverse
  let (user, password) := user (text.take (text.length - hostAndPort.length)).dropLast
  let (hostText, afterHost) := cutAtPort false [] hostAndPort
  let portText := (afterHost.getD []).takeWhile (· ≠ '\\')
  if hostText = [] ∧ (isSpecial scheme ∨ afterHost.isSome ∨ user ≠ "" ∨ password ≠ "") then
    throw .emptyHost
  let host ← if isSpecial scheme then webHost? hostText else otherHost? hostText
  let port ← port? scheme portText
  return ({ user, password, host, port }, (afterHost.getD []).drop portText.length)

/-! ### The kinds of URLs -/

/-- A URL as far as its path. -/
abbrev Parts := Front × Path

/-- After the colon of a web scheme any number of slashes comes before the authority. -/
def webParts? (scheme : String) (text : List Char) : Except ParseError Parts := do
  let isSlash := fun (c : Char) => c = '/' || c = '\\'
  let text := text.dropWhile isSlash
  let authorityText := text.takeWhile (!isSlash ·)
  let (authority, _) ← authority? scheme authorityText
  return (.authority authority, .segments (segmentsOf scheme (text.drop authorityText.length)))

/-- The text after a slash, if it begins with one. -/
def afterSlash? (text : List Char) : Option (List Char) :=
  match text.dropWhile isIgnored with
  | '/' :: rest | '\\' :: rest => some rest
  | _ => none

/-- A file URL has a host between the second and the third slash, unless a drive stands there. A
path that begins with a drive needs no host. Where there is no host, or only `localhost`, the path
has another slash in front, so what follows the third slash is not taken for a drive. -/
def fileParts? (text : List Char) : Except ParseError Parts := do
  let noHost := fun (text : List Char) =>
    ((.authority { host := .name "" }, .segments (segmentsOf "file" text)) : Parts)
  match (afterSlash? text).bind afterSlash? with
  | none => return noHost text
  | some rest =>
    let front := rest.takeWhile fun c => c ≠ '/' && c ≠ '\\'
    let hostText := dropIgnored front
    if (drive? hostText).isSome ∨ hostText = [] then return noHost ('/' :: rest)
    let pathText := rest.drop front.length
    let host ← webHost? hostText
    if host = .name "localhost" then return noHost ('/' :: pathText)
    if reachesDrive [] (piecesOf true pathText) then return noHost pathText
    return (.authority { host }, .segments (segmentsOf "file" pathText))

/-- Any other scheme has an authority after two slashes, no authority before a path with one, and
else a path without segments. An authority that is only an `@` has to end the URL, which is whole
if `isWhole`. -/
def otherParts? (scheme : String) (isWhole : Bool) : List Char → Except ParseError Parts
  | '/' :: '/' :: text => do
    let authorityText := text.takeWhile (· ≠ '/')
    if authorityText = ['@'] ∧ (text ≠ ['@'] ∨ ¬ isWhole) then throw .emptyHost
    let (authority, overhang) ← authority? scheme authorityText
    let path := overhang ++ text.drop authorityText.length
    return (.authority authority, .segments (segmentsOf scheme path))
  | '/' :: text =>
    match segmentsOf scheme ('/' :: text) with
    | "" :: segment :: segments => return (.dot, .segments ("" :: segment :: segments))
    | segments => return (.nothing, .segments segments)
  | text => return (.nothing, .plain (.ofList (plainOf text)))

def parse (text : String) : Except ParseError Url := do
  let some (scheme, rest) := scheme? (trimOuter text.toList) | throw .relativeWithoutBase
  let (rest, fragment) := cutAt '#' rest
  let (rest, query) := cutAt '?' rest
  let (front, path) ←
    if scheme = "file" then fileParts? rest
    else if isSpecial scheme then webParts? scheme (dropIgnored rest)
    else otherParts? scheme (query.isNone && fragment.isNone) (dropIgnored rest)
  return {
    scheme, front, path
    query := query.map (queryOf scheme)
    fragment := fragment.map fragmentOf }

end BlogRouting.Url
