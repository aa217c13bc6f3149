import BlogRouting.Text.Percent
import BlogRouting.Text.Slashes
import BlogRouting.Url.Parse

/-!
# Links

A site lives beneath the path of its base URL, the root path. Requests are matched relative to it,
and links are made absolute beneath it.
-/

namespace BlogRouting

/-- The path of a request without query and fragment. -/
def pathOnly (raw : List Char) : List Char :=
  raw.takeWhile fun c => c ≠ '?' && c ≠ '#'

/-- The path beneath the root, if the root is a leading part of the path that ends at a slash or at
the end of the path. -/
def beneath? (root path : List Char) : Option (List Char) :=
  if root = [] then none
  else
    match root.isPrefixOf? path with
    | some [] => some []
    | some ('/' :: rest) => some rest
    | _ => none

/-- What a request path has to be matched as, beneath `root`, which has no slashes at its ends. The
escapes are read once, after everything that depends on slashes, `?` and `#`. -/
def normalizeUnder (rawPath root : String) : String :=
  let path := Slashes.trimLeading (Slashes.collapse (pathOnly rawPath.toList))
  Percent.decodeOnce (.ofList ((beneath? root.toList path).getD path))

/-- What a request path has to be matched as, on the site at `baseUrl`. -/
def normalize (rawPath : String) (baseUrl : Url) : String :=
  normalizeUnder rawPath baseUrl.rootPath

/-- The URL of a path that is relative to the site. -/
def absolute (baseUrl : Url) (path : String) : Url :=
  let base := baseUrl.path.text.toList
  let slash := if base.getLast? = some '/' then [] else ['/']
  let joined := base ++ slash ++ Slashes.trimLeading path.toList
  ((baseUrl.withPath (.ofList joined)).withQuery none).withFragment none

/-- Where a stored redirect leads. A target with a scheme is used as it is. Any other is a path
from the root of the host, put beneath the root path unless it is there already. -/
def redirectTarget (baseUrl : Url) (target : String) : String :=
  match Url.parse target with
  | .error .relativeWithoutBase =>
    let (rest, fragment) := Url.cutAt '#' target.toList
    let (path, query) := Url.cutAt '?' rest
    let root := baseUrl.rootPath.toList
    let relative := Slashes.trimLeading path
    let full :=
      if root = [] ∨ (beneath? root relative).isSome then '/' :: relative
      else '/' :: root ++ '/' :: relative
    let url := baseUrl.withPath (.ofList full)
    ((url.withQuery (query.map String.ofList)).withFragment (fragment.map String.ofList)).text
  | _ => target

end BlogRouting
