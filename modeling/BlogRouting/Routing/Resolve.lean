import BlogRouting.Content.Revision
import BlogRouting.Content.Store
import BlogRouting.Link
import BlogRouting.Redirect.Table
import BlogRouting.Template.Permalink

/-!
# Resolving requests

A request path is resolved in steps, and the first that has an answer gives it. The canonical step
serves the newest revision of the post that the path names under the current format. The legacy
step redirects a path in the default format, on its own or beneath `articles/`, to where the post
lives now. The last step looks the path up among the stored redirects.
-/

namespace BlogRouting

/-- What a store reports when it cannot answer. -/
structure StoreFailure where
  text : String
  deriving DecidableEq, Repr

def StoreFailure.message (failure : StoreFailure) : String :=
  "querying store: " ++ failure.text

/-- What the stores answer to a query for content and to a path to redirect. -/
structure Stores where
  content : Query → Except StoreFailure (List Content)
  redirects : String → Except StoreFailure (Option Redirect)

/-- The answers of a content store in memory, which never fails. -/
def ContentStore.answer (store : ContentStore) (query : Query) :
    Except StoreFailure (List Content) :=
  .ok (store.find query)

/-- The answers of a redirect table in memory, which never fails. -/
def RedirectTable.answer (table : RedirectTable) (path : String) :
    Except StoreFailure (Option Redirect) :=
  .ok (table.get? path)

/-- What to do with a request. -/
inductive Outcome where
  | found (content : Content) (mode : Mode)
  | permanentRedirect (location : String)
  | notFound
  deriving DecidableEq, Repr

namespace Outcome

/-- The HTTP status code. -/
def status : Outcome → Nat
  | found .. => 200
  | permanentRedirect _ => 301
  | notFound => 404

def location? : Outcome → Option String
  | permanentRedirect location => some location
  | _ => none

end Outcome

/-- What requests to a site are resolved with. -/
structure Router where
  /-- The permalink of the current format. -/
  permalink : Permalink
  /-- The permalink of the format that posts may have had before. -/
  legacy : Permalink
  baseUrl : Url
  stores : Stores

namespace Router

/-- The first published item for the parameters, with all items that the store has for them. -/
def lookup (router : Router) (params : Params) :
    Except StoreFailure (Option (Content × List Content)) := do
  let some query := Query.ofParams? params | return none
  let candidates ← router.stores.content query
  return (candidates.find? (·.published)).map (·, candidates)

/-- A post whose revisions have no newest one is not found, and no later step is tried. -/
def canonical (router : Router) (path : String) : Except StoreFailure (Option Outcome) := do
  let some found := router.permalink.match? path | return none
  let some (item, candidates) ← router.lookup found.params | return none
  match Revision.latest? item candidates with
  | some latest => return some (.found latest found.mode)
  | none => return some .notFound

/-- The part of the site beneath which paths in the legacy format also live. -/
def legacyRoot : String := "articles/"

/-- The paths that the legacy format is tried on. The path itself is left out if the current
template is the legacy one, since it has been tried. -/
def legacyCandidates (router : Router) (path : String) : List String :=
  let direct := if router.legacy.template = router.permalink.template then [] else [path]
  direct ++ ((legacyRoot.toList.isPrefixOf? path.toList).map String.ofList).toList

/-- Where the post that the path names in the legacy format lives now. -/
def legacyTarget (router : Router) (path : String) : Except StoreFailure (Option Outcome) := do
  let some found := router.legacy.match? path | return none
  let some (item, _) ← router.lookup found.params | return none
  let target := router.permalink.template.generate item ++ found.mode.suffix
  return some (.permanentRedirect (absolute router.baseUrl target).text)

/-- The first of the candidates that names a post in the legacy format. -/
def firstTarget (router : Router) : List String → Except StoreFailure (Option Outcome)
  | [] => return none
  | candidate :: rest => do
    if let some outcome ← router.legacyTarget candidate then return some outcome
    router.firstTarget rest

def legacyStep (router : Router) (path : String) : Except StoreFailure (Option Outcome) :=
  router.firstTarget (router.legacyCandidates path)

def redirectStep (router : Router) (path : String) : Except StoreFailure (Option Outcome) := do
  let some redirect ← router.stores.redirects path | return none
  return some (.permanentRedirect (redirectTarget router.baseUrl redirect.toPath))

/-- What to do with a request for `rawPath`, which may hold the root path, a query and escapes. -/
def resolve (router : Router) (rawPath : String) : Except StoreFailure Outcome := do
  let path := normalize rawPath router.baseUrl
  if let some outcome ← router.canonical path then return outcome
  if let some outcome ← router.legacyStep path then return outcome
  if let some outcome ← router.redirectStep path then return outcome
  return .notFound

end Router

end BlogRouting
