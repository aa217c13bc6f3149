import BlogRouting.Datum
import BlogRouting.Link
import BlogRouting.Redirect.ShortCode
import BlogRouting.Text.Blank

/-!
# Redirects

A redirect leads from a path on the site to a URL or another path. The table keeps at most one
redirect from each path, and gives a short code to a redirect that comes without a path.
-/

namespace BlogRouting

structure Redirect where
  /-- The path, without leading slash and without escapes. -/
  fromPath : String := ""
  toPath : String
  deriving DecidableEq, Repr

/-- Another redirect from the path is in the table. -/
structure DuplicateFromPath where
  path : String
  deriving DecidableEq, Repr

def DuplicateFromPath.message (error : DuplicateFromPath) : String :=
  "a redirect from `" ++ error.path ++ "` already exists"

structure RedirectTable where
  records : List Redirect := []
  deriving DecidableEq, Repr

namespace RedirectTable

def empty : RedirectTable := {}

def size (table : RedirectTable) : Nat :=
  table.records.length

/-- The redirect from exactly this path. -/
def get? (table : RedirectTable) (path : String) : Option Redirect :=
  table.records.find? (·.fromPath = path)

/-- The code of the first number beyond the size of the table that no redirect comes from. -/
def nextShortCode (table : RedirectTable) : String :=
  ShortCode.firstUnused (table.records.map (·.fromPath)) (table.size + 1)

/-- The path that a redirect is stored under: what a request for it is matched as. -/
def storedPath (fromPath : String) : String :=
  normalizeUnder (trimBlank fromPath) ""

/-- The table with the redirect at its end, and the redirect as it is stored. -/
def insert (table : RedirectTable) (redirect : Redirect) :
    Except DuplicateFromPath (Redirect × RedirectTable) :=
  let path := storedPath redirect.fromPath
  if path ≠ "" ∧ (table.get? path).isSome then .error ⟨path⟩
  else
    let stored :=
      { redirect with fromPath := if path = "" then table.nextShortCode else path }
    .ok (stored, ⟨table.records ++ [stored]⟩)

/-- The table with the redirects inserted in order, up to the first that cannot be. -/
def insertAll (table : RedirectTable) : List Redirect → Except DuplicateFromPath RedirectTable
  | [] => .ok table
  | redirect :: rest => do
    let (_, table) ← table.insert redirect
    table.insertAll rest

end RedirectTable

/-! ### Reading -/

def Redirect.fieldNames : List String := ["from_path", "to_path"]

def Redirect.ofDatum? (d : Datum) : Option Redirect := do
  let [fromPath, toPath] ← d.fields? fieldNames | none
  return {
    fromPath := ← Datum.defaulted? "" Datum.text? fromPath
    toPath := ← Datum.required? Datum.text? toPath }

/-- The redirects of a list. -/
def Redirect.listOfDatum? (d : Datum) : Option (List Redirect) := do
  (← d.list?).mapM ofDatum?

end BlogRouting
