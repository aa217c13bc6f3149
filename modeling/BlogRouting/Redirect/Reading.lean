import BlogRouting.Redirect.Table
import BlogRouting.Yaml.Load

/-!
# Reading redirects

A table is read from a list of redirects, which are inserted in order. The first of them that cannot
be inserted is reported, and then there is no table at all.
-/

namespace BlogRouting

/-- Why there is no table. -/
inductive RedirectError where
  | duplicate (error : DuplicateFromPath)
  /-- The text is no list of redirects. -/
  | malformed
  deriving DecidableEq, Repr

/-- The redirects that a text lists. -/
def Redirect.listOfYaml? (text : String) : Option (List Redirect) :=
  (Yaml.load? text).bind listOfDatum?

/-- The table of the redirects that a text lists. -/
def RedirectTable.ofYaml (text : String) : Except RedirectError RedirectTable :=
  match Redirect.listOfYaml? text with
  | none => .error .malformed
  | some redirects => (empty.insertAll redirects).mapError .duplicate

end BlogRouting
