import BlogRouting.Template.Permalink

/-!
# Permalink caches

A cache compiles a format when it is first asked for and hands out the same permalink from then on,
until it is rebuilt. Whoever holds a permalink keeps it.
-/

namespace BlogRouting

/-- A permalink as a cache hands it out. Two are the same instance if their serial numbers are. -/
structure SharedPermalink where
  serial : Nat
  permalink : Permalink
  deriving DecidableEq, Repr

structure PermalinkCache where
  entries : List (String × SharedPermalink) := []
  /-- How many instances have been made, which is the serial number of the next one. -/
  made : Nat := 0
  deriving DecidableEq, Repr

namespace PermalinkCache

def empty : PermalinkCache := {}

def size (cache : PermalinkCache) : Nat :=
  cache.entries.length

/-- The permalink of the format, and the cache afterwards. A format that does not compile leaves no
trace. -/
def get (cache : PermalinkCache) (format : String) :
    Except CompileError SharedPermalink × PermalinkCache :=
  match cache.entries.lookup format with
  | some shared => (.ok shared, cache)
  | none =>
    match Permalink.compile format with
    | .error e => (.error e, cache)
    | .ok permalink =>
      let shared := ⟨cache.made, permalink⟩
      (.ok shared, ⟨(format, shared) :: cache.entries, cache.made + 1⟩)

/-- The permalink of the default format. -/
def legacy (cache : PermalinkCache) : Except CompileError SharedPermalink × PermalinkCache :=
  cache.get Template.defaultFormat

/-- Forgets all entries. -/
def rebuild (cache : PermalinkCache) : PermalinkCache :=
  { cache with entries := [] }

end PermalinkCache

end BlogRouting
