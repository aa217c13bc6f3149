import BlogRouting.Template.Capture
import BlogRouting.Template.Compile

/-!
# Matching paths

A path matches a template in one of three modes. An ending `.atom` or `.rss` asks for a feed of
the post that the rest of the path names; a path that does not match that way is matched as it
stands.
-/

namespace BlogRouting

/-- The rendering that a path asks for. -/
inductive Mode where
  | html
  | atom
  | rss
  deriving DecidableEq, Repr

/-- The ending of a path that asks for the mode. -/
def Mode.suffix : Mode → String
  | html => ""
  | atom => ".atom"
  | rss => ".rss"

/-- The values found for the placeholders, as they stand in the path. -/
structure Params where
  year : Option String := none
  month : Option String := none
  day : Option String := none
  title : Option String := none
  deriving DecidableEq, Repr

namespace Params

def get? (params : Params) : Placeholder → Option String
  | .year => params.year
  | .month => params.month
  | .day => params.day
  | .title => params.title

/-- The parameters with `value` for `p`. -/
def insert (params : Params) (p : Placeholder) (value : String) : Params :=
  match p with
  | .year => { params with year := some value }
  | .month => { params with month := some value }
  | .day => { params with day := some value }
  | .title => { params with title := some value }

/-- The slug, empty if there is none. -/
def slug (params : Params) : String :=
  params.title.getD ""

/-- The values that there are, each with its placeholder. -/
def toList (params : Params) : List (Placeholder × String) :=
  Placeholder.all.filterMap fun p => (params.get? p).map (p, ·)

/-- Later pairs win. -/
def ofList (pairs : List (Placeholder × String)) : Params :=
  pairs.foldl (fun params (p, value) => params.insert p value) {}

@[simp] theorem get?_insert (params : Params) (p q : Placeholder) (value : String) :
    (params.insert p value).get? q = if p = q then some value else params.get? q := by
  cases p <;> cases q <;> rfl

theorem ext_get? {a b : Params} (h : ∀ p, a.get? p = b.get? p) : a = b := by
  cases a
  cases b
  have year := h .year
  have month := h .month
  have day := h .day
  have title := h .title
  simp_all only [get?]

end Params

/-- What a path says and asks for. -/
structure Match where
  params : Params
  mode : Mode
  deriving DecidableEq, Repr

namespace Template

/-- The parameters of a path that fits the template as a whole. -/
def capture? (t : Template) (path : List Char) : Option Params :=
  ((Segment.captures path t.segments).headD none).map fun bindings =>
    .ofList (bindings.map fun (p, piece) => (p, .ofList piece))

theorem capture?_eq (t : Template) (path : List Char) :
    t.capture? path = (Segment.capture? t.segments path).map fun bindings =>
      .ofList (bindings.map fun (p, piece) => (p, .ofList piece)) := by
  rw [capture?, Segment.head_captures]

/-- The match of a path that ends like the feed `mode` and fits the template without the ending.
The ending alone is no path. -/
def matchFeed? (t : Template) (path : List Char) (mode : Mode) : Option Match :=
  match mode.suffix.toList.isSuffixOf? path with
  | none | some [] => none
  | some post => (t.capture? post).map ({ params := ·, mode })

/-- The match of a normalized path. -/
def match? (t : Template) (path : String) : Option Match :=
  (t.matchFeed? path.toList .atom).or <|
    (t.matchFeed? path.toList .rss).or <|
      (t.capture? path.toList).map ({ params := ·, mode := .html })

end Template

end BlogRouting
