/-!
# Templates

A permalink format such as `/%year%/%title%.html` describes the paths of a site's posts. A
template is a format together with the segments it consists of: fixed text and placeholders.
-/

namespace BlogRouting

/-- What a format can leave open: a part of the publication date, or the slug. -/
inductive Placeholder where
  | year
  | month
  | day
  | title
  deriving DecidableEq, Repr

namespace Placeholder

/-- The placeholders in the order in which parameters are listed. -/
def all : List Placeholder := [year, month, day, title]

def name : Placeholder → String
  | year => "year"
  | month => "month"
  | day => "day"
  | title => "title"

/-- How the placeholder is written in a format. -/
def token (p : Placeholder) : String :=
  "%" ++ p.name ++ "%"

/-- The placeholder of the name, if there is one. -/
def ofName? (name : String) : Option Placeholder :=
  all.find? (·.name = name)

/-- A placeholder is found by its own name and by no other. -/
theorem ofName?_eq_some_iff {name : String} {p : Placeholder} :
    ofName? name = some p ↔ p.name = name := by
  refine ⟨fun h => by simpa using List.find?_some h, ?_⟩
  rintro rfl
  cases p <;> rfl

end Placeholder

/-- A unit of a template. -/
inductive Segment where
  | literal (text : String)
  | placeholder (p : Placeholder)
  deriving DecidableEq, Repr

/-- The placeholder of a segment that is one. -/
def Segment.placeholder? : Segment → Option Placeholder
  | literal _ => none
  | placeholder p => some p

/-- How the segment is written in a format. -/
def Segment.source : Segment → String
  | literal text => text
  | placeholder p => p.token

/-- The text of the segment when `values` stand for the placeholders. -/
def Segment.fill (values : Placeholder → String) : Segment → String
  | literal text => text
  | placeholder p => values p

/-- A compiled format. Two templates are equal if their source texts are, too. -/
structure Template where
  format : String
  segments : List Segment
  deriving DecidableEq, Repr

namespace Template

/-- The format of a site that never chose one. -/
def defaultFormat : String := "/%year%/%month%/%day%/%title%"

/-- The endings that ask for a feed of a post and that no format may have. -/
def feedSuffixes : List String := [".atom", ".rss"]

/-- The placeholders of the template in order. -/
def placeholders (t : Template) : List Placeholder :=
  t.segments.filterMap Segment.placeholder?

/-- Whether the template mentions `p`. -/
def has (t : Template) (p : Placeholder) : Bool :=
  p ∈ t.placeholders

/-- The path that results when `values` stand for the placeholders. -/
def fill (t : Template) (values : Placeholder → String) : String :=
  String.join (t.segments.map (·.fill values))

end Template

end BlogRouting
