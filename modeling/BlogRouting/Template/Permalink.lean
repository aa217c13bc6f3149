import BlogRouting.Template.Match

/-!
# Permalinks

A permalink is a template that paths can be matched against. Only its size stands in the way: the
matcher of a template is a machine that reads paths from either end, and its size is limited. It
is largest when it reads from the end. Every state takes 32 bytes, every choice between states 4
and every range of bytes in a choice 8.
-/

namespace BlogRouting

/-- The bytes that a segment takes in the matcher: a state for each byte of a literal, 3 states,
a range and 2 choices for the digits of a date, 31 states and 12 choices for the characters of a
title, which may be any in UTF-8 but a few. -/
def Segment.matcherBytes : Segment → Nat
  | .literal text => 32 * text.utf8ByteSize
  | .placeholder .title => 31 * 32 + 12 * 4
  | .placeholder _ => 3 * 32 + 8 + 2 * 4

/-- The bytes that the matcher takes, with 4 states for the ends of the path. -/
def Template.matcherBytes (t : Template) : Nat :=
  4 * 32 + (t.segments.map Segment.matcherBytes).foldr (· + ·) 0

/-- A template that is small enough to match paths against. -/
structure Permalink where
  template : Template
  deriving DecidableEq, Repr

namespace Permalink

/-- Compiles a format and checks its size. -/
def compile (format : String) : Except CompileError Permalink := do
  let template ← Template.compile format
  if template.matcherBytes ≤ Template.matcherLimit then .ok ⟨template⟩ else .error .tooLarge

/-- The permalink of the default format. -/
def default : Except CompileError Permalink :=
  compile Template.defaultFormat

def match? (permalink : Permalink) (path : String) : Option Match :=
  permalink.template.match? path

end Permalink

end BlogRouting
