import BlogRouting.Template.Segmentation
import BlogRouting.Text.Slashes

/-!
# Compiling formats

A format is accepted if it mentions the title, mentions nothing twice and does not end like a
feed. Leading slashes and doubled slashes are dropped before the format is cut into segments; the
template keeps the text as it was given.
-/

namespace BlogRouting

/-- Why a format is refused. -/
inductive CompileError where
  | missingTitle
  | repeated (p : Placeholder)
  | reservedFeedSuffix
  /-- The template is fine, but too large to match paths against. -/
  | tooLarge
  deriving DecidableEq, Repr

/-- The most bytes that the matcher of a template may take. -/
def Template.matcherLimit : Nat := 10485760

namespace CompileError

/-- The explanation for the person who chose the format. -/
def message : CompileError → String
  | missingTitle => "permalink format must contain `%title%`"
  | repeated p => "permalink format repeats `" ++ p.token ++ "`"
  | reservedFeedSuffix => "permalink format can't end in `.atom` or `.rss`"
  | tooLarge =>
    "Compiled regex exceeds size limit of " ++ toString Template.matcherLimit ++ " bytes."

/-- The explanation of the error underneath, if there is one. -/
def cause? : CompileError → Option String
  | tooLarge => some tooLarge.message
  | _ => none

end CompileError

/-- The first placeholder of the list that occurs before its place, in `seen` or in the list. -/
def Placeholder.firstRepeated? (seen : List Placeholder) : List Placeholder → Option Placeholder
  | [] => none
  | p :: rest => if p ∈ seen then some p else firstRepeated? (p :: seen) rest

/-- Whether the last segment is a literal with the ending of a feed. -/
def Segment.endsInFeedSuffix (segments : List Segment) : Bool :=
  match segments.getLast? with
  | some (.literal text) => Template.feedSuffixes.any (·.toList.isSuffixOf text.toList)
  | _ => false

namespace Template

/-- The text of a format that its segments are cut from. -/
def normalForm (format : String) : List Char :=
  Slashes.trimLeading (Slashes.collapse format.toList)

def compile (format : String) : Except CompileError Template :=
  let t : Template := ⟨format, Segment.cut (normalForm format)⟩
  match Placeholder.firstRepeated? [] t.placeholders with
  | some p => .error (.repeated p)
  | none =>
    if ¬ t.has .title then .error .missingTitle
    else if Segment.endsInFeedSuffix t.segments then .error .reservedFeedSuffix
    else .ok t

end Template

end BlogRouting
