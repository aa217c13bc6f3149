import BlogRouting.Text.Hexadecimal
import BlogRouting.Yaml.Cursor

/-!
# Scalars

A scalar is written plainly, in quotes, or as a block of lines. Line breaks inside the first two
are folded: a single break is a space, and of several the first is dropped.
-/

namespace BlogRouting.Yaml

/-- What stands between two words of a scalar. -/
inductive Gap where
  | spaces (text : List Char)
  /-- A line break and the given number of further ones. An escaped break is not even a space. -/
  | breaks (further : Nat) (escaped : Bool)

namespace Gap

def none : Gap := spaces []

/-- What the gap contributes to the scalar. -/
def folded : Gap → List Char
  | spaces text => text
  | breaks 0 escaped => if escaped then [] else [' ']
  | breaks (n + 1) _ => List.replicate (n + 1) '\n'

def hasBreak : Gap → Bool
  | spaces _ => false
  | breaks .. => true

/-- Reads on from a gap. A tab may not stand in front of the column `margin` of a new line. -/
def read? (margin : Nat) (gap : Gap) (c : Cursor) : Nat → Option (Gap × Cursor)
  | 0 => Option.none
  | fuel + 1 =>
    if isSpace c.here then
      match gap with
      | spaces text => (spaces (text ++ [c.here])).read? margin c.advance fuel
      | breaks .. =>
        if c.here = '\t' && c.column < margin then Option.none
        else gap.read? margin c.advance fuel
    else if isBreak c.here then
      match gap with
      | spaces _ => (breaks 0 false).read? margin c.passBreak fuel
      | breaks n escaped => (breaks (n + 1) escaped).read? margin c.passBreak fuel
    else some (gap, c)

end Gap

/-- A bound on the steps that reading can take from here. -/
def Cursor.steps (c : Cursor) : Nat :=
  c.rest.length + 2

/-! ### Plain scalars -/

/-- The word of a plain scalar that a text begins with. A colon ends it if the word after the colon
is empty. -/
def plainWord (flow : Bool) : List Char → List Char
  | [] => []
  | c :: rest =>
    let next := rest.headD '\x00'
    let ends := endsWord c || (flow && isFlowDelimiter c)
      || (c = ':' && (endsWord next || (flow && isFlowDelimiter next)))
    if ends then [] else c :: plainWord flow rest

/-- A scalar as it is read: its text, whether a line break follows, and the cursor after it. -/
structure ScalarText where
  text : String
  lineEnds : Bool
  after : Cursor

/-- Reads on in a plain scalar whose words so far are in `text`, last character first. Its lines
begin at the column `margin` or later, except in flow style. -/
def plainOnto? (margin : Nat) (flow : Bool) (text : List Char) (gap : Gap) (c : Cursor) :
    Nat → Option ScalarText
  | 0 => none
  | fuel + 1 => do
    let result := fun (text : List Char) (gap : Gap) (after : Cursor) =>
      ({ text := .ofList text.reverse, lineEnds := gap.hasBreak, after } : ScalarText)
    if c.atDocumentMarker || c.here = '#' then return result text gap c
    let word := plainWord flow c.rest
    let next := c.advanceBy word.length
    let text := if word = [] then text else word.reverse ++ gap.folded.reverse ++ text
    let gap := if word = [] then gap else Gap.none
    if ¬ (isSpace next.here || isBreak next.here) then return result text gap next
    let (gap, next) ← gap.read? margin next next.steps
    if ¬ flow ∧ next.column < margin then return result text gap next
    plainOnto? margin flow text gap next fuel

def plain? (margin : Nat) (flow : Bool) (c : Cursor) : Option ScalarText :=
  plainOnto? margin flow [] Gap.none c c.steps

/-! ### Quoted scalars -/

/-- The characters of one letter escapes. -/
def namedEscape? : Char → Option Char
  | '0' => some '\x00'
  | 'a' => some '\x07'
  | 'b' => some '\x08'
  | 't' | '\t' => some '\t'
  | 'n' => some '\n'
  | 'v' => some '\x0b'
  | 'f' => some '\x0c'
  | 'r' => some '\r'
  | 'e' => some '\x1b'
  | ' ' => some ' '
  | '"' => some '"'
  | '\'' => some '\''
  | '\\' => some '\\'
  | 'N' => some '\u0085'
  | '_' => some '\u00a0'
  | 'L' => some '\u2028'
  | 'P' => some '\u2029'
  | _ => none

/-- The number of digits after the letter of a numeric escape. -/
def escapeDigits? : Char → Option Nat
  | 'x' => some 2
  | 'u' => some 4
  | 'U' => some 8
  | _ => none

/-- Reads an escape of a double-quoted scalar, with the cursor at the backslash. -/
def escape? (c : Cursor) : Option (Char × Cursor) :=
  match namedEscape? (c.look 1) with
  | some char => some (char, c.advanceBy 2)
  | none => do
    let count ← escapeDigits? (c.look 1)
    let digits := (c.rest.drop 2).take count
    guard (digits.length = count)
    let code ← digits.foldlM (fun n d => (hexValue? d).map (16 * n + ·)) 0
    guard code.isValidChar
    return (Char.ofNat code, c.advanceBy (2 + count))

/-- Reads on in a word of a quoted scalar. The word ends at a space, a break or the closing quote,
or after an escaped break, of which the second component tells. -/
def quotedWord? (single : Bool) (text : List Char) (c : Cursor) :
    Nat → Option (List Char × Bool × Cursor)
  | 0 => none
  | fuel + 1 =>
    if endsWord c.here then some (text, false, c)
    else if single then
      if c.here = '\'' then
        if c.look 1 = '\'' then quotedWord? single ('\'' :: text) (c.advanceBy 2) fuel
        else some (text, false, c)
      else quotedWord? single (c.here :: text) c.advance fuel
    else if c.here = '"' then some (text, false, c)
    else if c.here = '\\' then
      if isBreak (c.look 1) then some (text, true, c.advance.passBreak)
      else do
        let (char, next) ← escape? c
        quotedWord? single (char :: text) next fuel
    else quotedWord? single (c.here :: text) c.advance fuel

/-- Reads on in a quoted scalar up to the closing quote. -/
def quotedOnto? (single : Bool) (text : List Char) (c : Cursor) : Nat → Option ScalarText
  | 0 => none
  | fuel + 1 => do
    guard (!c.atDocumentMarker && !isEnd c.here)
    let (text, escaped, next) ← quotedWord? single text c c.steps
    if next.here = (if single then '\'' else '"') then
      return { text := .ofList text.reverse, lineEnds := false, after := next.advance }
    let (gap, next) ← (if escaped then Gap.breaks 0 true else Gap.none).read? 0 next next.steps
    quotedOnto? single (gap.folded.reverse ++ text) next fuel

/-- Reads a quoted scalar, with the cursor at its opening quote. -/
def quoted? (single : Bool) (c : Cursor) : Option ScalarText :=
  quotedOnto? single [] c.advance c.steps

/-! ### Block scalars -/

/-- What becomes of the line breaks at the end of a block. -/
inductive Chomping where
  | strip
  | clip
  | keep
  deriving DecidableEq

/-- The sign that may stand in the header of a block. -/
def chomping? : Char → Option Chomping
  | '+' => some .keep
  | '-' => some .strip
  | _ => none

/-- Reads the sign and the indentation of a header, in either order. -/
def blockHeader? (c : Cursor) : Option (Chomping × Nat × Cursor) :=
  let depth := fun (c : Cursor) => c.here.toNat - '0'.toNat
  match chomping? c.here with
  | some chomping =>
    let c := c.advance
    if ¬ c.here.isDigit then some (chomping, 0, c)
    else if c.here = '0' then none
    else some (chomping, depth c, c.advance)
  | none =>
    if ¬ c.here.isDigit then some (.clip, 0, c)
    else if c.here = '0' then none
    else
      match chomping? c.advance.here with
      | some chomping => some (chomping, depth c, c.advanceBy 2)
      | none => some (.clip, depth c, c.advance)

/-- Passes the empty lines of a block and the indentation of the next line. Gives the number of
breaks and the greatest indentation seen. An indentation of zero is not known yet. -/
def blockBreaks? (indent deepest count : Nat) (c : Cursor) : Nat → Option (Nat × Nat × Cursor)
  | 0 => none
  | fuel + 1 =>
    let room := if indent = 0 then c.rest.length else indent - c.column
    let spaces := ((c.rest.take room).takeWhile (· = ' ')).length
    let c := c.advanceBy spaces
    let deepest := max deepest c.column
    if (indent = 0 || c.column < indent) && c.here = '\t' then none
    else if isBreak c.here then blockBreaks? indent deepest (count + 1) c.passBreak fuel
    else some (deepest, count, c)

/-- The text of a block so far. -/
structure Block where
  /-- The last character first. -/
  text : List Char := []
  /-- Whether the break of the last line is still to be written. -/
  breakDue : Bool := false
  /-- The number of empty lines after it. -/
  emptyLines : Nat := 0
  /-- Whether the last line began with a space. -/
  indented : Bool := false

/-- Adds a line. In a folded block a break between two lines that do not begin with a space is
folded. -/
def Block.addLine (literal : Bool) (block : Block) (line : List Char) : Block :=
  let indented := line.head?.any isSpace
  let folds := !literal && block.breakDue && !block.indented && !indented
  let due :=
    if folds then if block.emptyLines = 0 then [' '] else []
    else if block.breakDue then ['\n'] else []
  { text := line.reverse ++ List.replicate block.emptyLines '\n' ++ due ++ block.text, indented }

/-- Reads the lines of a block from the first one on. -/
def blockLines? (literal : Bool) (indent : Nat) (block : Block) (c : Cursor) :
    Nat → Option (Block × Cursor)
  | 0 => none
  | fuel + 1 => do
    if c.column ≠ indent ∨ isEnd c.here then return (block, c)
    let (line, c) := c.span (!endsLine ·)
    let block := block.addLine literal line
    if isEnd c.here then return (block, c)
    let c := c.passBreak
    let (_, count, c) ← blockBreaks? indent 0 0 c c.steps
    blockLines? literal indent { block with breakDue := true, emptyLines := count } c fuel

/-- Reads a block scalar, with the cursor at its indicator. Its lines are indented to the column
`margin` at least. -/
def block? (literal : Bool) (margin : Nat) (c : Cursor) : Option ScalarText := do
  let (chomping, depth, c) ← blockHeader? c.advance
  let c := c.skip isSpace
  let c := if c.here = '#' then c.skip (!endsLine ·) else c
  guard (endsLine c.here)
  let c := c.passBreak
  let given := if depth = 0 then 0 else (margin - 1) + depth
  let (deepest, count, c) ← blockBreaks? given 0 0 c c.steps
  let indent := if given = 0 then max deepest (max margin 1) else given
  let (block, c) ← blockLines? literal indent { emptyLines := count } c c.steps
  let lastBreak := if block.breakDue then ['\n'] else []
  let tail := match chomping with
    | .strip => []
    | .clip => lastBreak
    | .keep => List.replicate block.emptyLines '\n' ++ lastBreak
  return { text := .ofList (tail ++ block.text).reverse, lineEnds := true, after := c }

end BlogRouting.Yaml
