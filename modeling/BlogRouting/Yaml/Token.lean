import BlogRouting.Yaml.Scalar
import BlogRouting.Yaml.Tag

/-!
# Tokens

A YAML text is cut into tokens before its structure is read. Indentation becomes tokens of its own,
and a key is only known as one when its colon is reached, so its token is inserted where the key
began.
-/

namespace BlogRouting.Yaml

inductive Style where
  | plain
  | quoted
  | block
  deriving DecidableEq, Repr

inductive Token where
  | directive
  | documentStart
  | documentEnd
  | blockSequenceStart
  | blockMappingStart
  | blockEnd
  | flowSequenceStart
  | flowSequenceEnd
  | flowMappingStart
  | flowMappingEnd
  | blockEntry
  | flowEntry
  | key
  | value
  | alias (name : String)
  | anchor (name : String)
  | tag (handle suffix : String)
  | scalar (style : Style) (text : String)
  deriving DecidableEq, Repr

/-- Where a key may have begun. -/
structure KeyStart where
  /-- The number of tokens before it. -/
  position : Nat
  cursor : Cursor
  /-- Whether no other reading of the token is possible. -/
  required : Bool

structure Scanner where
  cursor : Cursor
  tokens : Array Token := #[]
  /-- The columns of the open block collections, the innermost first. -/
  indents : List Nat := []
  /-- For each open flow collection, innermost first, and for the block around them: where a key
  may have begun. -/
  keys : List (Option KeyStart) := [none]
  /-- Whether a key may begin here. -/
  keyAllowed : Bool := true
  /-- The index after the last quoted scalar, where a colon needs no space after it. -/
  quoteEnd : Option Nat := none

namespace Scanner

/-- Whether the cursor is inside a flow collection. -/
def inFlow (s : Scanner) : Bool :=
  s.keys.length > 1

/-- The least column of the lines that belong to the innermost block collection. -/
def margin (s : Scanner) : Nat :=
  match s.indents with
  | [] => 0
  | column :: _ => column + 1

def push (s : Scanner) (token : Token) : Scanner :=
  { s with tokens := s.tokens.push token }

def insertAt (s : Scanner) (position : Nat) (token : Token) : Scanner :=
  { s with tokens := s.tokens.insertIdxIfInBounds position token }

def advanceBy (s : Scanner) (n : Nat) : Scanner :=
  { s with cursor := s.cursor.advanceBy n }

/-! ### Indentation -/

/-- Opens a block collection at a column further in than the one around it. -/
def openBlock (s : Scanner) (column position : Nat) (token : Token) : Scanner :=
  if s.inFlow ∨ column < s.margin then s
  else { s.insertAt position token with indents := column :: s.indents }

/-- Closes the block collections that reach further in than the column. -/
def closeBlocksOnto (column : Nat) (tokens : Array Token) : List Nat → Array Token × List Nat
  | [] => (tokens, [])
  | indent :: indents =>
    if column < indent then closeBlocksOnto column (tokens.push .blockEnd) indents
    else (tokens, indent :: indents)

def closeBlocks (s : Scanner) (column : Nat) : Scanner :=
  if s.inFlow then s
  else
    let (tokens, indents) := closeBlocksOnto column s.tokens s.indents
    { s with tokens, indents }

def closeAllBlocks (s : Scanner) : Scanner :=
  if s.inFlow then s
  else { s with tokens := s.tokens ++ Array.replicate s.indents.length .blockEnd, indents := [] }

/-! ### Keys -/

/-- Gives up the key that may have begun in the innermost collection. -/
def dropKey? (s : Scanner) : Option Scanner :=
  match s.keys with
  | some start :: keys => if start.required then none else some { s with keys := none :: keys }
  | _ => some s

/-- Notes that a key may begin here. -/
def noteKey? (s : Scanner) : Option Scanner := do
  if ¬ s.keyAllowed then return s
  let s ← s.dropKey?
  let start : KeyStart :=
    { position := s.tokens.size
      cursor := s.cursor
      required := s.inFlow && s.indents.head? = some s.cursor.column }
  return { s with keys := some start :: s.keys.tail }

/-- Gives up keys that would span lines or more than 1024 characters. -/
def dropStaleKeys? (s : Scanner) : Option Scanner := do
  let keys ← s.keys.mapM fun
    | none => some none
    | some start =>
      if start.cursor.line < s.cursor.line ∨ start.cursor.index + 1024 < s.cursor.index then
        if start.required then none else some none
      else some (some start)
  return { s with keys }

/-! ### Tokens of each kind -/

/-- Passes blanks, comments and line breaks. A tab may not stand where a key may begin. -/
def skipBlanks (s : Scanner) : Nat → Scanner
  | 0 => s
  | fuel + 1 =>
    let c := s.cursor
    if c.here = ' ' ∨ (c.here = '\t' ∧ (s.inFlow ∨ ¬ s.keyAllowed)) then
      { s with cursor := c.advance }.skipBlanks fuel
    else if isBreak c.here then
      { s with cursor := c.passBreak, keyAllowed := s.keyAllowed || !s.inFlow }.skipBlanks fuel
    else if c.here = '#' then { s with cursor := c.skip (!endsLine ·) }.skipBlanks fuel
    else s

/-- Takes an indicator of `n` characters. -/
def indicator? (s : Scanner) (n : Nat) (token : Token) (keyAllowed : Bool) : Option Scanner :=
  some { s.push token with cursor := s.cursor.advanceBy n, keyAllowed }

def documentMarker? (s : Scanner) (token : Token) : Option Scanner := do
  (← s.closeAllBlocks.dropKey?).indicator? 3 token false

/-- Passes a number of one to nine digits. -/
def passNumber? (c : Cursor) : Option Cursor := do
  let (digits, c) := c.span Char.isDigit
  guard (digits ≠ [] ∧ digits.length ≤ 9)
  return c

/-- Passes the version that a `%YAML` directive names. -/
def passVersion? (c : Cursor) : Option Cursor := do
  let c ← passNumber? (c.skip isSpace)
  guard (c.here = '.')
  passNumber? c.advance

/-- Passes the handle, one of `!`, `!!` and `!name!`, and the beginning of tags that a `%TAG`
directive names. -/
def passTagShorthand? (c : Cursor) : Option Cursor := do
  let c := c.skip isSpace
  guard (c.here = '!')
  let (name, c) := c.advance.span isNameChar
  guard (c.here = '!' ∨ name = [])
  let c := if c.here = '!' then c.advance else c
  let (beginning, c) ← tagText? (c.skip isSpace)
  guard (beginning ≠ [] ∧ endsWord c.here)
  return c

/-- Takes a directive with its line. A directive of an unknown name may hold anything. -/
def directive? (s : Scanner) : Option Scanner := do
  let s ← s.closeAllBlocks.dropKey?
  let (name, c) := s.cursor.advance.span isNameChar
  guard (name ≠ [] ∧ endsWord c.here)
  let c ←
    if name = "YAML".toList then passVersion? c
    else if name = "TAG".toList then passTagShorthand? c
    else some (c.skip (!endsLine ·))
  let c := c.skip isSpace
  let c := if c.here = '#' then c.skip (!endsLine ·) else c
  guard (endsLine c.here)
  return { s.push .directive with cursor := c.passBreak, keyAllowed := false }

/-- At most 255 collections in flow style may be inside one another. -/
def depthLimit : Nat := 255

def openFlow? (s : Scanner) (token : Token) : Option Scanner := do
  let s ← s.noteKey?
  guard (s.keys.length ≤ depthLimit)
  { s with keys := none :: s.keys }.indicator? 1 token true

def closeFlow? (s : Scanner) (token : Token) : Option Scanner := do
  let s ← s.dropKey?
  { s with keys := if s.inFlow then s.keys.tail else s.keys }.indicator? 1 token false

def flowEntry? (s : Scanner) : Option Scanner := do
  (← s.dropKey?).indicator? 1 .flowEntry true

def blockEntry? (s : Scanner) : Option Scanner := do
  guard (!s.inFlow && s.keyAllowed)
  let s := s.openBlock s.cursor.column s.tokens.size .blockSequenceStart
  (← s.dropKey?).indicator? 1 .blockEntry true

def key? (s : Scanner) : Option Scanner := do
  guard (s.inFlow || s.keyAllowed)
  let s := s.openBlock s.cursor.column s.tokens.size .blockMappingStart
  (← s.dropKey?).indicator? 1 .key (!s.inFlow)

def value? (s : Scanner) : Option Scanner :=
  match s.keys with
  | some start :: keys =>
    let s := (s.insertAt start.position .key).openBlock start.cursor.column start.position
      .blockMappingStart
    { s with keys := none :: keys }.indicator? 1 .value false
  | _ => do
    guard (s.inFlow || s.keyAllowed)
    let s := s.openBlock s.cursor.column s.tokens.size .blockMappingStart
    s.indicator? 1 .value (!s.inFlow)

/-- Takes the name of an anchor or an alias. -/
def name? (s : Scanner) (token : String → Token) : Option Scanner := do
  let s ← s.noteKey?
  let (name, c) := s.cursor.advance.span isNameChar
  guard (name ≠ [] ∧ (endsWord c.here ∨ c.here ∈ "?:,]\x7d%@\x60".toList))
  return { s.push (token (.ofList name)) with cursor := c, keyAllowed := false }

/-- Takes a tag: `!<suffix>`, `!handle!suffix`, `!suffix` or `!` alone. -/
def tag? (s : Scanner) : Option Scanner := do
  let s ← s.noteKey?
  let finish := fun (handle suffix : String) (c : Cursor) => do
    guard (endsWord c.here)
    return { s.push (.tag handle suffix) with cursor := c, keyAllowed := false }
  let start := s.cursor.advance
  if start.here = '<' then
    let (suffix, c) ← tagText? start.advance
    guard (suffix ≠ [] ∧ c.here = '>')
    finish "" (.ofList suffix) c.advance
  else
    let (name, c) := start.span isNameChar
    if c.here = '!' then
      let (suffix, c) ← tagText? c.advance
      guard (suffix ≠ [])
      finish (.ofList ('!' :: name ++ ['!'])) (.ofList suffix) c
    else
      let (suffix, c) ← tagText? start
      if suffix = [] then finish "" "!" c else finish "!" (.ofList suffix) c

def quotedScalar? (s : Scanner) (single : Bool) : Option Scanner := do
  let s ← s.noteKey?
  let scalar ← quoted? single s.cursor
  return { s.push (.scalar .quoted scalar.text) with
    cursor := scalar.after, keyAllowed := false, quoteEnd := some scalar.after.index }

def blockScalar? (s : Scanner) (literal : Bool) : Option Scanner := do
  let s ← s.noteKey?
  let scalar ← block? literal s.margin s.cursor
  return { s.push (.scalar .block scalar.text) with cursor := scalar.after, keyAllowed := true }

def plainScalar? (s : Scanner) : Option Scanner := do
  let s ← s.noteKey?
  let scalar ← plain? s.margin s.inFlow s.cursor
  return { s.push (.scalar .plain scalar.text) with
    cursor := scalar.after, keyAllowed := scalar.lineEnds }

/-- Takes the token at the cursor, where no blank stands. -/
def token? (s : Scanner) : Option Scanner :=
  let c := s.cursor
  let next := c.look 1
  if c.column = 0 && c.here = '%' then s.directive?
  else if c.atMarker '-' then s.documentMarker? .documentStart
  else if c.atMarker '.' then s.documentMarker? .documentEnd
  else match c.here with
    | '[' => s.openFlow? .flowSequenceStart
    | '\x7b' => s.openFlow? .flowMappingStart
    | ']' => s.closeFlow? .flowSequenceEnd
    | '\x7d' => s.closeFlow? .flowMappingEnd
    | ',' => s.flowEntry?
    | '*' => s.name? .alias
    | '&' => s.name? .anchor
    | '!' => s.tag?
    | '\'' => s.quotedScalar? true
    | '"' => s.quotedScalar? false
    | '-' => if endsWord next then s.blockEntry? else s.plainScalar?
    | '?' => if endsWord next then s.key? else s.plainScalar?
    | ':' =>
      if endsWord next || (s.inFlow && (isFlowDelimiter next || s.quoteEnd = some c.index)) then
        s.value?
      else s.plainScalar?
    | '|' => if s.inFlow then s.plainScalar? else s.blockScalar? true
    | '>' => if s.inFlow then s.plainScalar? else s.blockScalar? false
    | '%' | '@' | '\x60' => none
    | _ => s.plainScalar?

/-- Takes all tokens up to the end of the text. -/
def run? (s : Scanner) : Nat → Option (List Token)
  | 0 => none
  | fuel + 1 => do
    let s ← (s.skipBlanks s.cursor.steps).dropStaleKeys?
    let s := s.closeBlocks s.cursor.column
    if s.cursor.rest = [] then
      return (← s.closeAllBlocks.dropKey?).tokens.toList
    (← s.token?).run? fuel

end Scanner

/-- The tokens of a text. -/
def Token.scan? (text : String) : Option (List Token) :=
  let cursor := Cursor.ofString text
  { cursor : Scanner }.run? cursor.steps

end BlogRouting.Yaml
