/-!
# Cursors

A cursor is a place in a YAML text: the characters from it on, and where it stands. Past the end it
shows the character NUL, and a NUL in the text is taken for its end.
-/

namespace BlogRouting.Yaml

def isBreak (c : Char) : Bool :=
  c = '\n' || c = '\r'

def isSpace (c : Char) : Bool :=
  c = ' ' || c = '\t'

def isEnd (c : Char) : Bool :=
  c = '\x00'

/-- Whether the character ends a line. -/
def endsLine (c : Char) : Bool :=
  isBreak c || isEnd c

/-- Whether the character ends a word. -/
def endsWord (c : Char) : Bool :=
  isSpace c || endsLine c

/-- Whether the character delimits a collection in flow style. -/
def isFlowDelimiter (c : Char) : Bool :=
  c ∈ ",[]\x7b\x7d".toList

/-- Whether the character may stand in a name. -/
def isNameChar (c : Char) : Bool :=
  c.isAlphanum || c = '_' || c = '-'

structure Cursor where
  rest : List Char
  index : Nat := 0
  line : Nat := 0
  column : Nat := 0
  deriving Repr

namespace Cursor

def ofString (text : String) : Cursor :=
  { rest := text.toList.takeWhile (!isEnd ·) }

/-- The character `n` places after the cursor. -/
def look (c : Cursor) (n : Nat) : Char :=
  c.rest.getD n '\x00'

def here (c : Cursor) : Char :=
  c.look 0

def advance (c : Cursor) : Cursor :=
  match c.rest with
  | [] => c
  | '\n' :: rest => { rest, index := c.index + 1, line := c.line + 1, column := 0 }
  | _ :: rest => { c with rest, index := c.index + 1, column := c.column + 1 }

def advanceBy (c : Cursor) : Nat → Cursor
  | 0 => c
  | n + 1 => c.advance.advanceBy n

/-- Passes a line break, which may be of two characters. -/
def passBreak (c : Cursor) : Cursor :=
  if c.here = '\r' && c.look 1 = '\n' then c.advanceBy 2
  else if isBreak c.here then c.advance
  else c

/-- The characters up to the first that fails the test, and the cursor there. -/
def span (test : Char → Bool) (c : Cursor) : List Char × Cursor :=
  let run := c.rest.takeWhile test
  (run, c.advanceBy run.length)

def skip (test : Char → Bool) (c : Cursor) : Cursor :=
  (c.span test).2

/-- Whether a line of three times `mark` begins here. -/
def atMarker (c : Cursor) (mark : Char) : Bool :=
  c.column = 0 && c.look 0 = mark && c.look 1 = mark && c.look 2 = mark && endsWord (c.look 3)

/-- Whether a document begins or ends here. -/
def atDocumentMarker (c : Cursor) : Bool :=
  c.atMarker '-' || c.atMarker '.'

end Cursor

end BlogRouting.Yaml
