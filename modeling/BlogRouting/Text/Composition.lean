import BlogRouting.Text.Composition.Table
import BlogRouting.Text.Marks

/-!
# Composed letters

A letter with marks can be written in several ways: as one character or as several, and with its
marks in several orders. `compose` writes it in one way: the letter is taken apart, the marks are
put in order, and what can be one character becomes one. A Hangul syllable is one character too,
made of two or three letters.
-/

namespace BlogRouting.Composition

/-! ### Hangul -/

/-- The syllable that a consonant makes with a vowel, or such a syllable with a consonant. -/
def syllable? (first second : Nat) : Option Nat :=
  if 0x1100 ≤ first ∧ first ≤ 0x1112 ∧ 0x1161 ≤ second ∧ second ≤ 0x1175 then
    some (0xAC00 + ((first - 0x1100) * 21 + (second - 0x1161)) * 28)
  else if 0xAC00 ≤ first ∧ first ≤ 0xD7A3 ∧ (first - 0xAC00) % 28 = 0
      ∧ 0x11A8 ≤ second ∧ second ≤ 0x11C2 then
    some (first + (second - 0x11A7))
  else none

/-- The two characters that make a syllable. -/
def syllableParts? (n : Nat) : Option (Nat × Nat) :=
  if 0xAC00 ≤ n ∧ n ≤ 0xD7A3 then
    let place := n - 0xAC00
    if place % 28 = 0 then some (0x1100 + place / 588, 0x1161 + place % 588 / 28)
    else some (n - place % 28, 0x11A7 + place % 28)
  else none

/-! ### Letters and marks -/

/-- The character that a letter makes with a mark after it. -/
def composed? (letter mark : Char) : Option Char :=
  let tabled := table.findSome? fun (m, letters, results) =>
    if m = mark then (letters.toList.zip results.toList).lookup letter else none
  let coded := codes.findSome? fun (l, m, result) =>
    if l = letter.toNat ∧ m = mark.toNat then some (Char.ofNat result) else none
  tabled <|> coded <|> (syllable? letter.toNat mark.toNat).map Char.ofNat

/-- A letter and its last mark, if the character is made of them. -/
def parts? (c : Char) : Option (Char × Char) :=
  let tabled := table.findSome? fun (mark, letters, results) =>
    ((results.toList.zip letters.toList).lookup c).map (·, mark)
  let coded := codes.findSome? fun (letter, mark, result) =>
    if result = c.toNat then some (Char.ofNat letter, Char.ofNat mark) else none
  let hangul := (syllableParts? c.toNat).map fun (a, b) => (Char.ofNat a, Char.ofNat b)
  if c.toNat < 0xC0 then none else tabled <|> coded <|> hangul

/-- No character is made of a letter and more marks than this. -/
def mostMarks : Nat := 4

/-- The letter and the marks that a character is made of, taken apart at most `n` times. -/
def takenApart (c : Char) : Nat → List Char
  | 0 => [c]
  | n + 1 =>
    match parts? c with
    | some (letter, mark) => takenApart letter n ++ [mark]
    | none => [c]

/-- Puts a character in front of marks in order. A mark goes behind those of lesser classes. -/
def insertMark (c : Char) : List Char → List Char
  | [] => [c]
  | d :: rest =>
    if 0 < Marks.order d ∧ Marks.order d < Marks.order c then d :: insertMark c rest
    else c :: d :: rest

/-- Composes a letter with the marks after it. A mark that stays, with the last such mark first in
`kept`, keeps marks of its own class and of lesser ones away from the letter. -/
def composeOnto (letter : Char) (kept : List Char) : List Char → List Char
  | [] => letter :: kept.reverse
  | c :: rest =>
    let order := Marks.order c
    let isNear := kept.head?.all fun d => Marks.order d < order
    match if isNear then composed? letter c else none with
    | some result => composeOnto result kept rest
    | none =>
      if order = 0 then letter :: kept.reverse ++ composeOnto c [] rest
      else composeOnto letter (c :: kept) rest

/-- The text with letters and their marks composed. -/
def compose (text : List Char) : List Char :=
  match (text.flatMap (takenApart · mostMarks)).foldr insertMark [] with
  | [] => []
  | c :: rest => composeOnto c [] rest

end BlogRouting.Composition
