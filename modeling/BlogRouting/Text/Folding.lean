import BlogRouting.Text.Folding.Letters
import BlogRouting.Text.Folding.Words

/-!
# Folded letters

Domains that differ only in how their letters look are the same domain. So capitals stand for small
letters, and raised, lowered, wide, circled and ornamental letters and ligatures for the plain
letters in them. A letter in no table stands for itself.
-/

namespace BlogRouting.Folding

/-- What a rule for a range makes of the code. -/
def shifted? (n : Nat) : Option Nat :=
  shifts.findSome? fun (first, last, step, target) =>
    if first ≤ n ∧ n ≤ last ∧ (n - first) % step = 0 then some (target + (n - first)) else none

/-- What stands at the place of the code in the last row that begins at it or before. -/
def entry? {α : Type} (rows : List (Nat × String)) (entries : String → List α) (n : Nat) :
    Option α := do
  let (first, row) ← (rows.takeWhile fun (first, _) => first ≤ n).getLast?
  (entries row)[n - first]?

/-- What the character stands for. -/
def reading (c : Char) : List Char :=
  let n := c.toNat
  match shifted? n, entry? letters String.toList n, entry? words (·.splitOn " ") n with
  | some code, _, _ => [Char.ofNat code]
  | none, some letter, _ => [letter]
  | none, none, some word => word.toList
  | none, none, none => [c]

end BlogRouting.Folding
