/-!
# Ranges of codes

Most sets of characters are best given by the ranges of their codes.
-/

namespace BlogRouting

/-- The first and the last code of each range. -/
abbrev CodeRanges := List (Nat × Nat)

/-- Whether the code of the character lies in one of the ranges. -/
def CodeRanges.contains (ranges : CodeRanges) (c : Char) : Bool :=
  ranges.any fun (first, last) => first ≤ c.toNat && c.toNat ≤ last

end BlogRouting
