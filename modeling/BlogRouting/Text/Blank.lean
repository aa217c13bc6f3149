/-!
# Blank characters

The characters with Unicode's `White_Space` property. They surround the source path of a stored
redirect and the numbers of a date-time without meaning anything.
-/

namespace BlogRouting

/-- Whether `c` has the `White_Space` property. -/
def isBlank (c : Char) : Bool :=
  let n := c.toNat
  (0x09 ≤ n && n ≤ 0x0D) || n == 0x20 || n == 0x85 || n == 0xA0 || n == 0x1680
    || (0x2000 ≤ n && n ≤ 0x200A) || n == 0x2028 || n == 0x2029 || n == 0x202F
    || n == 0x205F || n == 0x3000

/-- The characters from the first one that is not blank. -/
def skipBlank (text : List Char) : List Char :=
  text.dropWhile isBlank

/-- The text without the blank characters at its ends. -/
def trimBlank (text : String) : String :=
  .ofList (skipBlank (skipBlank text.toList).reverse).reverse

end BlogRouting
