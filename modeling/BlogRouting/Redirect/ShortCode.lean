/-!
# Short codes

A short code is a number in base thirty-six, with the digits `0` to `9` and `a` to `z`.
-/

namespace BlogRouting.ShortCode

/-- The digit of value `n`, for `n` below thirty-six. -/
def digit (n : Nat) : Char :=
  if n < 10 then Char.ofNat ('0'.toNat + n) else Char.ofNat ('a'.toNat + (n - 10))

/-- The digits of `n`, at least one. -/
def digits (n : Nat) : List Char :=
  if n < 36 then [digit n] else digits (n / 36) ++ [digit (n % 36)]

def render (n : Nat) : String :=
  .ofList (digits n)

/-- The code of the first number from `n` on whose code is not used. A used code is erased before
the next number is tried, which leaves the codes of later numbers alone. -/
def firstUnused (used : List String) (n : Nat) : String :=
  if h : render n ∈ used then firstUnused (used.erase (render n)) (n + 1) else render n
  termination_by used.length
  decreasing_by
    rw [List.length_erase_of_mem h]
    exact Nat.sub_lt (List.length_pos_of_mem h) Nat.one_pos

end BlogRouting.ShortCode
