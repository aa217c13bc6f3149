/-!
# Punycode

Punycode writes a label with letters outside ASCII in ASCII letters, digits and hyphens: first the
ASCII characters of the label, then where the others go, as the distances between them in a
numeral system whose digits have thresholds that adapt to the distances before.
-/

namespace BlogRouting.Punycode

/-- The digit of value `n`, for `n` below thirty-six. -/
def digit (n : Nat) : Char :=
  if n < 26 then Char.ofNat ('a'.toNat + n) else Char.ofNat ('0'.toNat + (n - 26))

def digitValue? (c : Char) : Option Nat :=
  if c.isDigit then some (c.toNat - '0'.toNat + 26)
  else if c.isAlpha then some (c.toLower.toNat - 'a'.toNat)
  else none

/-- The value below which a digit ends its numeral. `weight` is the digit's place, a multiple of
thirty-six. -/
def threshold (weight bias : Nat) : Nat :=
  max 1 (min 26 (weight - bias))

/-- No threshold is zero, so the distance that is left gets smaller with every digit. -/
theorem threshold_pos (weight bias : Nat) : 1 ≤ threshold weight bias :=
  Nat.le_max_left _ _

/-- Divides until the distance is small and counts how often, in steps of thirty-six. -/
def scaleDown (distance steps : Nat) : Nat × Nat :=
  if 455 < distance then scaleDown (distance / 35) (steps + 36) else (distance, steps)
  termination_by distance
  decreasing_by exact Nat.div_lt_self (by omega) (by omega)

/-- The bias after a distance, when `count` characters have their place. -/
def adapt (distance count : Nat) (first : Bool) : Nat :=
  let halved := if first then distance / 700 else distance / 2
  let (small, steps) := scaleDown (halved + halved / count) 0
  steps + 36 * small / (small + 38)

/-! ### Writing -/

/-- The digits of a distance from the place `weight` on. -/
def distanceDigits (bias weight distance : Nat) : List Char :=
  let t := threshold weight bias
  if distance < t then [digit distance]
  else
    digit (t + (distance - t) % (36 - t)) ::
      distanceDigits bias (weight + 36) ((distance - t) / (36 - t))
  termination_by distance
  decreasing_by
    have hPos := threshold_pos weight bias
    exact Nat.lt_of_le_of_lt (Nat.div_le_self _ _) (by omega)

/-- Where writing stands: the digits so far, last first, the distance since the last character,
and how many characters have their place. -/
structure Progress where
  written : List Char
  distance : Nat
  bias : Nat
  placed : Nat
  first : Bool

/-- Passes one character of the label while the characters of code `code` get their place. -/
def Progress.pass (code : Nat) (progress : Progress) (c : Char) : Progress :=
  if c.toNat < code then { progress with distance := progress.distance + 1 }
  else if c.toNat = code then
    let digits := distanceDigits progress.bias 36 progress.distance
    { written := digits.reverse ++ progress.written
      distance := 0
      bias := adapt progress.distance (progress.placed + 1) progress.first
      placed := progress.placed + 1
      first := false }
  else progress

/-- Places the characters of each code in turn. `least` is the least code not yet placed. -/
def placeCodes (label : List Char) (least : Nat) (progress : Progress) : List Nat → List Char
  | [] => progress.written.reverse
  | code :: codes =>
    let skipped := (code - least) * (progress.placed + 1)
    let passed := label.foldl (Progress.pass code)
      { progress with distance := progress.distance + skipped }
    placeCodes label (code + 1) { passed with distance := passed.distance + 1 } codes

/-- The Punycode of a label. -/
def encode (label : List Char) : List Char :=
  let basic := label.filter (·.toNat < 0x80)
  let codes := ((label.map Char.toNat).filter (0x80 ≤ ·)).mergeSort.eraseDups
  let start : Progress :=
    { written := [], distance := 0, bias := 72, placed := basic.length, first := true }
  basic ++ (if basic = [] then [] else ['-']) ++ placeCodes label 0x80 start codes

/-! ### Reading -/

/-- Reads a distance and adds it, times `unit`, to `sum`. -/
def readDistance? (bias weight unit sum : Nat) : List Char → Option (Nat × List Char)
  | [] => none
  | c :: rest => do
    let d ← digitValue? c
    let t := threshold weight bias
    if d < t then return (sum + d * unit, rest)
    readDistance? bias (weight + 36) (unit * (36 - t)) (sum + d * unit) rest

/-- Reading a distance takes a character from the text at least. -/
theorem length_of_readDistance? {bias weight unit sum n : Nat} {text rest : List Char}
    (h : readDistance? bias weight unit sum text = some (n, rest)) :
    rest.length < text.length := by
  induction text generalizing weight unit sum with
  | nil => simp [readDistance?] at h
  | cons c text ih =>
    simp only [readDistance?, Option.bind_eq_bind, Option.bind_eq_some_iff] at h
    obtain ⟨d, -, h⟩ := h
    split at h
    · simp only [Option.pure_def, Option.some.injEq, Prod.mk.injEq] at h
      simp [← h.2]
    · have := ih h
      simp only [List.length_cons]
      omega

/-- Inserts the characters that `digits` describe into `label`. `position` is where the last one
went and `code` what it was. -/
def insertCodes? (label : List Char) (bias code position : Nat) (first : Bool)
    (digits : List Char) : Option (List Char) :=
  match digits with
  | [] => some label
  | c :: rest =>
    match _read : readDistance? bias 36 1 position (c :: rest) with
    | none => none
    | some (sum, after) =>
      let count := label.length + 1
      let code := code + sum / count
      let place := sum % count
      if code.isValidChar then
        insertCodes? (label.take place ++ Char.ofNat code :: label.drop place)
          (adapt (sum - position) count first) code (place + 1) false after
      else none
  termination_by digits.length
  decreasing_by exact length_of_readDistance? _read

/-- The label that a Punycode text stands for. -/
def decode? (text : List Char) : Option (List Char) :=
  let digits := (text.reverse.takeWhile (· ≠ '-')).reverse
  let basic := (text.take (text.length - digits.length)).dropLast
  if basic.all (·.toNat < 0x80) then insertCodes? basic 72 0x80 0 true digits else none

end BlogRouting.Punycode
