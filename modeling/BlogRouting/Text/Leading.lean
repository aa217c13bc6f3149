/-!
# Leading parts

Taking a text from the front of another one gives what follows it. Main statement: what follows is
exactly what completes the longer text (`isPrefixOf?_eq_some_iff`).
-/

namespace BlogRouting

/-- What follows a text that stands in front completes the longer text. -/
theorem isPrefixOf?_eq_some_iff {fixed text rest : List Char} :
    fixed.isPrefixOf? text = some rest ↔ text = fixed ++ rest := by
  induction fixed generalizing text with
  | nil =>
    show some text = some rest ↔ text = rest
    simp
  | cons c fixed ih =>
    cases text with
    | nil =>
      show none = some rest ↔ [] = c :: (fixed ++ rest)
      simp
    | cons d text =>
      show (if c == d then fixed.isPrefixOf? text else none) = some rest ↔
        d :: text = c :: (fixed ++ rest)
      simp only [beq_iff_eq, List.cons.injEq]
      split
      · rename_i h; simp [ih, h]
      · rename_i h; simp [Ne.symm h]

theorem isPrefixOf_eq_isSome (fixed text : List Char) :
    fixed.isPrefixOf text = (fixed.isPrefixOf? text).isSome := by
  induction fixed generalizing text with
  | nil => rfl
  | cons c fixed ih =>
    cases text with
    | nil => rfl
    | cons d text =>
      show (c == d && fixed.isPrefixOf text)
        = (if c == d then fixed.isPrefixOf? text else none).isSome
      rw [ih]
      split
      · rename_i h; simp [h]
      · rename_i h; simp [h]

end BlogRouting
