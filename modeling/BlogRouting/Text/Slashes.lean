/-!
# Slashes

Formats and request paths are compared without leading slashes and with every run of slashes
counted as one. The functions on `List Char` do the work, the ones on `String` are what other
modules call. A text is collapsed by a scan from its front that knows only what it has kept so far
(`scan`); read from the end, the same is a recursion on the text (`collapse_cons`).
-/

namespace BlogRouting

namespace Slashes

/-- Whether two slashes stand next to each other. -/
def hasDouble : List Char → Bool
  | [] => false
  | c :: text => (c == '/' && text.head? == some '/') || hasDouble text

/-- What is kept once `c` is read. The character kept last stands first in `kept`, and a slash is
left out where that is a slash already. -/
def keep (kept : List Char) (c : Char) : List Char :=
  if c = '/' ∧ kept.head? = some '/' then kept else c :: kept

/-- The characters that are kept when all are read one after another. -/
def scan (text : List Char) : List Char :=
  (text.foldl keep []).reverse

/-- The characters with every run of slashes cut down to one slash. Only a text with two slashes in
a row is scanned for that. -/
def collapse (text : List Char) : List Char :=
  if hasDouble text then scan text else text

/-- The characters after the leading slashes. -/
def trimLeading (text : List Char) : List Char :=
  text.dropWhile (· = '/')

/-- The characters without leading and trailing slashes. -/
def trim (text : List Char) : List Char :=
  (trimLeading (trimLeading text).reverse).reverse

/-! ## What is kept -/

theorem keep_nil (c : Char) : keep [] c = [c] :=
  if_neg fun h => nomatch h.2

/-- Only a slash that follows a slash is left out. -/
theorem keep_cons (kept : List Char) (c d : Char) :
    keep (c :: kept) d = if c = '/' ∧ d = '/' then c :: kept else d :: c :: kept := by
  simp [keep, and_comm]

/-- Reading on looks at the last character kept and at none before it. -/
theorem foldl_keep_cons (c : Char) (kept text : List Char) :
    text.foldl keep (c :: kept) = text.foldl keep [c] ++ kept := by
  -- what is kept only grows in front, so its last character changes from step to step
  induction text generalizing c kept with
  | nil => rfl
  | cons d text ih =>
    rw [List.foldl_cons, List.foldl_cons, keep_cons, keep_cons]
    split
    · exact ih c kept
    · rw [ih d (c :: kept), ih d [c], List.append_assoc, List.singleton_append]

/-- Read from the end, a slash is left out if another one follows it. -/
theorem scan_cons (c : Char) (text : List Char) :
    scan (c :: text) =
      if c = '/' ∧ text.head? = some '/' then scan text else c :: scan text := by
  cases text with
  | nil => simp [scan, keep_nil]
  | cons d text =>
    have hfirst : scan (d :: text) = (text.foldl keep [d]).reverse := by
      rw [scan, List.foldl_cons, keep_nil]
    rw [hfirst, scan, List.foldl_cons, List.foldl_cons, keep_nil, keep_cons]
    simp only [List.head?_cons, Option.some.injEq]
    split
    · rename_i h
      rw [h.1, h.2]
    · rw [foldl_keep_cons, List.reverse_append, List.reverse_singleton, List.singleton_append]

/-- A scanned text begins as it did before. -/
theorem head?_scan (text : List Char) : (scan text).head? = text.head? := by
  induction text with
  | nil => rfl
  | cons c text ih =>
    rw [scan_cons]
    split
    · rename_i h
      rw [ih, h.2, List.head?_cons, h.1]
    · rfl

/-- The scan keeps a text without two slashes in a row. -/
theorem scan_eq_self {text : List Char} (h : hasDouble text = false) : scan text = text := by
  induction text with
  | nil => rfl
  | cons c text ih =>
    simp only [hasDouble, Bool.or_eq_false_iff, Bool.and_eq_false_iff, beq_eq_false_iff_ne] at h
    rw [scan_cons, if_neg fun hboth => h.1.elim (· hboth.1) (· hboth.2), ih h.2]

/-- The texts that are not scanned would have been kept as they are. -/
theorem collapse_eq_scan (text : List Char) : collapse text = scan text := by
  unfold collapse
  split
  · rfl
  · rename_i h
    exact (scan_eq_self (Bool.eq_false_iff.2 h)).symm

theorem head?_collapse (text : List Char) : (collapse text).head? = text.head? := by
  rw [collapse_eq_scan, head?_scan]

/-- Read from the end, a slash is left out if another one follows in what is collapsed. -/
theorem collapse_cons (c : Char) (text : List Char) :
    collapse (c :: text) =
      if c = '/' ∧ (collapse text).head? = some '/' then collapse text else c :: collapse text := by
  rw [head?_collapse, collapse_eq_scan, collapse_eq_scan, scan_cons]

theorem collapse_cons_of_ne {c : Char} (h : c ≠ '/') (text : List Char) :
    collapse (c :: text) = c :: collapse text := by
  simp [collapse_cons, h]

@[simp] theorem trimLeading_slash (text : List Char) :
    trimLeading ('/' :: text) = trimLeading text := by
  simp [trimLeading]

end Slashes

/-- Collapses every run of slashes of `path` into one slash. -/
def collapseSlashes (path : String) : String :=
  .ofList (Slashes.collapse path.toList)

@[simp] theorem toList_collapseSlashes (path : String) :
    (collapseSlashes path).toList = Slashes.collapse path.toList := by
  simp [collapseSlashes]

end BlogRouting
