import BlogRouting.Template.Basic
import BlogRouting.Text.Leading

/-!
# Capturing

A path fits a list of segments if it can be cut into one piece for each: the text of a literal,
digits for a part of the date, and for the title characters other than a slash, also other than a
dot if the literal after the title begins with one. No piece is empty. Of several ways to cut, the
one preferred at the first placeholder where they differ counts: the longer piece for a part of
the date, the shorter one for the title.

`capture?` says this by recursion on the segments. It can try every way to cut, so paths are
matched with `captures`, which finds what `capture?` says for every ending of the path at once, in
one pass for each segment (`captures_eq_map`).
-/

namespace BlogRouting

/-- The pieces of the placeholders, in the order of the template. -/
abbrev Bindings := List (Placeholder × List Char)

namespace Segment

/-- Whether the first of `segments` is a literal that begins with a dot. -/
def startsWithDot : List Segment → Bool
  | literal text :: _ => text.toList.head? = some '.'
  | _ => false

/-- Whether `c` may stand in the piece of `p` in front of the segments `next`. -/
def admits (p : Placeholder) (next : List Segment) (c : Char) : Bool :=
  match p with
  | .title => c ≠ '/' && !(startsWithDot next && c = '.')
  | _ => c.isDigit

/-- Puts `c` in front of the first piece. -/
def lengthen (c : Char) : Bindings → Bindings
  | (p, piece) :: others => (p, c :: piece) :: others
  | [] => []

/-- What a text that begins with `c` captures for `p`, given what the text after `c` captures for
the segments after `p` (`after`) and for `p` with a longer piece (`longer`). -/
def choose (p : Placeholder) (c : Char) (after longer : Option Bindings) : Option Bindings :=
  let short := after.map ((p, [c]) :: ·)
  let long := longer.map (lengthen c)
  if p = .title then short.or long else long.or short

/-- What a text captures for `p` and for the segments `next`, for which `rest` answers. -/
def captureAt (p : Placeholder) (next : List Segment) (rest : List Char → Option Bindings) :
    List Char → Option Bindings
  | [] => none
  | c :: text =>
    if admits p next c then choose p c (rest text) (captureAt p next rest text) else none

/-- What `text` captures for the segments, if it fits them. -/
def capture? : List Segment → List Char → Option Bindings
  | [], text => if text = [] then some [] else none
  | literal fixed :: next, text => (fixed.toList.isPrefixOf? text).bind (capture? next)
  | placeholder p :: next, text => captureAt p next (capture? next) text

/-- The endings of a text, from the whole to the empty one. -/
def endings (text : List Char) : List (List Char) :=
  text.foldr (fun c shorter => (c :: shorter.headD []) :: shorter) [[]]

/-- What the endings of `text` capture for `p` and the segments `next`, for which they capture
what `rest` lists. -/
def capturesAt (p : Placeholder) (next : List Segment) (rest : List (Option Bindings))
    (text : List Char) : List (Option Bindings) :=
  (text.zip rest.tail).foldr
    (fun (c, after) shorter =>
      (if admits p next c then choose p c after (shorter.headD none) else none) :: shorter)
    [none]

/-- What the endings of `text` capture for a literal and the segments after it, for which they
capture what `rest` lists. -/
def capturesAfter (fixed : List Char) (rest : List (Option Bindings)) (text : List Char) :
    List (Option Bindings) :=
  ((endings text).zip (rest.drop fixed.length ++ List.replicate fixed.length none)).map
    fun (ending, after) => after.filter fun _ => fixed.isPrefixOf ending

/-- What the endings of `text` capture for the segments. -/
def captures (text : List Char) : List Segment → List (Option Bindings)
  | [] => (endings text).map fun ending => if ending = [] then some [] else none
  | literal fixed :: next => capturesAfter fixed.toList (captures text next) text
  | placeholder p :: next => capturesAt p next (captures text next) text

/-! ### Both ways to capture agree -/

@[simp] theorem endings_nil : endings [] = [[]] := rfl

theorem head_endings (text : List Char) : (endings text).headD [] = text := by
  induction text with
  | nil => rfl
  | cons c text ih => simp only [endings, List.foldr_cons, List.headD_cons] at *; rw [ih]

@[simp] theorem endings_cons (c : Char) (text : List Char) :
    endings (c :: text) = (c :: text) :: endings text := by
  have h := head_endings text
  simp only [endings, List.foldr_cons] at *
  rw [h]

/-- The first ending is the whole text, the others are shorter. -/
theorem endings_eq_cons (text : List Char) : ∃ shorter, endings text = text :: shorter := by
  cases text with
  | nil => exact ⟨[], rfl⟩
  | cons c text => exact ⟨_, endings_cons c text⟩

theorem length_endings (text : List Char) : (endings text).length = text.length + 1 := by
  induction text with
  | nil => rfl
  | cons c text ih => simp [ih]

/-- The ending of each place is what is left without that many characters. -/
theorem getElem?_endings (text : List Char) (i : Nat) :
    (endings text)[i]? = if i ≤ text.length then some (text.drop i) else none := by
  induction text generalizing i with
  | nil => cases i <;> simp
  | cons c text ih => cases i <;> simp [ih]

/-- One pass for a placeholder finds what every ending captures for it. -/
theorem capturesAt_map (p : Placeholder) (next : List Segment)
    (rest : List Char → Option Bindings) (text : List Char) :
    capturesAt p next ((endings text).map rest) text
      = (endings text).map (captureAt p next rest) := by
  induction text with
  | nil => rfl
  | cons c text ih =>
    obtain ⟨shorter, h⟩ := endings_eq_cons text
    simp only [capturesAt, endings_cons, h, List.map_cons, List.tail_cons, List.zip_cons_cons,
      List.foldr_cons] at ih ⊢
    rw [ih]
    simp [captureAt]

/-- One pass for a literal finds what every ending captures behind it. -/
theorem capturesAfter_map (fixed : List Char) (rest : List Char → Option Bindings)
    (text : List Char) :
    capturesAfter fixed ((endings text).map rest) text
      = (endings text).map fun ending => (fixed.isPrefixOf? ending).bind rest := by
  apply List.ext_getElem?
  intro i
  simp only [capturesAfter, List.zip, List.getElem?_map, List.getElem?_zipWith,
    getElem?_endings]
  by_cases hi : i ≤ text.length
  · simp only [hi, if_true, Option.map_some]
    have hAfter : ((List.drop fixed.length ((endings text).map rest)
          ++ List.replicate fixed.length none)[i]?)
        = some (if fixed.length + i ≤ text.length then rest (text.drop (fixed.length + i))
            else none) := by
      simp only [List.getElem?_append, List.length_drop, List.length_map, length_endings,
        List.getElem?_drop, List.getElem?_map, getElem?_endings, List.getElem?_replicate]
      split
      · rw [if_pos (by omega), if_pos (by omega)]
        rfl
      · rw [if_pos (by omega), if_neg (by omega)]
    rw [hAfter]
    simp only [Option.map_some, Option.some.injEq, isPrefixOf_eq_isSome]
    cases h : fixed.isPrefixOf? (text.drop i) with
    | none => simp
    | some r =>
      have hr := isPrefixOf?_eq_some_iff.1 h
      have hlen := congrArg List.length hr
      simp only [List.length_drop, List.length_append] at hlen
      have hDrop : text.drop (fixed.length + i) = r := by
        rw [Nat.add_comm, ← List.drop_drop, hr, List.drop_left]
      rw [if_pos (by omega), hDrop]
      cases h : rest r <;> simp [h]
  · simp [hi]

/-- All passes together find what every ending captures for the segments. -/
theorem captures_eq_map (text : List Char) (segments : List Segment) :
    captures text segments = (endings text).map (capture? segments) := by
  induction segments with
  | nil => rfl
  | cons segment next ih =>
    cases segment with
    | literal fixed => simp only [captures, ih, capturesAfter_map]; rfl
    | placeholder p => simp only [captures, ih, capturesAt_map]; rfl

/-- What `text` captures for the segments, by way of all its endings. -/
theorem head_captures (text : List Char) (segments : List Segment) :
    (captures text segments).headD none = capture? segments text := by
  obtain ⟨shorter, h⟩ := endings_eq_cons text
  simp [captures_eq_map, h]

end Segment

end BlogRouting
