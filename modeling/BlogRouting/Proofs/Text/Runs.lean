import BlogRouting.Proofs.Text.SingleSlashes
import Mathlib.Data.List.SplitBy

/-!
# Runs of slashes

A text falls into the longest pieces that are slashes throughout or have no slash in them: its
`runs`, and `areRuns_iff` says that there are no others. Collapsing is a scan that never sees a run
as a whole, only the character that it kept last. `AreRuns.collapse_eq` says what comes of it: one
slash for a run of slashes, and every other run as it is.

Where two texts meet, a run may begin in the one and end in the other, so they cannot be collapsed
apart and put together. They can if the outcome is collapsed once more, since any text is its
collapsed form with some slashes repeated (`repeats_collapse`).
-/

namespace BlogRouting.Slashes

variable {text piece rest : List Char} {pieces : List (List Char)}

/-! ## The runs of a text -/

/-- Whether both characters are slashes or none is. -/
def areAlike (a b : Char) : Bool :=
  (a == '/') == (b == '/')

/-- The longest pieces of a text that are slashes throughout or have none, in order. -/
def runs (text : List Char) : List (List Char) :=
  text.splitBy areAlike

/-- All characters are slashes or none is. -/
def IsUniform (piece : List Char) : Prop :=
  (∀ c ∈ piece, c = '/') ∨ ∀ c ∈ piece, c ≠ '/'

/-- The pieces make up the text, and none of them could be longer. -/
structure AreRuns (text : List Char) (pieces : List (List Char)) : Prop where
  flatten_eq : pieces.flatten = text
  ne_nil : [] ∉ pieces
  uniform : ∀ piece ∈ pieces, IsUniform piece
  alternating : pieces.IsChain fun piece next => '/' ∈ piece ↔ '/' ∉ next

/-- Any character of a piece tells which of the two it is. -/
theorem IsUniform.mem_iff (h : IsUniform piece) {c : Char} (hc : c ∈ piece) :
    '/' ∈ piece ↔ c = '/' := by
  refine ⟨fun hslash => ?_, fun heq => heq ▸ hc⟩
  rcases h with hall | hnone
  · exact hall c hc
  · exact absurd rfl (hnone '/' hslash)

/-- Neighbours that are alike all the way make a piece of one kind. -/
theorem isChain_areAlike_iff : (piece.IsChain fun a b => areAlike a b) ↔ IsUniform piece := by
  induction piece with
  | nil => simp [IsUniform]
  | cons c piece ih =>
    cases piece with
    | nil => simp [IsUniform, em]
    | cons d piece =>
      rw [List.isChain_cons_cons, ih]
      by_cases hc : c = '/' <;> by_cases hd : d = '/' <;> simp [IsUniform, areAlike, hc, hd]

/-- The characters on either side of a border are unlike if and only if the pieces are. -/
theorem areAlike_border_iff {next : List Char} (hpiece : IsUniform piece) (hnext : IsUniform next)
    (hne : piece ≠ []) (hnextne : next ≠ []) :
    (∃ ha hb, areAlike (piece.getLast ha) (next.head hb) = false) ↔
      ('/' ∈ piece ↔ '/' ∉ next) := by
  rw [hpiece.mem_iff (List.getLast_mem hne), hnext.mem_iff (List.head_mem hnextne)]
  by_cases hlast : piece.getLast hne = '/' <;> by_cases hhead : next.head hnextne = '/' <;>
    simp [areAlike, hne, hnextne, hlast, hhead]

/-- A text has runs in one way only, and `runs` finds them. -/
theorem areRuns_iff : AreRuns text pieces ↔ pieces = runs text := by
  have hborders (hne : [] ∉ pieces) (huniform : ∀ piece ∈ pieces, IsUniform piece) :
      (pieces.IsChain fun a b => ∃ ha hb, areAlike (a.getLast ha) (b.head hb) = false) ↔
        pieces.IsChain fun piece next => '/' ∈ piece ↔ '/' ∉ next :=
    List.IsChain.iff_of_mem_imp fun a b ha hb =>
      areAlike_border_iff (huniform a ha) (huniform b hb) (ne_of_mem_of_not_mem ha hne)
        (ne_of_mem_of_not_mem hb hne)
  rw [eq_comm, runs, List.splitBy_eq_iff]
  simp only [isChain_areAlike_iff]
  refine ⟨fun h => ?_, fun ⟨htext, hne, huniform, hchain⟩ => ?_⟩
  · exact ⟨h.flatten_eq.symm, h.ne_nil, h.uniform, (hborders h.ne_nil h.uniform).2 h.alternating⟩
  · exact ⟨htext.symm, hne, huniform, (hborders hne huniform).1 hchain⟩

example : runs ['a', '/', '/', 'b', '/'] = [['a'], ['/', '/'], ['b'], ['/']] := by decide

/-! ## Collapsing run by run -/

/-- One slash for a run of slashes, any other run as it is. -/
def single (piece : List Char) : List Char :=
  if '/' ∈ piece then ['/'] else piece

/-- A piece of one kind is collapsed apart from the rest, unless a slash stands at both sides of the
border. -/
theorem collapse_append_of_isUniform (hpiece : IsUniform piece) (hne : piece ≠ [])
    (hborder : '/' ∈ piece → rest.head? ≠ some '/') :
    collapse (piece ++ rest) = single piece ++ collapse rest := by
  unfold single
  rcases hpiece with hall | hnone
  · obtain ⟨c, hc⟩ := List.exists_mem_of_ne_nil piece hne
    have hslash : '/' ∈ piece := hall c hc ▸ hc
    -- a run of slashes is one slash that is repeated
    obtain ⟨n, hn⟩ := Nat.exists_eq_succ_of_ne_zero (mt List.length_eq_zero_iff.1 hne)
    have hrepeats : Repeats ('/' :: rest) (piece ++ rest) := by
      rw [List.eq_replicate_of_mem hall, hn]
      exact (repeats_replicate n).append (.refl rest)
    rw [if_pos hslash, hrepeats.collapse_eq, collapse_slash_cons, trimLeading_collapse,
      trimLeading_eq_self (hborder hslash), List.singleton_append]
  · have hslash : '/' ∉ piece := fun hmem => hnone '/' hmem rfl
    rw [if_neg hslash, collapse_append (areSingle_of_not_mem hslash)]
    exact fun hlast => hslash (List.mem_of_getLast? hlast)

/-- Collapsing leaves one slash of a run of slashes and all of any other run. -/
theorem AreRuns.collapse_eq (h : AreRuns text pieces) : collapse text = pieces.flatMap single := by
  obtain ⟨rfl, hne, huniform, hchain⟩ := h
  induction pieces with
  | nil => rfl
  | cons piece pieces ih =>
    rw [List.mem_cons, not_or] at hne
    rw [List.isChain_cons] at hchain
    have hrest : collapse pieces.flatten = pieces.flatMap single :=
      ih hne.2 (fun other hother => huniform other (List.mem_cons_of_mem _ hother)) hchain.2
    rw [List.flatten_cons, List.flatMap_cons, ← hrest]
    refine collapse_append_of_isUniform (huniform piece List.mem_cons_self) (Ne.symm hne.1) ?_
    -- behind a run of slashes the next one has none, so it does not begin with one
    intro hslash hhead
    cases pieces with
    | nil => simp at hhead
    | cons next pieces =>
      have hnext : '/' ∉ next := (hchain.1 next (by simp)).1 hslash
      have hnextne : next ≠ [] := fun hnil => hne.2 (by simp [hnil])
      rw [List.flatten_cons, List.head?_append_of_ne_nil _ hnextne] at hhead
      exact hnext (List.mem_of_head? hhead)

/-! ## Which texts are scanned -/

theorem hasDouble_eq_false_iff : hasDouble text = false ↔ AreSingle text := by
  induction text with
  | nil => simp [hasDouble, AreSingle]
  | cons c text ih => simp [hasDouble, areSingle_cons, ih]

theorem hasDouble_iff : hasDouble text = true ↔ ['/', '/'] <:+: text := by
  rw [← not_iff_not, Bool.not_eq_true, hasDouble_eq_false_iff, areSingle_iff]

/-- The scan keeps everything exactly where the check finds nothing. -/
theorem scan_eq_self_iff : scan text = text ↔ hasDouble text = false := by
  refine ⟨fun h => ?_, scan_eq_self⟩
  rw [hasDouble_eq_false_iff, ← h, ← collapse_eq_scan]
  exact areSingle_collapse text

/-! ## Collapsing part after part -/

/-- Parts may be collapsed before they are put together. -/
theorem collapse_append_collapse (a b : List Char) :
    collapse (collapse a ++ collapse b) = collapse (a ++ b) :=
  ((repeats_collapse a).append (repeats_collapse b)).collapse_eq.symm

theorem collapse_collapse (text : List Char) : collapse (collapse text) = collapse text :=
  (repeats_collapse text).collapse_eq.symm

end BlogRouting.Slashes

namespace BlogRouting

open Slashes

/-- Collapsing writes one slash for each run of slashes and keeps everything else. It does what the
scan does, also where the scan is left out: in texts without two slashes in a row, which are just
those that the scan would not change. What it gives has none, so it is collapsed already, and a text
can be collapsed part by part if the outcome is collapsed once more. -/
theorem collapseSlashes_eq_runs (path behind : String) :
    (∀ pieces, AreRuns path.toList pieces ↔ pieces = runs path.toList) ∧
    (collapseSlashes path).toList = (runs path.toList).flatMap single ∧
    (hasDouble path.toList = true ↔ ['/', '/'] <:+: path.toList) ∧
    (scan path.toList = path.toList ↔ hasDouble path.toList = false) ∧
    (collapseSlashes path).toList = scan path.toList ∧
    ¬ ['/', '/'] <:+: (collapseSlashes path).toList ∧
    collapseSlashes (collapseSlashes path) = collapseSlashes path ∧
    collapseSlashes (path ++ behind)
      = collapseSlashes (collapseSlashes path ++ collapseSlashes behind) := by
  refine ⟨fun pieces => areRuns_iff, ?_, hasDouble_iff, scan_eq_self_iff, ?_, ?_, ?_, ?_⟩
  · rw [toList_collapseSlashes]
    exact (areRuns_iff.2 rfl).collapse_eq
  · rw [toList_collapseSlashes, collapse_eq_scan]
  · rw [toList_collapseSlashes, ← areSingle_iff]
    exact areSingle_collapse _
  · rw [String.ext_iff, toList_collapseSlashes, toList_collapseSlashes, collapse_collapse]
  · rw [String.ext_iff, toList_collapseSlashes, toList_collapseSlashes, String.toList_append,
      String.toList_append, toList_collapseSlashes, toList_collapseSlashes,
      collapse_append_collapse]

end BlogRouting
