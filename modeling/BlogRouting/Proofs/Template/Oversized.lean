import Mathlib.Algebra.Order.BigOperators.Group.List
import Mathlib.Data.List.Nodup
import Mathlib.Data.String.Basic
import BlogRouting.Proofs.Template.Accepted

/-!
# Oversized templates

A format that makes a template need not make a permalink: the template may be too large to match
paths against. Nothing else stands between the two (`Permalink.compile_eq_error_iff`), and a long
text in front of the title is enough (`Template.compile_append_title`, `Template.le_matcherBytes`).
-/

namespace BlogRouting

/-- A template makes a permalink unless it is too large. -/
theorem Permalink.compile_eq_error_iff {format : String} {t : Template}
    (h : Template.compile format = .ok t) {e : CompileError} :
    compile format = .error e ↔ e = .tooLarge ∧ Template.matcherLimit < t.matcherBytes := by
  have hcompile : compile format =
      if t.matcherBytes ≤ Template.matcherLimit then .ok ⟨t⟩ else .error .tooLarge := by
    simp [compile, h, bind, Except.bind]
  rw [hcompile]
  split_ifs with hsize
  · simp [hsize]
  · simpa [eq_comm] using fun _ => hsize

/-! ## A text in front of the title -/

namespace Segment

/-- A text without percent signs in front of the title is one literal. -/
theorem cut_append_title {plain : List Char} (hne : plain ≠ []) (hsign : '%' ∉ plain) :
    cut (plain ++ "%title%".toList) = [.literal (.ofList plain), .placeholder .title] := by
  -- the literal ends where the token of the title begins, and there is nothing behind it
  have hcuts := Cuts.token (p := .title) (isTokenFree_of_not_mem hsign _)
    (Cuts.last (isTokenFree_nil []))
  have hcut := hcuts.eq_cut
  rw [literalOf, if_neg hne] at hcut
  exact hcut.symm

end Segment

namespace Template

/-- Such a format is accepted, however long the text is. -/
theorem compile_append_title {plain : String} (hne : plain ≠ "") (hsign : '%' ∉ plain.toList)
    (hslash : '/' ∉ plain.toList) :
    compile (plain ++ "%title%") =
      .ok ⟨plain ++ "%title%", [.literal plain, .placeholder .title]⟩ := by
  -- without slashes the format is its own normal form
  have hnormal : normalForm (plain ++ "%title%") = plain.toList ++ "%title%".toList := by
    have hnone : '/' ∉ (plain ++ "%title%").toList := by simpa using hslash
    rw [normalForm, Slashes.collapse_eq_self (Slashes.areSingle_of_not_mem hnone),
      Slashes.trimLeading_eq_self fun hhead => hnone (List.mem_of_head? hhead),
      String.toList_append]
  refine compile_eq_ok_iff.2 ⟨rfl, ?_, ?_, ?_, ?_⟩
  · rw [hnormal, Segment.cut_append_title (by simpa using hne) hsign, String.ofList_toList]
  · exact List.nodup_singleton _
  · exact List.mem_singleton_self _
  · rfl

/-- Every character of a literal takes a byte at least, and every byte a state of the matcher. -/
theorem le_matcherBytes {t : Template} {text : String} (h : .literal text ∈ t.segments) :
    32 * text.length ≤ t.matcherBytes := by
  have hlength : text.length ≤ text.utf8ByteSize := by
    rw [← String.length_toList, ← String.utf8Len_toList]
    induction text.toList with
    | nil => exact Nat.le_refl _
    | cons c rest ih => exact Nat.add_le_add ih c.utf8Size_pos
  have hmem : 32 * text.utf8ByteSize ∈ t.segments.map Segment.matcherBytes :=
    List.mem_map_of_mem h
  calc 32 * text.length ≤ 32 * text.utf8ByteSize := Nat.mul_le_mul_left 32 hlength
    _ ≤ t.matcherBytes := Nat.le_add_left_of_le (List.le_sum_of_mem hmem)

end Template

end BlogRouting
