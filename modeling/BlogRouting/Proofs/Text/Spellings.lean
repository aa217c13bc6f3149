import BlogRouting.Proofs.Text.Escapes
import BlogRouting.Proofs.Text.SingleSlashes

/-!
# Spellings of a text

A path can be written in many ways. Every character but the slash may be written as the escapes of
its bytes, with digits of either case, and those that would end the path or begin an escape must be
(`SpellsChar`). All of them read as the same text (`Spells.readsAs`), and the slashes of the text
are the slashes of each spelling (`Spells.areSingle`), so that it makes no difference to read the
escapes last.
-/

namespace BlogRouting.Percent

/-! ## Escapes -/

/-- No digit of an escape ends a path or a segment. -/
theorem IsDigitOf.not_mem {n : Nat} {c : Char} (h : IsDigitOf n c) (hn : n < 16) :
    c ∉ ['/', '?', '#'] := by
  have hvalue := h.hexValue?_eq hn
  intro hc
  have hnone : hexValue? c = none := by
    simp only [List.mem_cons, List.not_mem_nil, or_false] at hc
    rcases hc with rfl | rfl | rfl <;> decide
  exact absurd (hnone.symm.trans hvalue) (by simp)

/-- Nothing in the escapes of bytes ends a path or a segment. -/
theorem SpellsBytes.not_mem {bytes : List UInt8} {written : List Char}
    (h : SpellsBytes bytes written) {c : Char} (hc : c ∈ written) : c ∉ ['/', '?', '#'] := by
  induction h with
  | nil => exact absurd hc (by simp)
  | @cons b bytes x y written high low tail ih =>
    have hb := b.toNat_lt
    rcases List.mem_cons.1 hc with rfl | hc
    · decide
    · rcases List.mem_cons.1 hc with rfl | hc
      · exact high.not_mem (show b.toNat / 16 < 16 by omega)
      · rcases List.mem_cons.1 hc with rfl | hc
        · exact low.not_mem (show b.toNat % 16 < 16 by omega)
        · exact ih hc

/-! ## Characters and texts -/

/-- A character stands for itself unless it begins an escape or ends the path, and every character
but the slash can be escaped. -/
inductive SpellsChar (c : Char) : List Char → Prop where
  | plain (h : c ∉ ['%', '?', '#']) : SpellsChar c [c]
  | escaped {written : List Char} (hslash : c ≠ '/')
      (h : SpellsBytes (String.utf8EncodeChar c) written) : SpellsChar c written

/-- A spelling of each character in turn. -/
inductive Spells : List Char → List Char → Prop where
  | nil : Spells [] []
  | cons {c : Char} {text piece written : List Char} (head : SpellsChar c piece)
      (tail : Spells text written) : Spells (c :: text) (piece ++ written)

/-- However a character is spelled, it is read as itself. -/
theorem SpellsChar.readsAs {c : Char} {written : List Char} (h : SpellsChar c written) :
    ReadsAs written [c] := by
  cases h with
  | plain h => exact readsAs_singleton fun hc => h (by simp [hc])
  | escaped _ h => exact h.readsAs

/-- However a text is spelled, it is read as itself. -/
theorem Spells.readsAs {text written : List Char} (h : Spells text written) :
    ReadsAs written text := by
  induction h with
  | nil => exact readsAs_nil
  | cons head tail ih => exact head.readsAs.append ih

/-! ## What a spelling keeps -/

theorem SpellsChar.ne_nil {c : Char} {written : List Char} (h : SpellsChar c written) :
    written ≠ [] := by
  cases h with
  | plain _ => simp
  | escaped _ h =>
    intro hnil
    subst hnil
    generalize hbytes : String.utf8EncodeChar c = bytes at h
    cases h
    exact String.utf8EncodeChar_ne_nil hbytes

/-- A slash in a spelling is one that stands for itself. -/
theorem SpellsChar.eq_of_slash_mem {c : Char} {written : List Char} (h : SpellsChar c written)
    (hslash : '/' ∈ written) : c = '/' ∧ written = ['/'] := by
  cases h with
  | plain _ =>
    have hc : c = '/' := (List.mem_singleton.1 hslash).symm
    exact ⟨hc, by rw [hc]⟩
  | escaped _ h => exact absurd (by simp) (h.not_mem hslash)

/-- In no spelling a query or a fragment begins. -/
theorem Spells.not_mem {text written : List Char} (h : Spells text written) :
    '?' ∉ written ∧ '#' ∉ written := by
  induction h with
  | nil => simp
  | @cons c text piece written head tail ih =>
    have hpiece : '?' ∉ piece ∧ '#' ∉ piece := by
      cases head with
      | plain h => simp_all [eq_comm]
      | escaped _ h =>
        exact ⟨fun hc => h.not_mem hc (by simp), fun hc => h.not_mem hc (by simp)⟩
    simp [hpiece, ih]

/-- A spelling begins with a slash only if the text does. -/
theorem Spells.head?_ne {text written : List Char} (h : Spells text written)
    (hhead : text.head? ≠ some '/') : written.head? ≠ some '/' := by
  cases h with
  | nil => exact hhead
  | @cons c text piece written head tail =>
    rw [List.head?_append_of_ne_nil _ head.ne_nil]
    intro hslash
    have hc := (head.eq_of_slash_mem (List.mem_of_head? hslash)).1
    exact hhead (by rw [hc]; rfl)

/-- Spelling puts no slashes together. -/
theorem Spells.areSingle {text written : List Char} (h : Spells text written)
    (hsingle : Slashes.AreSingle text) : Slashes.AreSingle written := by
  induction h with
  | nil => exact hsingle
  | @cons c text piece written head tail ih =>
    obtain ⟨hc, htext⟩ := Slashes.areSingle_cons.1 hsingle
    by_cases hslash : '/' ∈ piece
    · -- a slash is followed by no slash, and neither is its spelling
      obtain ⟨rfl, rfl⟩ := head.eq_of_slash_mem hslash
      have hnext := tail.head?_ne fun hnext => hc ⟨rfl, hnext⟩
      exact Slashes.areSingle_cons.2 ⟨fun hboth => hnext hboth.2, ih htext⟩
    · rw [Slashes.areSingle_append]
      exact ⟨Slashes.areSingle_of_not_mem hslash, ih htext,
        fun hends => hslash (List.mem_of_getLast? hends.1)⟩

end BlogRouting.Percent
