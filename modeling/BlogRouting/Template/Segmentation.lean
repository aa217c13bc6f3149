import BlogRouting.Template.Basic

/-!
# Segmentation

A format is cut from left to right, from one percent sign to the next. The text between the two is
the name of a placeholder or else literal text. An unknown name leaves the sign behind it to begin
another token, and a sign without another one behind it is literal, too.
-/

namespace BlogRouting

namespace Segment

/-- The text in front of the first percent sign and the text behind it, if there is a sign. -/
def splitSign? (text : List Char) : Option (List Char × List Char) :=
  match text.dropWhile (· ≠ '%') with
  | [] => none
  | _ :: behind => some (text.takeWhile (· ≠ '%'), behind)

variable {text front behind : List Char}

/-- The first sign is found behind a text without one. -/
theorem splitSign?_append (h : '%' ∉ front) (behind : List Char) :
    splitSign? (front ++ '%' :: behind) = some (front, behind) := by
  have hfront : ∀ c ∈ front, decide (c ≠ '%') = true := fun c hc =>
    decide_eq_true fun he => h (he ▸ hc)
  rw [splitSign?, List.dropWhile_append_of_pos hfront, List.takeWhile_append_of_pos hfront,
    List.dropWhile_cons_of_neg (by simp), List.takeWhile_cons_of_neg (by simp), List.append_nil]

theorem splitSign?_eq_none (h : '%' ∉ text) : splitSign? text = none := by
  have htext : ∀ c ∈ text, decide (c ≠ '%') = true := fun c hc =>
    decide_eq_true fun he => h (he ▸ hc)
  have hdrop := @List.dropWhile_append_of_pos _ _ text [] htext
  rw [List.append_nil, List.dropWhile_nil] at hdrop
  rw [splitSign?, hdrop]

/-- A text is split at its first sign. -/
theorem splitSign?_eq_some_iff :
    splitSign? text = some (front, behind) ↔ text = front ++ '%' :: behind ∧ '%' ∉ front := by
  refine ⟨fun h => ?_, fun h => h.1 ▸ splitSign?_append h.2 behind⟩
  by_cases hsign : '%' ∈ text
  · obtain ⟨before, after, rfl, hbefore⟩ := List.eq_append_cons_of_mem hsign
    rw [splitSign?_append hbefore] at h
    obtain ⟨rfl, rfl⟩ := Prod.mk.inj (Option.some.inj h)
    exact ⟨rfl, hbefore⟩
  · rw [splitSign?_eq_none hsign] at h
    exact absurd h (by simp)

/-- A text is not split exactly if it has no sign. -/
theorem splitSign?_eq_none_iff : splitSign? text = none ↔ '%' ∉ text := by
  refine ⟨fun h hsign => ?_, splitSign?_eq_none⟩
  obtain ⟨before, after, rfl, hbefore⟩ := List.eq_append_cons_of_mem hsign
  rw [splitSign?_append hbefore] at h
  exact absurd h (by simp)

/-- Puts a literal of the characters of `reversed`, last first, in front, unless it is empty. -/
def pushLiteral (reversed : List Char) (done : List Segment) : List Segment :=
  if reversed = [] then done else literal (.ofList reversed.reverse) :: done

/-- Cuts `text`. The segments before it are in `done`, the last one first, and the literal before
it is in `reversed`, the last character first. -/
def cutOnto (done : List Segment) (reversed text : List Char) : List Segment :=
  match _open : splitSign? text with
  | none => pushLiteral (text.reverse ++ reversed) done
  | some (front, behind) =>
    let reversed := front.reverse ++ reversed
    match _close : splitSign? behind with
    | none => pushLiteral (('%' :: behind).reverse ++ reversed) done
    | some (name, after) =>
      match Placeholder.ofName? (.ofList name) with
      | some p => cutOnto (placeholder p :: pushLiteral reversed done) [] after
      | none => cutOnto done (('%' :: name).reverse ++ reversed) ('%' :: after)
  termination_by text.length
  decreasing_by
    all_goals
      rw [(splitSign?_eq_some_iff.1 _open).1, (splitSign?_eq_some_iff.1 _close).1]
      simp only [List.length_append, List.length_cons]
      omega

/-- The segments of `text`. -/
def cut (text : List Char) : List Segment :=
  (cutOnto [] [] text).reverse

end Segment

end BlogRouting
