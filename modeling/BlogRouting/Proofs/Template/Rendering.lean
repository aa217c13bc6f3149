import BlogRouting.Content.Basic
import BlogRouting.Proofs.Template.Matching
import Mathlib.Data.List.Nodup

/-!
# Paths that say what they were made from

A template is filled with values, and matching the path gives the values back, if the digits of the
dates have borders on the side of the title: before the title to the right, after it to the left.

* **`Segment.eq_or_preferred_of_filled`**: any other way to cut the path is less preferred. In front
  of the title the pieces are compared from left to right. Behind it, a way to cut that lags behind
  never catches up (`not_lagging`), which leaves no shorter title.
* **`Template.capture?_eq_none_of_isFeedOf`**: without the ending of a feed the path does not fit
  any more, since a dot is missing.
-/

namespace BlogRouting

/-- The text begins with a character that is no digit. -/
def StartsOffDigits (text : List Char) : Prop :=
  ∃ c, text.head? = some c ∧ c.isDigit = false

/-- The text ends with a character that is no digit. -/
def EndsOffDigits (text : List Char) : Prop :=
  ∃ c, text.getLast? = some c ∧ c.isDigit = false

/-! ## Digits and their borders -/

/-- Digits at the front of a text end where something else begins. -/
theorem length_le_of_startsOffDigits {q v rest after : List Char} (hq : ∀ c ∈ q, c.isDigit)
    (hrest : StartsOffDigits rest) (h : q ++ after = v ++ rest) : q.length ≤ v.length := by
  by_contra hlt
  obtain ⟨c, hc, hdigit⟩ := hrest
  -- a longer piece would reach the character that is no digit
  obtain ⟨more, rfl⟩ : ∃ more, q = v ++ more := by
    rcases List.append_eq_append_iff.1 h with ⟨more, rfl, -⟩ | ⟨more, rfl, -⟩
    · simp at hlt
    · exact ⟨more, rfl⟩
  rw [List.append_assoc, List.append_cancel_left_eq] at h
  cases more with
  | nil => simp at hlt
  | cons d more =>
    rw [← h] at hc
    have hd : c = d := by simpa using hc.symm
    simp [hq c (by simp [hd])] at hdigit

/-- Digits at the front of a text that goes on after its last other character end before it. -/
theorem length_lt_of_endsOffDigits {d q rest after : List Char} (hq : ∀ c ∈ q, c.isDigit)
    (hd : EndsOffDigits d) (h : d ++ rest = q ++ after) : q.length < d.length := by
  by_contra hle
  obtain ⟨c, hc, hdigit⟩ := hd
  have hfront : d <+: q := by
    rw [List.prefix_iff_eq_take]
    have := congrArg (List.take d.length) h
    rwa [List.take_left, List.take_append_of_le_length (by omega)] at this
  have := hq c (hfront.subset (List.mem_of_getLast? hc))
  simp [this] at hdigit

/-- What comes in front does not matter to how a text ends. -/
theorem endsOffDigits_append {a b : List Char} (hb : b ≠ []) :
    EndsOffDigits (a ++ b) ↔ EndsOffDigits b := by
  rw [EndsOffDigits, List.getLast?_append_of_ne_nil a hb, EndsOffDigits]

theorem EndsOffDigits.ne_nil {text : List Char} (h : EndsOffDigits text) : text ≠ [] := by
  rintro rfl
  obtain ⟨c, hc, -⟩ := h
  exact absurd hc (by simp)

theorem not_endsOffDigits {text : List Char} (h : ∀ c ∈ text, c.isDigit) :
    ¬ EndsOffDigits text := by
  rintro ⟨c, hc, hdigit⟩
  simp [h c (List.mem_of_getLast? hc)] at hdigit

/-- The piece of a part of the date has only digits. -/
theorem Segment.HasPiece.isDigit {p : Placeholder} {next : List Segment} {piece : List Char}
    (h : Segment.HasPiece (.placeholder p) next piece) (hp : p ≠ .title) :
    ∀ c ∈ piece, c.isDigit := by
  cases h with
  | date _ _ hdigit => exact hdigit
  | title => exact absurd rfl hp

/-- What may stand for a placeholder in a path: digits for a part of the date, for the title a text
without slashes and dots. -/
def Placeholder.IsValue : Placeholder → String → Prop
  | .title, value => value ≠ "" ∧ '/' ∉ value.toList ∧ '.' ∉ value.toList
  | _, value => value ≠ "" ∧ ∀ c ∈ value.toList, c.isDigit

/-- A value that can stand in a path is a piece of its placeholder, whatever comes next. -/
theorem Placeholder.IsValue.hasPiece {p : Placeholder} {value : String} (h : p.IsValue value)
    (next : List Segment) : Segment.HasPiece (.placeholder p) next value.toList := by
  cases p with
  | title =>
    obtain ⟨hne, hslash, hdot⟩ := h
    exact .title (by simpa using hne) hslash fun _ _ _ => hdot
  | _ => exact .date (by decide) (by simpa using h.1) h.2

theorem Placeholder.IsValue.isDigit {p : Placeholder} {value : String} (h : p.IsValue value)
    (hp : p ≠ .title) : ∀ c ∈ value.toList, c.isDigit :=
  (h.hasPiece []).isDigit hp

/-- A value is not empty and has neither a slash nor a dot. -/
theorem Placeholder.IsValue.not_mem {p : Placeholder} {value : String} (h : p.IsValue value) :
    value ≠ "" ∧ '/' ∉ value.toList ∧ '.' ∉ value.toList := by
  cases p with
  | title => exact h
  | _ =>
    exact ⟨h.1, fun hc => absurd (h.2 _ hc) (by decide), fun hc => absurd (h.2 _ hc) (by decide)⟩

namespace Segment

variable {values : Placeholder → String}

/-- The pieces that are the values and the literals themselves. -/
def pieces (values : Placeholder → String) (segments : List Segment) : List (List Char) :=
  segments.map fun segment => (segment.fill values).toList

theorem flatten_pieces (values : Placeholder → String) (segments : List Segment) :
    (pieces values segments).flatten = filled values segments := by
  simp [pieces, filled, List.flatMap]

/-! ## Behind the title -/

/-- What stands in front of a part of the date ends with no digit. -/
def BordersLeft (values : Placeholder → String) (segments : List Segment) : Prop :=
  segments.IsChain fun prior segment =>
    (∃ p, segment = .placeholder p) → EndsOffDigits (prior.fill values).toList

theorem bordersLeft_cons {values : Placeholder → String} {prior segment : Segment}
    {segments : List Segment} :
    BordersLeft values (prior :: segment :: segments) ↔
      ((∃ p, segment = .placeholder p) → EndsOffDigits (prior.fill values).toList) ∧
        BordersLeft values (segment :: segments) :=
  List.isChain_cons_cons

/-- Pieces fit segments if the first fits the first and the others fit the others. -/
theorem fits_cons_iff {segment : Segment} {next : List Segment} {cut : List (List Char)} :
    Fits (segment :: next) cut ↔
      ∃ piece others, cut = piece :: others ∧ segment.HasPiece next piece ∧ Fits next others := by
  refine ⟨?_, ?_⟩
  · intro h
    cases h with
    | cons head tail => exact ⟨_, _, rfl, head, tail⟩
  · intro h'
    obtain ⟨piece, others, rfl, head, tail⟩ := h'
    exact .cons head tail

/-- Of two ways to cut the segments behind the title, none lags behind the other. `lag` is how far
`slow` is behind, to be made up for at the end: a literal keeps the lag, and a part of the date
cannot take all of it, because the lag ends like the literal before. -/
theorem not_lagging {prior : Segment} {segments : List Segment} {fast slow : List (List Char)}
    {lag : List Char} (hborders : BordersLeft values (prior :: segments))
    (hvalues : ∀ p, .placeholder p ∈ segments →
      p ≠ .title ∧ ∀ c ∈ (values p).toList, c.isDigit)
    (hfast : Fits segments fast) (hslow : Fits segments slow) (hne : lag ≠ [])
    (hlag : (∃ p next, segments = .placeholder p :: next) → EndsOffDigits lag) :
    lag ++ fast.flatten ≠ slow.flatten := by
  induction segments generalizing prior fast slow lag with
  | nil =>
    cases hfast
    cases hslow
    simpa using hne
  | cons segment next ih =>
    intro h
    obtain ⟨v, fast, rfl, hv, hfast'⟩ := fits_cons_iff.1 hfast
    obtain ⟨q, slow, rfl, hq, hslow'⟩ := fits_cons_iff.1 hslow
    have hnext := fun p hp => hvalues p (List.mem_cons_of_mem _ hp)
    obtain ⟨-, hborders⟩ := bordersLeft_cons.1 hborders
    rw [List.flatten_cons, List.flatten_cons, ← List.append_assoc] at h
    cases segment with
    | literal text =>
      cases hasPiece_literal_iff.1 hv
      cases hasPiece_literal_iff.1 hq
      -- the literal is read at both places, so the lag behind it is as long as before
      obtain ⟨lag', hshift, hrest⟩ : ∃ lag', lag ++ text.toList = text.toList ++ lag' ∧
          slow.flatten = lag' ++ fast.flatten := by
        rcases List.append_eq_append_iff.1 h with ⟨more, hmore, -⟩ | hshift
        · have := congrArg List.length hmore
          simp only [List.length_append] at this
          have := List.length_pos_iff.2 hne
          omega
        · exact hshift
      have hne' : lag' ≠ [] := by
        rintro rfl
        exact hne (by simpa using hshift)
      refine ih hborders hnext hfast' hslow' hne' ?_ hrest.symm
      rintro ⟨p, after, rfl⟩
      have htext := (bordersLeft_cons.1 hborders).1 ⟨p, rfl⟩
      rw [← endsOffDigits_append hne', ← hshift]
      exact (endsOffDigits_append htext.ne_nil).2 htext
    | placeholder p =>
      obtain ⟨hp, hdigits⟩ := hvalues p List.mem_cons_self
      rw [List.append_assoc] at h
      -- the lag is not all digits, so the number read first ends within it
      have hlt := length_lt_of_endsOffDigits (hq.isDigit hp) (hlag ⟨p, next, rfl⟩) h
      obtain ⟨left, rfl, hrest⟩ : ∃ left, lag = q ++ left ∧
          slow.flatten = left ++ (v ++ fast.flatten) := by
        rcases List.append_eq_append_iff.1 h with ⟨more, rfl, -⟩ | hleft
        · simp only [List.length_append] at hlt
          omega
        · exact hleft
      have hne' : left ++ v ≠ [] := by
        rintro hnil
        simp [(List.append_eq_nil_iff.1 hnil).1] at hlt
      refine ih hborders hnext hfast' hslow' hne' ?_ (by simp [hrest])
      rintro ⟨p', after, rfl⟩
      exact absurd ((bordersLeft_cons.1 hborders).1 ⟨p', rfl⟩) (not_endsOffDigits hdigits)

/-- There is only one way to cut the segments behind the title. -/
theorem fits_unique_of_bordersLeft {prior : Segment} {segments : List Segment}
    {a b : List (List Char)} (hborders : BordersLeft values (prior :: segments))
    (hvalues : ∀ p, .placeholder p ∈ segments →
      p ≠ .title ∧ ∀ c ∈ (values p).toList, c.isDigit)
    (ha : Fits segments a) (hb : Fits segments b) (h : a.flatten = b.flatten) : a = b := by
  induction segments generalizing prior a b with
  | nil =>
    cases ha
    cases hb
    rfl
  | cons segment next ih =>
    obtain ⟨v, a, rfl, hv, ha'⟩ := fits_cons_iff.1 ha
    obtain ⟨q, b, rfl, hq, hb'⟩ := fits_cons_iff.1 hb
    have hnext := fun p hp => hvalues p (List.mem_cons_of_mem _ hp)
    obtain ⟨-, hborders⟩ := bordersLeft_cons.1 hborders
    rw [List.flatten_cons, List.flatten_cons] at h
    cases segment with
    | literal text =>
      cases hasPiece_literal_iff.1 hv
      cases hasPiece_literal_iff.1 hq
      rw [ih hborders hnext ha' hb' (List.append_cancel_left h)]
    | placeholder p =>
      obtain ⟨hp, hdigits⟩ := hvalues p List.mem_cons_self
      -- the way with the shorter number lags behind, which no later part of the date allows
      have hnoDate {lag : List Char} : (∃ p' after, next = .placeholder p' :: after) →
          EndsOffDigits lag := by
        rintro ⟨p', after, rfl⟩
        exact absurd ((bordersLeft_cons.1 hborders).1 ⟨p', rfl⟩) (not_endsOffDigits hdigits)
      rcases List.append_eq_append_iff.1 h with ⟨lag, rfl, hlag⟩ | ⟨lag, rfl, hlag⟩
      · by_cases hne : lag = []
        · subst hne
          rw [ih hborders hnext ha' hb' (by simpa using hlag), List.append_nil]
        · exact absurd hlag.symm (not_lagging hborders hnext hb' ha' hne hnoDate)
      · by_cases hne : lag = []
        · subst hne
          rw [ih hborders hnext ha' hb' (by simpa using hlag.symm), List.append_nil]
        · exact absurd hlag.symm (not_lagging hborders hnext ha' hb' hne hnoDate)

/-! ## The title and what is in front of it -/

/-- What follows a part of the date begins with no digit. -/
def BordersRight (values : Placeholder → String) (segments : List Segment) : Prop :=
  segments.IsChain fun segment next =>
    (∃ p, segment = .placeholder p) → StartsOffDigits (next.fill values).toList

theorem startsOffDigits_filled {segment : Segment} {next : List Segment}
    (h : StartsOffDigits (segment.fill values).toList) :
    StartsOffDigits (filled values (segment :: next)) := by
  obtain ⟨c, hc, hdigit⟩ := h
  exact ⟨c, by simp [filled_cons, hc], hdigit⟩

/-- Values that can stand in a path fit the segments. -/
theorem fits_pieces {segments : List Segment}
    (hvalues : ∀ p, .placeholder p ∈ segments → p.IsValue (values p)) :
    Fits segments (pieces values segments) := by
  induction segments with
  | nil => exact .nil
  | cons segment next ih =>
    refine .cons ?_ (ih fun p hp => hvalues p (List.mem_cons_of_mem _ hp))
    cases segment with
    | literal text => exact .literal text next
    | placeholder p => exact (hvalues p List.mem_cons_self).hasPiece next

/-- Another title is longer, since behind a shorter one the path would lag. -/
theorem eq_or_preferred_of_title {next : List Segment} {other : List (List Char)}
    (hborders : BordersLeft values (.placeholder .title :: next))
    (htitle : .placeholder .title ∉ next)
    (hvalues : ∀ p, .placeholder p ∈ next → p.IsValue (values p))
    (hother : IsCut (.placeholder .title :: next)
      (filled values (.placeholder .title :: next)) other) :
    other = pieces values (.placeholder .title :: next) ∨
      Preferred (.placeholder .title :: next)
        (pieces values (.placeholder .title :: next)) other := by
  have hdates : ∀ p, .placeholder p ∈ next → p ≠ .title ∧ ∀ c ∈ (values p).toList, c.isDigit := by
    intro p hp
    have hne : p ≠ .title := fun e => htitle (e ▸ hp)
    exact ⟨hne, (hvalues p hp).isDigit hne⟩
  obtain ⟨u, after, others, rfl, htext, -, hfits, rfl⟩ := isCut_cons_iff.1 hother
  have hpieces := fits_pieces hvalues
  rw [filled_cons, fill, ← flatten_pieces] at htext
  have same (h : others.flatten = (pieces values next).flatten) : others = pieces values next :=
    fits_unique_of_bordersLeft hborders hdates hfits hpieces h
  -- a title that ends later is worse, and one that ends earlier leaves text that nothing takes
  rcases List.append_eq_append_iff.1 htext with ⟨more, rfl, hmore⟩ | ⟨lag, hu, hlag⟩
  · by_cases hne : more = []
    · subst hne
      rw [same (by simpa using hmore.symm)]
      exact .inl (by simp [pieces, fill])
    · have := List.length_pos_iff.2 hne
      exact .inr (.here (by simpa [Placeholder.Prefers, fill] using this))
  · by_cases hne : lag = []
    · subst hne
      rw [same (by simpa using hlag)]
      exact .inl (by simp [pieces, fill, hu])
    · refine absurd hlag.symm (not_lagging hborders hdates hpieces hfits hne ?_)
      rintro ⟨p, after, rfl⟩
      have := (bordersLeft_cons.1 hborders).1 ⟨p, rfl⟩
      rwa [fill, hu, endsOffDigits_append hne] at this

/-- The values are preferred to any other way to cut the path. -/
theorem eq_or_preferred_of_filled {front next : List Segment} {other : List (List Char)}
    (hright : BordersRight values (front ++ [.placeholder .title]))
    (hleft : BordersLeft values (.placeholder .title :: next))
    (htitle : .placeholder .title ∉ next)
    (hvalues : ∀ p, .placeholder p ∈ front ++ .placeholder .title :: next → p.IsValue (values p))
    (hfront : .placeholder .title ∉ front)
    (hother : IsCut (front ++ .placeholder .title :: next)
      (filled values (front ++ .placeholder .title :: next)) other) :
    other = pieces values (front ++ .placeholder .title :: next) ∨
      Preferred (front ++ .placeholder .title :: next)
        (pieces values (front ++ .placeholder .title :: next)) other := by
  induction front generalizing other with
  | nil =>
    exact eq_or_preferred_of_title hleft htitle
      (fun p hp => hvalues p (List.mem_cons_of_mem _ hp)) hother
  | cons segment front ih =>
    obtain ⟨hborder, hright⟩ := List.isChain_cons.1 hright
    have ih {others} := @ih others hright
      (fun p hp => hvalues p (List.mem_cons_of_mem _ hp))
      (fun h => hfront (List.mem_cons_of_mem _ h))
    obtain ⟨q, after, others, rfl, htext, hq, hothers⟩ := isCut_cons_iff.1 hother
    rw [List.cons_append, filled_cons] at htext
    -- if the first pieces agree, so do the texts behind them
    have hsame (hlen : q.length = (segment.fill values).toList.length) :
        q :: others = pieces values (segment :: (front ++ .placeholder .title :: next)) ∨
          Preferred (segment :: (front ++ .placeholder .title :: next))
            (pieces values (segment :: (front ++ .placeholder .title :: next))) (q :: others) := by
      obtain ⟨rfl, rfl⟩ := List.append_inj htext hlen.symm
      rcases ih hothers with rfl | hp
      · exact .inl rfl
      · exact .inr (.later hp)
    cases segment with
    | literal text => exact hsame (by rw [hasPiece_literal_iff.1 hq, fill])
    | placeholder p =>
      have hp : p ≠ .title := by
        rintro rfl
        exact hfront List.mem_cons_self
      have hstarts : StartsOffDigits (filled values (front ++ .placeholder .title :: next)) := by
        cases front with
        | nil => exact startsOffDigits_filled (hborder _ rfl ⟨p, rfl⟩)
        | cons first front => exact startsOffDigits_filled (hborder _ rfl ⟨p, rfl⟩)
      have hle := length_le_of_startsOffDigits (hq.isDigit hp) hstarts htext.symm
      rcases Nat.lt_or_eq_of_le hle with hlt | heq
      · exact .inr (.here (Placeholder.prefers_of_lt hp hlt))
      · exact hsame heq

/-! ## Dots -/

/-- The text of the literals alone. -/
def literalText (segments : List Segment) : List Char :=
  filled (fun _ => "") segments

/-- Every dot of a path that the values do not bring along is in a literal. -/
theorem count_dot_filled {segments : List Segment}
    (hvalues : ∀ p, .placeholder p ∈ segments → '.' ∉ (values p).toList) :
    (filled values segments).count '.' = (literalText segments).count '.' := by
  induction segments with
  | nil => rfl
  | cons segment next ih =>
    have ih := ih fun p hp => hvalues p (List.mem_cons_of_mem _ hp)
    rw [literalText, filled_cons, filled_cons, List.count_append, List.count_append, ih,
      literalText]
    cases segment with
    | literal text => rfl
    | placeholder p =>
      have hdot := hvalues p List.mem_cons_self
      simp [fill, List.count_eq_zero.2 hdot]

/-- The dots of the literals are all in the path. -/
theorem Fits.count_dot_le {segments : List Segment} {cut : List (List Char)}
    (h : Fits segments cut) : (literalText segments).count '.' ≤ cut.flatten.count '.' := by
  induction h with
  | nil => exact Nat.le_refl _
  | @cons segment next piece cut head tail ih =>
    rw [literalText, filled_cons, List.flatten_cons, List.count_append, List.count_append]
    refine Nat.add_le_add ?_ ih
    cases head with
    | literal text => exact Nat.le_refl _
    | date | title => simp [fill]

end Segment

namespace Template

variable {format : String} {t : Template} {values : Placeholder → String}

/-- The borders that tell the digits of the dates from what is between them and the title. -/
structure Separates (t : Template) (values : Placeholder → String) : Prop where
  right : ∀ {front back}, t.segments = front ++ .placeholder .title :: back →
    Segment.BordersRight values (front ++ [.placeholder .title])
  left : ∀ {front back}, t.segments = front ++ .placeholder .title :: back →
    Segment.BordersLeft values (.placeholder .title :: back)

/-- Borders on both sides of the title are borders all over the format. -/
theorem separates_of_segments_eq (front back : List Segment)
    (hsegments : t.segments = front ++ .placeholder .title :: back)
    (hfront : .placeholder .title ∉ front) (hback : .placeholder .title ∉ back)
    (hright : Segment.BordersRight values (front ++ [.placeholder .title]))
    (hleft : Segment.BordersLeft values (.placeholder .title :: back)) : t.Separates values := by
  -- the title has one place in the template
  have hplace {front' back'} (h : t.segments = front' ++ .placeholder .title :: back') :
      front = front' ∧ back = back' := by
    rw [hsegments, List.append_cons_inj_of_notMem hfront hback] at h
    exact ⟨h.1, h.2.2⟩
  refine ⟨?_, ?_⟩
  · intro front' back' h
    rwa [← (hplace h).1]
  · intro front' back' h
    rwa [← (hplace h).2]

/-- The ending of a feed has a dot that a path does not have to spare. -/
theorem capture?_eq_none_of_isFeedOf (hvalues : ∀ p, t.has p = true → '.' ∉ (values p).toList)
    {mode : Mode} {post : List Char} (hdot : '.' ∈ mode.suffix.toList)
    (hpost : IsFeedOf mode (t.fill values).toList post) : t.capture? post = none := by
  by_contra hne
  obtain ⟨cut, hfits, rfl⟩ := isSome_capture?_iff.1 (Option.isSome_iff_ne_none.2 hne)
  have hvalues' (p : Placeholder) (hp : .placeholder p ∈ t.segments) : '.' ∉ (values p).toList :=
    hvalues p (has_iff.2 hp)
  -- the path has as many dots as the literals, and `post` needs them all
  have hcount := Segment.count_dot_filled hvalues'
  have hpath := congrArg (List.count '.') hpost.path_eq
  have hle := hfits.count_dot_le
  have hpos := List.count_pos_iff.2 hdot
  rw [toList_fill, List.count_append] at hpath
  omega

/-- No placeholder stands in two places. -/
theorem IsCompiled.notMem_sides (h : IsCompiled format t) {front back : List Segment}
    {p : Placeholder} (hsegments : t.segments = front ++ .placeholder p :: back) :
    .placeholder p ∉ front ∧ .placeholder p ∉ back := by
  have hnodup := h.nodup
  rw [placeholders, hsegments, List.filterMap_append,
    List.filterMap_cons_some (f := Segment.placeholder?) rfl,
    List.nodup_middle, List.nodup_cons, List.mem_append, not_or,
    Segment.mem_filterMap_placeholder?, Segment.mem_filterMap_placeholder?] at hnodup
  exact hnodup.1

/-- The title stands in a compiled template once. -/
theorem IsCompiled.exists_title (h : IsCompiled format t) :
    ∃ front back, t.segments = front ++ .placeholder .title :: back ∧
      .placeholder .title ∉ front ∧ .placeholder .title ∉ back := by
  obtain ⟨front, back, hsegments⟩ := List.append_of_mem (mem_placeholders.1 h.title_mem)
  exact ⟨front, back, hsegments, h.notMem_sides hsegments⟩

/-- A path is best cut as it was made, when each value ends where it can be seen. -/
theorem isBestCut_fill (h : IsCompiled format t)
    (hvalues : ∀ p, t.has p = true → p.IsValue (values p)) (hborders : t.Separates values) :
    Segment.IsBestCut t.segments (t.fill values).toList (Segment.pieces values t.segments) := by
  have hvalues' : ∀ p, .placeholder p ∈ t.segments → p.IsValue (values p) :=
    fun p hp => hvalues p (has_iff.2 hp)
  rw [toList_fill]
  refine ⟨⟨Segment.fits_pieces hvalues', Segment.flatten_pieces values _⟩, fun hother => ?_⟩
  obtain ⟨front, back, hsegments, hfront, hback⟩ := h.exists_title
  have hright := hborders.right hsegments
  have hleft := hborders.left hsegments
  rw [hsegments] at hvalues' hother ⊢
  exact Segment.eq_or_preferred_of_filled hright hleft hback hvalues' hfront hother

/-- So the values that a path was made of are captured from it. -/
theorem capture?_fill (h : IsCompiled format t)
    (hvalues : ∀ p, t.has p = true → p.IsValue (values p)) (hborders : t.Separates values) :
    ∃ params, t.capture? (t.fill values).toList = some params ∧
      ∀ p, params.get? p = if t.has p then some (values p) else none := by
  have hbest := isBestCut_fill h hvalues hborders
  have hparams := holds_ofList_bindings h.nodup hbest.fits
  refine ⟨_, (capture?_eq_some_iff h.nodup).2 ⟨_, hbest, hparams⟩, fun p => ?_⟩
  refine Option.ext fun value => ?_
  rw [hparams p value]
  -- the value stands at the place of its placeholder and nowhere else
  have hpiece {i : Nat} (hi : t.segments[i]? = some (.placeholder p)) :
      (Segment.pieces values t.segments)[i]? = some (values p).toList := by
    simp [Segment.pieces, hi, Segment.fill]
  refine ⟨?_, ?_⟩
  · intro h'
    obtain ⟨i, hi, hvalue⟩ := h'
    rw [hpiece hi, Option.some.injEq, String.toList_inj] at hvalue
    simp [has_iff.2 (List.mem_of_getElem? hi), hvalue]
  · intro hvalue
    split_ifs at hvalue with hp
    cases hvalue
    obtain ⟨i, hi⟩ := List.mem_iff_getElem?.1 (has_iff.1 hp)
    exact ⟨i, hi, hpiece hi⟩

/-- A filled template is answered with its values, and not as a feed. -/
theorem answers_fill (h : IsCompiled format t)
    (hvalues : ∀ p, t.has p = true → p.IsValue (values p)) (hborders : t.Separates values) :
    ∃ params, t.Answers (t.fill values).toList ⟨params, .html⟩ ∧
      ∀ p, params.get? p = if t.has p then some (values p) else none := by
  obtain ⟨params, hparams, hget⟩ := capture?_fill h hvalues hborders
  have hdots (p : Placeholder) (hp : t.has p = true) : '.' ∉ (values p).toList :=
    (hvalues p hp).not_mem.2.2
  exact ⟨params, .html (fun _ => capture?_eq_none_of_isFeedOf hdots (by decide))
    (fun _ => capture?_eq_none_of_isFeedOf hdots (by decide)) hparams, hget⟩

theorem toList_fill_ne_nil (h : IsCompiled format t)
    (hvalues : ∀ p, t.has p = true → p.IsValue (values p)) : (t.fill values).toList ≠ [] := by
  intro hnil
  have htitle : t.has .title = true := by simpa [has] using h.title_mem
  rw [toList_fill, Segment.filled, List.flatMap_eq_nil_iff] at hnil
  have hempty := hnil _ (has_iff.1 htitle)
  exact (hvalues .title htitle).not_mem.1 (by simpa [Segment.fill] using hempty)

/-- With the suffix of a mode behind it, a path answers to that mode and to the values that it was
made of. -/
theorem answers_fill_suffix (h : IsCompiled format t)
    (hvalues : ∀ p, t.has p = true → p.IsValue (values p)) (hborders : t.Separates values)
    (mode : Mode) :
    ∃ params, t.Answers (t.fill values ++ mode.suffix).toList ⟨params, mode⟩ ∧
      ∀ p, params.get? p = if t.has p then some (values p) else none := by
  by_cases hmode : mode = .html
  · subst hmode
    simpa [Mode.suffix] using answers_fill h hvalues hborders
  · obtain ⟨params, hparams, hget⟩ := capture?_fill h hvalues hborders
    rw [String.toList_append]
    exact ⟨params, (answers_suffix_iff h hmode).2 hparams, hget⟩

end Template

/-! ## Content -/

/-- The parts of a date in no year before zero can stand in a path. -/
theorem Content.isValue_of_ne_title {content : Content} (hyear : 0 ≤ content.publishedAt.year)
    {p : Placeholder} (hp : p ≠ .title) : p.IsValue (content.value p) := by
  have hnat (n : Nat) : toString n ≠ "" ∧ ∀ c ∈ (toString n).toList, c.isDigit := by
    simpa using fun c hc => Nat.isDigit_of_mem_toDigits (by decide) (by decide) hc
  cases p with
  | year =>
    obtain ⟨n, hn⟩ := Int.eq_ofNat_of_zero_le hyear
    have htext : toString (n : Int) = toString n := rfl
    rw [value, hn, htext]
    exact hnat n
  | month => exact hnat _
  | day => exact hnat _
  | title => exact absurd rfl hp

/-- The numbers of a date and the slug may stand in a path. -/
theorem Content.isValue {content : Content} (hyear : 0 ≤ content.publishedAt.year)
    (hslug : Placeholder.title.IsValue content.permalink) (p : Placeholder) :
    p.IsValue (content.value p) := by
  by_cases hp : p = .title
  · subst hp
    exact hslug
  · exact isValue_of_ne_title hyear hp

/-- The values of an item bring no characters along that its slug has not, but digits and the minus
sign of a year before zero. -/
theorem Content.notMem_value {content : Content} {c : Char} (hdigit : c.isDigit = false)
    (hminus : c ≠ '-') (hslug : c ∉ content.permalink.toList) (p : Placeholder) :
    c ∉ (content.value p).toList := by
  -- a number is written in digits only
  have hnat (n : Nat) : c ∉ (toString n).toList := by
    intro hmem
    rw [Nat.toString_eq_ofList_toDigits, String.toList_ofList] at hmem
    exact absurd (Nat.isDigit_of_mem_toDigits (by decide) (by decide) hmem) (by simp [hdigit])
  cases p with
  | year =>
    rw [value]
    cases content.publishedAt.year with
    | ofNat n => exact hnat n
    | negSucc n =>
      show c ∉ ("-" ++ toString (n + 1)).toList
      rw [String.toList_append, List.mem_append, not_or]
      exact ⟨by simpa using hminus, hnat (n + 1)⟩
  | month => exact hnat _
  | day => exact hnat _
  | title => exact hslug

/-- Only the slug can be empty. -/
theorem Content.value_ne_empty {content : Content} (hslug : content.permalink ≠ "")
    (p : Placeholder) : content.value p ≠ "" := by
  have hnat (n : Nat) : toString n ≠ "" := by simp
  cases p with
  | year =>
    rw [value]
    cases content.publishedAt.year with
    | ofNat n => exact hnat n
    | negSucc n =>
      show "-" ++ toString (n + 1) ≠ ""
      simp
  | month => exact hnat _
  | day => exact hnat _
  | title => exact hslug

/-- Matching undoes rendering. -/
theorem Permalink.match?_fill {format : String} {permalink : Permalink}
    (h : Permalink.compile format = .ok permalink) :
    (∀ values, (∀ p, permalink.template.has p = true → p.IsValue (values p)) →
      permalink.template.Separates values →
      ∃ params, permalink.match? (permalink.template.fill values) = some ⟨params, .html⟩ ∧
        ∀ p, params.get? p = if permalink.template.has p then some (values p) else none) ∧
    (∀ content : Content, 0 ≤ content.publishedAt.year →
      Placeholder.title.IsValue content.permalink → permalink.template.Separates content.value →
      ∃ params, permalink.match? (permalink.template.generate content) = some ⟨params, .html⟩ ∧
        ∀ p, params.get? p
          = if permalink.template.has p then some (content.value p) else none) := by
  have hfill (values) (hvalues : ∀ p, permalink.template.has p = true → p.IsValue (values p))
      (hborders : permalink.template.Separates values) :
      ∃ params, permalink.match? (permalink.template.fill values) = some ⟨params, .html⟩ ∧
        ∀ p, params.get? p = if permalink.template.has p then some (values p) else none := by
    obtain ⟨params, hanswers, hget⟩ := Template.answers_fill (isCompiled h) hvalues hborders
    exact ⟨params, Template.match?_eq_some_iff.2 hanswers, hget⟩
  refine ⟨hfill, fun content hyear hslug => hfill content.value fun p _ => ?_⟩
  exact content.isValue hyear hslug p

/-- Leading zeros and digits inside the title come back as they were. -/
theorem Permalink.match?_fill_leadingZeros :
    ∃ permalink, Permalink.compile "/%year%/%title%-%day%" = .ok permalink ∧
      permalink.match? "0042/a-1-007"
        = some ⟨{ year := some "0042", day := some "007", title := some "a-1" }, .html⟩ := by
  have hcompile : Permalink.compile "/%year%/%title%-%day%" = .ok ⟨"/%year%/%title%-%day%",
      [.placeholder .year, .literal "/", .placeholder .title, .literal "-", .placeholder .day]⟩ :=
    eq_ok_of_toOption (by decide +kernel)
  let given : Params := { year := some "0042", day := some "007", title := some "a-1" }
  let values : Placeholder → String := fun p => (given.get? p).getD ""
  have hvalues (p : Placeholder) (hp : p ≠ .month) : p.IsValue (values p) := by
    cases p with
    | month => exact absurd rfl hp
    | title => exact ⟨by decide, by decide⟩
    | _ => exact ⟨by decide, by simp [values, given, Params.get?]⟩
  have hmonth (p : Placeholder) (hp : p ∈ [Placeholder.year, .title, .day]) : p ≠ .month := by
    rintro rfl
    exact absurd hp (by decide)
  obtain ⟨params, hmatch, hget⟩ := (Permalink.match?_fill hcompile).1 values
    (fun p hp => hvalues p (hmonth p (of_decide_eq_true hp)))
    (Template.separates_of_segments_eq [.placeholder .year, .literal "/"]
      [.literal "-", .placeholder .day] rfl (by decide) (by decide)
      (by simp [Segment.BordersRight, StartsOffDigits, Segment.fill])
      (by simp [Segment.BordersLeft, EndsOffDigits, Segment.fill]))
  have hparams : params = given := by
    refine Params.ext_get? fun p => ?_
    rw [hget]
    cases p <;> rfl
  rw [hparams] at hmatch
  exact ⟨_, hcompile, hmatch⟩

end BlogRouting
