import BlogRouting.Template.Capture

/-!
# Ways to cut a path

A path fits a list of segments in as many ways as it can be cut into pieces, one for each segment
(`IsCut`). `Segment.capture?` tries them in an order of its own; here the pieces are described
without any order, and apart from them which of two ways is preferred (`Preferred`).

* **`capture?_eq_some_iff`**: what is captured are the pieces of the placeholders in the way that
  is preferred to all others.
* **`isSome_capture?_iff`**: something is captured if there is any way at all.
-/

namespace BlogRouting

/-- Which of two pieces counts where both are possible: the shorter one for the title, the longer
one for a part of the date. -/
def Placeholder.Prefers : Placeholder → List Char → List Char → Prop
  | .title, a, b => a.length < b.length
  | _, a, b => b.length < a.length

/-- Only lengths decide which piece is preferred. -/
theorem Placeholder.Prefers.length_ne {p : Placeholder} {a b : List Char} (h : p.Prefers a b) :
    a.length ≠ b.length := by
  cases p <;> simp only [Placeholder.Prefers] at h <;> omega

theorem Placeholder.Prefers.asymm {p : Placeholder} {a b : List Char} (h : p.Prefers a b) :
    ¬ p.Prefers b a := by
  cases p <;> simp only [Placeholder.Prefers] at h ⊢ <;> omega

theorem Placeholder.Prefers.cons {p : Placeholder} {a b : List Char} {c : Char}
    (h : p.Prefers a b) : p.Prefers (c :: a) (c :: b) := by
  cases p <;> simpa [Placeholder.Prefers] using h

/-- A part of the date prefers the longer piece. -/
theorem Placeholder.prefers_of_lt {p : Placeholder} {a b : List Char} (hp : p ≠ .title)
    (h : b.length < a.length) : p.Prefers a b := by
  cases p with
  | title => exact absurd rfl hp
  | _ => exact h

namespace Segment

/-- The pieces that a segment in front of the segments `next` may have. -/
inductive HasPiece : Segment → List Segment → List Char → Prop where
  | literal (text : String) (next : List Segment) : HasPiece (.literal text) next text.toList
  | date {p : Placeholder} {next : List Segment} {piece : List Char} (hp : p ≠ .title)
      (hne : piece ≠ []) (hdigit : ∀ c ∈ piece, c.isDigit) : HasPiece (.placeholder p) next piece
  | title {next : List Segment} {piece : List Char} (hne : piece ≠ []) (hslash : '/' ∉ piece)
      (hdot : ∀ text rest, next = .literal ("." ++ text) :: rest → '.' ∉ piece) :
      HasPiece (.placeholder .title) next piece

/-- One piece for each segment. -/
inductive Fits : List Segment → List (List Char) → Prop where
  | nil : Fits [] []
  | cons {segment : Segment} {next : List Segment} {piece : List Char} {pieces : List (List Char)}
      (head : segment.HasPiece next piece) (tail : Fits next pieces) :
      Fits (segment :: next) (piece :: pieces)

/-- The text is the pieces in a row, and there is one for each segment. -/
structure IsCut (segments : List Segment) (text : List Char) (pieces : List (List Char)) :
    Prop where
  fits : Fits segments pieces
  flatten_eq : pieces.flatten = text

/-- Of two ways to cut, the one preferred at the first placeholder where they differ. -/
inductive Preferred : List Segment → List (List Char) → List (List Char) → Prop where
  | here {p : Placeholder} {next : List Segment} {a b : List Char} {as bs : List (List Char)}
      (h : p.Prefers a b) : Preferred (.placeholder p :: next) (a :: as) (b :: bs)
  | later {segment : Segment} {next : List Segment} {a : List Char} {as bs : List (List Char)}
      (h : Preferred next as bs) : Preferred (segment :: next) (a :: as) (a :: bs)

/-- The way to cut that is preferred to every other one. -/
structure IsBestCut (segments : List Segment) (text : List Char) (pieces : List (List Char)) :
    Prop extends IsCut segments text pieces where
  best : ∀ {other}, IsCut segments text other → other = pieces ∨ Preferred segments pieces other

/-- The pieces of the placeholders. -/
def bindings : List Segment → List (List Char) → Bindings
  | .placeholder p :: next, piece :: pieces => (p, piece) :: bindings next pieces
  | .literal _ :: next, _ :: pieces => bindings next pieces
  | _, _ => []

/-! ## Pieces -/

/-- A dot comes next if a literal that begins with one does. -/
theorem startsWithDot_iff {next : List Segment} :
    startsWithDot next = true ↔ ∃ text rest, next = .literal ("." ++ text) :: rest := by
  refine ⟨?_, ?_⟩
  · intro h
    unfold startsWithDot at h
    split at h
    · rename_i text rest
      obtain ⟨tail, htail⟩ : ∃ tail, text.toList = '.' :: tail := by
        cases htext : text.toList with
        | nil => simp [htext] at h
        | cons c tail => exact ⟨tail, by simpa [htext] using h⟩
      refine ⟨.ofList tail, rest, ?_⟩
      congr
      rw [← String.toList_inj]
      simp [htail]
    · exact absurd h (by simp)
  · intro h'
    obtain ⟨text, rest, rfl⟩ := h'
    simp [startsWithDot]

/-- The piece of a placeholder is not empty and has only characters that the placeholder admits
there. -/
theorem hasPiece_placeholder_iff {p : Placeholder} {next : List Segment} {piece : List Char} :
    HasPiece (.placeholder p) next piece ↔ piece ≠ [] ∧ ∀ c ∈ piece, admits p next c = true := by
  refine ⟨?_, ?_⟩
  · intro h
    cases h with
    | date hp hne hdigit =>
      refine ⟨hne, fun c hc => ?_⟩
      cases p with
      | title => exact absurd rfl hp
      | _ => exact hdigit c hc
    | title hne hslash hdot =>
      refine ⟨hne, fun c hc => ?_⟩
      have hc₁ : c ≠ '/' := fun e => hslash (e ▸ hc)
      have hc₂ : startsWithDot next = true → c ≠ '.' := fun hs e => by
        obtain ⟨text, rest, hnext⟩ := startsWithDot_iff.1 hs
        exact hdot text rest hnext (e ▸ hc)
      cases hs : startsWithDot next <;> simp_all [admits]
  · intro h'
    obtain ⟨hne, hadmits⟩ := h'
    cases p with
    | title =>
      refine .title hne (fun hc => ?_) (fun text rest hnext hc => ?_)
      · exact absurd (hadmits _ hc) (by simp [admits])
      · have hs : startsWithDot next = true := startsWithDot_iff.2 ⟨text, rest, hnext⟩
        exact absurd (hadmits _ hc) (by simp [admits, hs])
    | _ => exact .date (by decide) hne hadmits

theorem hasPiece_literal_iff {text : String} {next : List Segment} {piece : List Char} :
    HasPiece (.literal text) next piece ↔ piece = text.toList := by
  refine ⟨?_, ?_⟩
  · intro h
    cases h
    rfl
  · rintro rfl
    exact .literal text next

/-- Without segments, only the empty text can be cut. -/
theorem isCut_nil_iff {text : List Char} {pieces : List (List Char)} :
    IsCut [] text pieces ↔ text = [] ∧ pieces = [] := by
  refine ⟨?_, ?_⟩
  · intro h
    obtain ⟨hfits, hflat⟩ := h
    cases hfits
    exact ⟨hflat.symm, rfl⟩
  · intro h
    obtain ⟨rfl, rfl⟩ := h
    exact ⟨.nil, rfl⟩

/-- A text is cut into a piece for the first segment and a cut of the rest. -/
theorem isCut_cons_iff {segment : Segment} {next : List Segment} {text : List Char}
    {pieces : List (List Char)} :
    IsCut (segment :: next) text pieces ↔
      ∃ piece after others, pieces = piece :: others ∧ text = piece ++ after ∧
        segment.HasPiece next piece ∧ IsCut next after others := by
  refine ⟨?_, ?_⟩
  · intro h
    obtain ⟨hfits, hflat⟩ := h
    cases hfits with
    | cons head tail => exact ⟨_, _, _, rfl, by simpa using hflat.symm, head, ⟨tail, rfl⟩⟩
  · intro h
    obtain ⟨piece, after, others, rfl, rfl, head, tail⟩ := h
    exact ⟨.cons head tail.fits, by simp [tail.flatten_eq]⟩

/-! ## Preference -/

/-- Of two ways to cut, at most one is preferred to the other. -/
theorem Preferred.asymm {segments : List Segment} {a b : List (List Char)}
    (h : Preferred segments a b) : ¬ Preferred segments b a := by
  induction h with
  | here h =>
    intro h'
    cases h' with
    | here h' => exact h.asymm h'
    | later _ => exact h.length_ne rfl
  | later _ ih =>
    intro h'
    cases h' with
    | here h' => exact h'.length_ne rfl
    | later h' => exact ih h'

/-- No two ways to cut are both preferred to all others. -/
theorem IsBestCut.unique {segments : List Segment} {text : List Char} {a b : List (List Char)}
    (ha : IsBestCut segments text a) (hb : IsBestCut segments text b) : a = b := by
  rcases ha.best hb.toIsCut with h | h
  · exact h.symm
  · rcases hb.best ha.toIsCut with h' | h'
    · exact h'
    · exact absurd h' h.asymm

/-! ## What a placeholder captures -/

section CaptureAt

variable {p : Placeholder} {next : List Segment} {rest : List Char → Option Bindings}

/-- A piece is one admitted character, with another piece behind it or nothing. -/
theorem hasPiece_cons_iff {c : Char} {piece : List Char} :
    HasPiece (.placeholder p) next (c :: piece) ↔
      admits p next c = true ∧ (piece = [] ∨ HasPiece (.placeholder p) next piece) := by
  simp only [hasPiece_placeholder_iff, List.forall_mem_cons]
  by_cases h : piece = [] <;> simp [h]

/-- The next character is taken if it is admitted, and then it is the last one of the piece or not,
as the placeholder prefers. -/
theorem captureAt_cons {c : Char} {text : List Char} :
    captureAt p next rest (c :: text) =
      if admits p next c then choose p c (rest text) (captureAt p next rest text) else none := by
  rw [captureAt]

/-- Where the shorter piece counts, a longer one is taken only if the shortest is none. -/
theorem choose_title_eq_some {c : Char} {after longer : Option Bindings} {b : Bindings}
    (h : choose .title c after longer = some b) :
    (∃ bs, after = some bs ∧ b = (.title, [c]) :: bs) ∨
      (after = none ∧ ∃ l, longer = some l ∧ b = lengthen c l) := by
  cases after with
  | some bs => exact .inl ⟨bs, rfl, by simpa [choose] using h.symm⟩
  | none =>
    obtain ⟨l, hl, hb⟩ : ∃ l, longer = some l ∧ lengthen c l = b := by simpa [choose] using h
    exact .inr ⟨rfl, l, hl, hb.symm⟩

/-- A part of the date goes on for as long as the rest of the path can still be captured. -/
theorem choose_date_eq_some {c : Char} {after longer : Option Bindings} {b : Bindings}
    (hp : p ≠ .title) (h : choose p c after longer = some b) :
    (∃ l, longer = some l ∧ b = lengthen c l) ∨
      (longer = none ∧ ∃ bs, after = some bs ∧ b = (p, [c]) :: bs) := by
  cases longer with
  | some l => exact .inl ⟨l, rfl, by simpa [choose, hp] using h.symm⟩
  | none =>
    obtain ⟨bs, hbs, hb⟩ : ∃ bs, after = some bs ∧ (p, [c]) :: bs = b := by
      simpa [choose, hp] using h
    exact .inr ⟨rfl, bs, hbs, hb.symm⟩

theorem isSome_choose {c : Char} {after longer : Option Bindings} :
    (choose p c after longer).isSome = (after.isSome || longer.isSome) := by
  by_cases hp : p = .title <;> cases after <;> cases longer <;> simp [choose, hp]

/-- A text captures something for a placeholder if any of its beginnings is a piece that leaves an
answered text. -/
theorem isSome_captureAt {piece after : List Char} (hpiece : HasPiece (.placeholder p) next piece)
    (hafter : (rest after).isSome) : (captureAt p next rest (piece ++ after)).isSome := by
  induction piece with
  | nil => exact absurd rfl (hasPiece_placeholder_iff.1 hpiece).1
  | cons c piece ih =>
    obtain ⟨hc, hmore⟩ := hasPiece_cons_iff.1 hpiece
    rw [List.cons_append, captureAt_cons, if_pos hc, isSome_choose]
    rcases hmore with rfl | hmore
    · simp [hafter]
    · simp [ih hmore]

/-- Any piece at a place ends with the first character, or goes on behind it. -/
theorem HasPiece.cons_cases {c : Char} {text other tail : List Char}
    (ho : HasPiece (.placeholder p) next other) (h : c :: text = other ++ tail) :
    (other = [c] ∧ tail = text) ∨
      ∃ more, other = c :: more ∧ text = more ++ tail ∧ HasPiece (.placeholder p) next more := by
  cases other with
  | nil => exact absurd rfl (hasPiece_placeholder_iff.1 ho).1
  | cons d more =>
    obtain ⟨rfl, htext⟩ : c = d ∧ text = more ++ tail := by simpa using h
    rcases (hasPiece_cons_iff.1 ho).2 with rfl | hmore
    · exact .inl ⟨rfl, by simpa using htext.symm⟩
    · exact .inr ⟨more, rfl, htext, hmore⟩

/-- What is captured begins with the preferred one of the pieces that leave an answered text. -/
def CapturesBest (p : Placeholder) (next : List Segment) (rest : List Char → Option Bindings)
    (text : List Char) (b : Bindings) : Prop :=
  ∃ piece after bs, b = (p, piece) :: bs ∧ text = piece ++ after ∧
    HasPiece (.placeholder p) next piece ∧ rest after = some bs ∧
    ∀ other tail, text = other ++ tail → HasPiece (.placeholder p) next other →
      (rest tail).isSome → other = piece ∨ p.Prefers piece other

/-- The best piece of `text` behind `c` is the best one, if it counts more than `c` alone. -/
theorem CapturesBest.lengthen {c : Char} {text : List Char} {b : Bindings}
    (h : CapturesBest p next rest text b) (hc : admits p next c = true)
    (halone : (rest text).isSome → ∀ piece : List Char, piece ≠ [] → p.Prefers (c :: piece) [c]) :
    CapturesBest p next rest (c :: text) (Segment.lengthen c b) := by
  obtain ⟨piece, after, bs, rfl, htext, hpiece, hbs, hbest⟩ := h
  refine ⟨c :: piece, after, bs, rfl, by rw [htext]; rfl, hasPiece_cons_iff.2 ⟨hc, .inr hpiece⟩,
    hbs, fun other tail hother ho htail => ?_⟩
  rcases ho.cons_cases hother with ⟨rfl, rfl⟩ | ⟨more, rfl, hmore, hm⟩
  · exact .inr (halone htail piece (hasPiece_placeholder_iff.1 hpiece).1)
  · rcases hbest more tail hmore hm htail with rfl | hp
    · exact .inl rfl
    · exact .inr hp.cons

/-- The piece of one character is the best one, if no longer one that has an answer counts more. -/
theorem capturesBest_singleton {c : Char} {text : List Char} {bs : Bindings}
    (hc : admits p next c = true) (hbs : rest text = some bs)
    (hlonger : ∀ more tail, text = more ++ tail → HasPiece (.placeholder p) next more →
      (rest tail).isSome → p.Prefers [c] (c :: more)) :
    CapturesBest p next rest (c :: text) ((p, [c]) :: bs) := by
  refine ⟨[c], text, bs, rfl, rfl, hasPiece_cons_iff.2 ⟨hc, .inl rfl⟩, hbs,
    fun other tail hother ho htail => ?_⟩
  rcases ho.cons_cases hother with ⟨rfl, -⟩ | ⟨more, rfl, hmore, hm⟩
  · exact .inl rfl
  · exact .inr (hlonger more tail hmore hm htail)

/-- What is captured at a placeholder is the best of its pieces, with the best cut behind it. -/
theorem captureAt_eq_some {text : List Char} {b : Bindings}
    (h : captureAt p next rest text = some b) : CapturesBest p next rest text b := by
  induction text generalizing b with
  | nil => exact absurd h (by simp [captureAt])
  | cons c text ih =>
    rw [captureAt_cons] at h
    split at h
    case isFalse => exact absurd h (by simp)
    case isTrue hc =>
    by_cases hp : p = .title
    · -- `c` alone is tried first, and every other piece is longer
      subst hp
      rcases choose_title_eq_some h with ⟨bs, hbs, rfl⟩ | ⟨hnone, l, hl, rfl⟩
      · refine capturesBest_singleton hc hbs fun more tail _ hm _ => ?_
        have hpos := List.length_pos_iff.2 (hasPiece_placeholder_iff.1 hm).1
        simpa [Placeholder.Prefers] using hpos
      · exact (ih hl).lengthen hc fun hsome => absurd hsome (by simp [hnone])
    · -- the longer pieces are tried first, and `c` alone is shorter than any of them
      rcases choose_date_eq_some hp h with ⟨l, hl, rfl⟩ | ⟨hnone, bs, hbs, rfl⟩
      · refine (ih hl).lengthen hc fun _ piece hne => Placeholder.prefers_of_lt hp ?_
        have hpos := List.length_pos_iff.2 hne
        simpa using hpos
      · refine capturesBest_singleton hc hbs fun more tail hmore hm htail => ?_
        have hsome := isSome_captureAt hm htail
        rw [← hmore, hnone] at hsome
        exact absurd hsome (by simp)

end CaptureAt

/-! ## What the segments capture -/

/-- If there is any way to cut the text, something is captured. -/
theorem isSome_capture?_of_isCut {segments : List Segment} {text : List Char}
    {pieces : List (List Char)} (h : IsCut segments text pieces) :
    (capture? segments text).isSome := by
  induction segments generalizing text pieces with
  | nil => simp [capture?, (isCut_nil_iff.1 h).1]
  | cons segment next ih =>
    obtain ⟨piece, after, others, rfl, rfl, hpiece, hothers⟩ := isCut_cons_iff.1 h
    cases segment with
    | literal fixed =>
      rw [hasPiece_literal_iff.1 hpiece, capture?, isPrefixOf?_eq_some_iff.2 rfl]
      exact ih hothers
    | placeholder p => exact isSome_captureAt hpiece (ih hothers)

/-- What is captured belongs to a cut that is preferred to all others. -/
theorem exists_isBestCut_of_capture? {segments : List Segment} {text : List Char} {b : Bindings}
    (h : capture? segments text = some b) :
    ∃ pieces, IsBestCut segments text pieces ∧ bindings segments pieces = b := by
  induction segments generalizing text b with
  | nil =>
    rw [capture?] at h
    split at h
    case isFalse => exact absurd h (by simp)
    case isTrue htext =>
    refine ⟨[], ⟨isCut_nil_iff.2 ⟨htext, rfl⟩, fun hother => .inl (isCut_nil_iff.1 hother).2⟩, ?_⟩
    simpa [bindings] using h
  | cons segment next ih =>
    cases segment with
    | literal fixed =>
      obtain ⟨after, hafter, hb⟩ := Option.bind_eq_some_iff.1 h
      obtain ⟨pieces, hpieces, rfl⟩ := ih hb
      rw [isPrefixOf?_eq_some_iff] at hafter
      have hcut : IsCut (.literal fixed :: next) text (fixed.toList :: pieces) :=
        isCut_cons_iff.2 ⟨_, _, _, rfl, hafter, .literal .., hpieces.toIsCut⟩
      refine ⟨fixed.toList :: pieces, ⟨hcut, fun hother => ?_⟩, rfl⟩
      obtain ⟨piece, tail, others, rfl, htext, hpiece, hothers⟩ := isCut_cons_iff.1 hother
      cases hasPiece_literal_iff.1 hpiece
      rw [hafter, List.append_cancel_left_eq] at htext
      rcases hpieces.best (htext ▸ hothers) with rfl | hp
      · exact .inl rfl
      · exact .inr (.later hp)
    | placeholder p =>
      obtain ⟨piece, after, bs, rfl, htext, hpiece, hbs, hbest⟩ := captureAt_eq_some h
      obtain ⟨pieces, hpieces, rfl⟩ := ih hbs
      refine ⟨piece :: pieces, ⟨isCut_cons_iff.2 ⟨_, _, _, rfl, htext, hpiece, hpieces.toIsCut⟩,
        fun hother => ?_⟩, rfl⟩
      obtain ⟨piece', tail, others, rfl, htext', hpiece', hothers⟩ := isCut_cons_iff.1 hother
      -- what is left behind the other piece can be cut, so it has an answer and was considered
      rcases hbest piece' tail htext' hpiece' (isSome_capture?_of_isCut hothers) with rfl | hp
      · rw [htext, List.append_cancel_left_eq] at htext'
        rcases hpieces.best (htext' ▸ hothers) with rfl | hp
        · exact .inl rfl
        · exact .inr (.later hp)
      · exact .inr (.here hp)

/-- Something is captured exactly if the text can be cut. -/
theorem isSome_capture?_iff {segments : List Segment} {text : List Char} :
    (capture? segments text).isSome ↔ ∃ pieces, IsCut segments text pieces := by
  refine ⟨?_, ?_⟩
  · intro h
    obtain ⟨b, hb⟩ := Option.isSome_iff_exists.1 h
    obtain ⟨pieces, hpieces, -⟩ := exists_isBestCut_of_capture? hb
    exact ⟨pieces, hpieces.toIsCut⟩
  · intro h'
    obtain ⟨pieces, hpieces⟩ := h'
    exact isSome_capture?_of_isCut hpieces

/-- What is captured are the pieces of the preferred cut. -/
theorem capture?_eq_some_iff {segments : List Segment} {text : List Char} {b : Bindings} :
    capture? segments text = some b ↔
      ∃ pieces, IsBestCut segments text pieces ∧ bindings segments pieces = b := by
  refine ⟨?_, ?_⟩
  · exact exists_isBestCut_of_capture?
  · intro h
    obtain ⟨pieces, hpieces, rfl⟩ := h
    obtain ⟨b, hb⟩ := Option.isSome_iff_exists.1 (isSome_capture?_of_isCut hpieces.toIsCut)
    obtain ⟨pieces', hpieces', rfl⟩ := exists_isBestCut_of_capture? hb
    rw [hb, hpieces.unique hpieces']

end Segment

end BlogRouting
