import BlogRouting.Proofs.Template.Accepted
import BlogRouting.Proofs.Template.Cutting

/-!
# What a template answers

The parameters of a path are the pieces of the best way to cut it, each under its placeholder
(`capture?_eq_some_iff`), and the answer to a path is the first of three that there is: the path
without `.atom`, without `.rss`, and as it stands (`match?_eq_some_iff`).
-/

namespace BlogRouting

/-! ## Parameters -/

namespace Params

/-- The parameters are the pieces of the placeholders and nothing else. -/
def Holds (params : Params) (segments : List Segment) (pieces : List (List Char)) : Prop :=
  ∀ p value, params.get? p = some value ↔
    ∃ i : Nat, segments[i]? = some (.placeholder p) ∧ pieces[i]? = some value.toList

/-- At most one set of parameters goes with the pieces of a cut. -/
theorem Holds.unique {a b : Params} {segments : List Segment} {pieces : List (List Char)}
    (ha : a.Holds segments pieces) (hb : b.Holds segments pieces) : a = b :=
  ext_get? fun p => Option.ext fun value => (ha p value).trans (hb p value).symm

/-- Where no placeholder comes twice, every pair that is inserted stays. -/
theorem get?_foldl_insert {pairs : List (Placeholder × String)} {params : Params} {p : Placeholder}
    {value : String} (hnodup : (pairs.map Prod.fst).Nodup) :
    (pairs.foldl (fun params (q, value) => params.insert q value) params).get? p = some value ↔
      (p, value) ∈ pairs ∨ p ∉ pairs.map Prod.fst ∧ params.get? p = some value := by
  induction pairs generalizing params with
  | nil => simp
  | cons pair pairs ih =>
    obtain ⟨q, other⟩ := pair
    obtain ⟨hq, hnodup⟩ := List.nodup_cons.1 hnodup
    rw [List.foldl_cons, ih hnodup, get?_insert]
    by_cases hpq : q = p
    · -- `q` does not come again, so nothing overwrites what is inserted for it
      subst hpq
      have hmem : (q, value) ∉ pairs := fun h => hq (List.mem_map.2 ⟨_, h, rfl⟩)
      simp_all [eq_comm]
    · simp [hpq, Ne.symm hpq, eq_comm]

theorem get?_ofList {pairs : List (Placeholder × String)} {p : Placeholder} {value : String}
    (hnodup : (pairs.map Prod.fst).Nodup) :
    (ofList pairs).get? p = some value ↔ (p, value) ∈ pairs := by
  unfold ofList
  rw [get?_foldl_insert hnodup]
  cases p <;> simp [get?]

end Params

namespace Segment

/-- The pieces of the placeholders come in the order of the placeholders. -/
theorem map_fst_bindings {segments : List Segment} {pieces : List (List Char)}
    (h : Fits segments pieces) :
    (bindings segments pieces).map Prod.fst = segments.filterMap placeholder? := by
  induction h with
  | nil => rfl
  | @cons segment next piece pieces _ _ ih =>
    cases segment <;> simp [bindings, placeholder?, List.filterMap_cons, ih]

/-- The piece of a placeholder is the one at the place of its segment. -/
theorem mem_bindings {segments : List Segment} {pieces : List (List Char)} {p : Placeholder}
    {piece : List Char} (h : Fits segments pieces) :
    (p, piece) ∈ bindings segments pieces ↔
      ∃ i : Nat, segments[i]? = some (.placeholder p) ∧ pieces[i]? = some piece := by
  induction h with
  | nil => simp [bindings]
  | @cons segment next first pieces _ _ ih =>
    -- the place is that of the first segment or one behind it
    have hsplit : (∃ i : Nat, (segment :: next)[i]? = some (.placeholder p) ∧
          (first :: pieces)[i]? = some piece) ↔
        (segment = .placeholder p ∧ first = piece) ∨
          ∃ i : Nat, next[i]? = some (.placeholder p) ∧ pieces[i]? = some piece := by
      rw [← Nat.or_exists_add_one]
      simp
    rw [hsplit, ← ih]
    cases segment <;> simp [bindings, eq_comm]

/-- Each segment has a piece that it may have. -/
theorem Fits.hasPiece {segments : List Segment} {pieces : List (List Char)} {i : Nat}
    {segment : Segment} {piece : List Char} (h : Fits segments pieces)
    (hsegment : segments[i]? = some segment) (hpiece : pieces[i]? = some piece) :
    segment.HasPiece (segments.drop (i + 1)) piece := by
  induction h generalizing i with
  | nil => exact absurd hsegment (by simp)
  | cons head tail ih =>
    cases i with
    | zero =>
      cases hsegment
      cases hpiece
      simpa using head
    | succ i => exact ih (by simpa using hsegment) (by simpa using hpiece)

theorem Fits.length_eq {segments : List Segment} {pieces : List (List Char)}
    (h : Fits segments pieces) : segments.length = pieces.length := by
  induction h with
  | nil => rfl
  | cons _ _ ih => simp [ih]

end Segment

/-! ## Captures -/

namespace Template

variable {format : String} {t : Template}

theorem isSome_capture?_iff {text : List Char} :
    (t.capture? text).isSome ↔ ∃ pieces, Segment.IsCut t.segments text pieces := by
  rw [capture?_eq, Option.isSome_map, Segment.isSome_capture?_iff]

/-- As no placeholder occurs twice, each parameter is the piece of its placeholder. -/
theorem holds_ofList_bindings (h : t.placeholders.Nodup) {pieces : List (List Char)}
    (hfits : Segment.Fits t.segments pieces) :
    (Params.ofList ((Segment.bindings t.segments pieces).map fun (p, piece) => (p, .ofList piece))
      ).Holds t.segments pieces := by
  intro p value
  rw [Params.get?_ofList, ← Segment.mem_bindings hfits, List.mem_map]
  · refine ⟨?_, ?_⟩
    · intro h'
      obtain ⟨⟨q, piece⟩, hmem, he⟩ := h'
      cases he
      simpa using hmem
    · exact fun hmem => ⟨_, hmem, by simp⟩
  · have hmap := Segment.map_fst_bindings hfits
    simpa [Function.comp_def, hmap, placeholders] using h

/-- The parameters that are captured are those of the best cut. -/
theorem capture?_eq_some_iff (h : t.placeholders.Nodup) {text : List Char} {params : Params} :
    t.capture? text = some params ↔
      ∃ pieces, Segment.IsBestCut t.segments text pieces ∧ params.Holds t.segments pieces := by
  rw [capture?_eq, Option.map_eq_some_iff]
  refine ⟨?_, ?_⟩
  · intro h'
    obtain ⟨b, hb, rfl⟩ := h'
    obtain ⟨pieces, hpieces, rfl⟩ := Segment.capture?_eq_some_iff.1 hb
    exact ⟨pieces, hpieces, holds_ofList_bindings h hpieces.fits⟩
  · intro h'
    obtain ⟨pieces, hpieces, hparams⟩ := h'
    exact ⟨_, Segment.capture?_eq_some_iff.2 ⟨pieces, hpieces, rfl⟩,
      (holds_ofList_bindings h hpieces.fits).unique hparams⟩

/-- Exactly the placeholders that the format mentions get a value. -/
theorem isSome_get?_of_capture? (h : t.placeholders.Nodup) {text : List Char} {params : Params}
    (hc : t.capture? text = some params) (p : Placeholder) :
    (params.get? p).isSome ↔ t.has p = true := by
  obtain ⟨pieces, hpieces, hparams⟩ := (capture?_eq_some_iff h).1 hc
  rw [has_iff, Option.isSome_iff_exists, List.mem_iff_getElem?]
  refine ⟨?_, ?_⟩
  · intro h'
    obtain ⟨value, hvalue⟩ := h'
    obtain ⟨i, hi, -⟩ := (hparams p value).1 hvalue
    exact ⟨i, hi⟩
  · intro h'
    obtain ⟨i, hi⟩ := h'
    have hlt : i < pieces.length := by
      rw [← hpieces.fits.length_eq]
      exact (List.getElem?_eq_some_iff.1 hi).1
    exact ⟨.ofList pieces[i], (hparams p _).2 ⟨i, hi, by simp [hlt]⟩⟩

/-- The value of a parameter is a piece that its placeholder may have. -/
theorem hasPiece_of_capture? (h : t.placeholders.Nodup) {text : List Char} {params : Params}
    {p : Placeholder} {value : String} (hc : t.capture? text = some params)
    (hvalue : params.get? p = some value) :
    ∃ next, Segment.HasPiece (.placeholder p) next value.toList := by
  obtain ⟨pieces, hpieces, hparams⟩ := (capture?_eq_some_iff h).1 hc
  obtain ⟨i, hi, hpiece⟩ := (hparams p value).1 hvalue
  exact ⟨_, hpieces.fits.hasPiece hi hpiece⟩

/-! ## Modes -/

/-- The path asks for the feed `mode` of what is left of it without the ending. -/
structure IsFeedOf (mode : Mode) (path post : List Char) : Prop where
  ne_nil : post ≠ []
  path_eq : path = post ++ mode.suffix.toList

/-- What a path is answered: the feed of a path that fits, or else the post that it fits. -/
inductive Answers (t : Template) (path : List Char) : Match → Prop where
  | atom {post : List Char} {params : Params} (hpost : IsFeedOf .atom path post)
      (hc : t.capture? post = some params) : Answers t path ⟨params, .atom⟩
  | rss {post : List Char} {params : Params}
      (hatom : ∀ post, IsFeedOf .atom path post → t.capture? post = none)
      (hpost : IsFeedOf .rss path post) (hc : t.capture? post = some params) :
      Answers t path ⟨params, .rss⟩
  | html {params : Params}
      (hatom : ∀ post, IsFeedOf .atom path post → t.capture? post = none)
      (hrss : ∀ post, IsFeedOf .rss path post → t.capture? post = none)
      (hc : t.capture? path = some params) : Answers t path ⟨params, .html⟩

/-- Taking an ending off a text gives what stands in front of it. -/
theorem isSuffixOf?_eq_some_iff {ending text rest : List Char} :
    ending.isSuffixOf? text = some rest ↔ text = rest ++ ending := by
  rw [List.isSuffixOf?, Option.map_eq_some_iff]
  refine ⟨?_, ?_⟩
  · intro h
    obtain ⟨r, hr, rfl⟩ := h
    have := congrArg List.reverse (isPrefixOf?_eq_some_iff.1 hr)
    simpa using this
  · rintro rfl
    exact ⟨rest.reverse, isPrefixOf?_eq_some_iff.2 (by simp), by simp⟩

/-- A feed is matched if the path in front of its suffix is captured. -/
theorem matchFeed?_eq_some_iff {path : List Char} {mode : Mode} {m : Match} :
    t.matchFeed? path mode = some m ↔
      ∃ post params, IsFeedOf mode path post ∧ t.capture? post = some params ∧
        m = ⟨params, mode⟩ := by
  unfold matchFeed?
  refine ⟨?_, ?_⟩
  · intro h
    split at h
    · exact absurd h (by simp)
    · exact absurd h (by simp)
    · rename_i post hne hpost
      obtain ⟨params, hparams, rfl⟩ := Option.map_eq_some_iff.1 h
      exact ⟨post, params, ⟨hne, isSuffixOf?_eq_some_iff.1 hpost⟩, hparams, rfl⟩
  · intro h'
    obtain ⟨post, params, ⟨hne, hpath⟩, hparams, rfl⟩ := h'
    rw [isSuffixOf?_eq_some_iff.2 hpath]
    cases post with
    | nil => exact absurd rfl hne
    | cons c post => simp [hparams]

/-- A feed is not matched if nothing in front of its suffix is captured. -/
theorem matchFeed?_eq_none_iff {path : List Char} {mode : Mode} :
    t.matchFeed? path mode = none ↔ ∀ post, IsFeedOf mode path post → t.capture? post = none := by
  rw [Option.eq_none_iff_forall_ne_some]
  refine ⟨?_, ?_⟩
  · intro h post hpost
    refine Option.eq_none_iff_forall_ne_some.2 fun params hparams => ?_
    exact h _ (matchFeed?_eq_some_iff.2 ⟨post, params, hpost, hparams, rfl⟩)
  · intro h m hm
    obtain ⟨post, params, hpost, hparams, -⟩ := matchFeed?_eq_some_iff.1 hm
    exact absurd hparams (by simp [h post hpost])

/-- A path is matched with what it answers to. -/
theorem match?_eq_some_iff {path : String} {m : Match} :
    t.match? path = some m ↔ t.Answers path.toList m := by
  simp only [match?, Option.or_eq_some_iff, matchFeed?_eq_none_iff, Option.map_eq_some_iff]
  refine ⟨?_, ?_⟩
  · rintro (hm | ⟨hatom, hm | ⟨hrss, params, hparams, rfl⟩⟩)
    · obtain ⟨post, params, hpost, hparams, rfl⟩ := matchFeed?_eq_some_iff.1 hm
      exact .atom hpost hparams
    · obtain ⟨post, params, hpost, hparams, rfl⟩ := matchFeed?_eq_some_iff.1 hm
      exact .rss hatom hpost hparams
    · exact .html hatom hrss hparams
  · intro h
    cases h with
    | atom hpost hc => exact .inl (matchFeed?_eq_some_iff.2 ⟨_, _, hpost, hc, rfl⟩)
    | rss hatom hpost hc =>
      exact .inr ⟨hatom, .inl (matchFeed?_eq_some_iff.2 ⟨_, _, hpost, hc, rfl⟩)⟩
    | html hatom hrss hc => exact .inr ⟨hatom, .inr ⟨hrss, _, hc, rfl⟩⟩

/-- Whatever the mode, the parameters were captured from some text. -/
theorem Answers.exists_capture? {path : List Char} {m : Match} (h : t.Answers path m) :
    ∃ text, t.capture? text = some m.params := by
  cases h with
  | atom _ hc | rss _ _ hc | html _ _ hc => exact ⟨_, hc⟩

/-- The title takes at least one character. -/
theorem capture?_nil (h : IsCompiled format t) : t.capture? [] = none := by
  by_contra hne
  obtain ⟨pieces, hfits, hflatten⟩ := isSome_capture?_iff.1 (Option.isSome_iff_ne_none.2 hne)
  obtain ⟨i, hi⟩ := List.mem_iff_getElem?.1 (mem_placeholders.1 h.title_mem)
  obtain ⟨hlt, -⟩ := List.getElem?_eq_some_iff.1 hi
  rw [hfits.length_eq] at hlt
  have hnil : pieces[i] = [] := List.flatten_eq_nil_iff.1 hflatten _ (List.getElem_mem hlt)
  have hpiece := hfits.hasPiece hi (List.getElem?_eq_getElem hlt)
  exact (Segment.hasPiece_placeholder_iff.1 hpiece).1 hnil

/-- A compiled template never captures an empty slug. -/
theorem slug_ne_empty_of_capture? (h : IsCompiled format t) {text : List Char} {params : Params}
    (hc : t.capture? text = some params) : params.slug ≠ "" := by
  have htitle : (params.get? .title).isSome :=
    (isSome_get?_of_capture? h.nodup hc .title).2 (has_iff.2 (mem_placeholders.1 h.title_mem))
  obtain ⟨value, hvalue⟩ := Option.isSome_iff_exists.1 htitle
  obtain ⟨next, hpiece⟩ := hasPiece_of_capture? h.nodup hc hvalue
  have hne : value ≠ "" := by
    simpa using (Segment.hasPiece_placeholder_iff.1 hpiece).1
  have hslug : params.slug = value := by
    simp only [Params.get?] at hvalue
    simp [Params.slug, hvalue]
  rwa [hslug]

/-- Behind the ending of a feed the path is matched as it stands. -/
theorem answers_suffix_iff (h : IsCompiled format t) {path : List Char} {mode : Mode}
    {params : Params} (hmode : mode ≠ .html) :
    t.Answers (path ++ mode.suffix.toList) ⟨params, mode⟩ ↔ t.capture? path = some params := by
  have hpost {post : List Char} (hfeed : IsFeedOf mode (path ++ mode.suffix.toList) post) :
      post = path := (List.append_cancel_right hfeed.path_eq).symm
  refine ⟨?_, ?_⟩
  · intro hanswers
    cases hanswers with
    | atom hfeed hc | rss _ hfeed hc => rwa [← hpost hfeed]
    | html => exact absurd rfl hmode
  · intro hc
    have hne : path ≠ [] := by
      rintro rfl
      exact absurd hc (by simp [capture?_nil h])
    cases mode with
    | html => exact absurd rfl hmode
    | atom => exact .atom ⟨hne, rfl⟩ hc
    | rss =>
      refine .rss (fun post hfeed => ?_) ⟨hne, rfl⟩ hc
      -- the two endings do not end in the same letter
      have := congrArg List.getLast? hfeed.path_eq
      simp [Mode.suffix] at this

end Template

/-- A text is captured if and only if there is a way to cut it, what is captured are the pieces of
the best way, a feed is answered before the post itself, and every answer has a value for exactly
the placeholders of the template: a title without slashes and numbers for the parts of the date. -/
theorem Permalink.match?_bestCut {format : String} {permalink : Permalink}
    (h : Permalink.compile format = .ok permalink) :
    (∀ text, (permalink.template.capture? text).isSome ↔
      ∃ pieces, Segment.IsCut permalink.template.segments text pieces) ∧
    (∀ text params, permalink.template.capture? text = some params ↔
      ∃ pieces, Segment.IsBestCut permalink.template.segments text pieces ∧
        params.Holds permalink.template.segments pieces) ∧
    (∀ path m, permalink.match? path = some m ↔ permalink.template.Answers path.toList m) ∧
    (∀ path m, permalink.match? path = some m →
      (∀ p, (m.params.get? p).isSome ↔ permalink.template.has p = true) ∧
      (m.params.slug ≠ "" ∧ '/' ∉ m.params.slug.toList) ∧
      ∀ p ≠ .title, ∀ value, m.params.get? p = some value →
        value ≠ "" ∧ ∀ c ∈ value.toList, c.isDigit) := by
  have hnodup := (isCompiled h).nodup
  refine ⟨fun _ => Template.isSome_capture?_iff, fun _ _ => Template.capture?_eq_some_iff hnodup,
    fun _ _ => Template.match?_eq_some_iff, fun path m hm => ?_⟩
  -- the text is the path, or the path without the ending of a feed
  obtain ⟨text, hc⟩ := (Template.match?_eq_some_iff.1 hm).exists_capture?
  refine ⟨Template.isSome_get?_of_capture? hnodup hc, ?_, fun p hp value hvalue => ?_⟩
  · have htitle : (m.params.get? .title).isSome :=
      (Template.isSome_get?_of_capture? hnodup hc .title).2 (by
        simpa [Template.has] using (isCompiled h).title_mem)
    obtain ⟨value, hvalue⟩ := Option.isSome_iff_exists.1 htitle
    have hslug : m.params.slug = value := by
      simp only [Params.get?] at hvalue
      simp [Params.slug, hvalue]
    obtain ⟨next, hpiece⟩ := Template.hasPiece_of_capture? hnodup hc hvalue
    rw [hslug]
    cases hpiece with
    | date hp => exact absurd rfl hp
    | title hne hslash => exact ⟨fun e => hne (by simp [e]), hslash⟩
  · obtain ⟨next, hpiece⟩ := Template.hasPiece_of_capture? hnodup hc hvalue
    cases hpiece with
    | date _ hne hdigit => exact ⟨fun e => hne (by simp [e]), hdigit⟩
    | title => exact absurd rfl hp

/-- The title leaves all digits at the end to the year. -/
theorem Permalink.match?_bestCut_title_year :
    ∃ permalink, Permalink.compile "/%title%%year%" = .ok permalink ∧
      permalink.template.Answers "hello2004.rss".toList
        ⟨{ year := some "2004", title := some "hello" }, .rss⟩ := by
  have hcompile : Permalink.compile "/%title%%year%" =
      .ok ⟨"/%title%%year%", [.placeholder .title, .placeholder .year]⟩ :=
    eq_ok_of_toOption (by decide +kernel)
  obtain ⟨-, -, hanswers, -⟩ := Permalink.match?_bestCut hcompile
  exact ⟨_, hcompile, (hanswers "hello2004.rss" _).1 (by decide +kernel)⟩

end BlogRouting
