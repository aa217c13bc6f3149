import BlogRouting.Proofs.Template.Segmentation
import BlogRouting.Proofs.Text.SingleSlashes
import BlogRouting.Template.Permalink

/-!
# Accepted formats

What is known of a template once its format has compiled: it mentions the title, mentions nothing
twice, and its segments spell out the format with its slashes brought in order. There are no other
segments that do so (`segments_eq_iff_isSegmentation`).
-/

namespace BlogRouting

/-! ## What compiling checks -/

/-- None is repeated if they are distinct and none has been seen before. -/
theorem Placeholder.firstRepeated?_eq_none_iff {seen ps : List Placeholder} :
    firstRepeated? seen ps = none ↔ ps.Nodup ∧ ∀ p ∈ ps, p ∉ seen := by
  induction ps generalizing seen with
  | nil => simp [firstRepeated?]
  | cons p rest ih =>
    unfold firstRepeated?
    split
    · rename_i h
      simp [h]
    · rename_i h
      rw [ih, List.nodup_cons]
      refine ⟨?_, ?_⟩
      · intro h
        obtain ⟨hnodup, hfresh⟩ := h
        refine ⟨⟨fun hp => hfresh p hp List.mem_cons_self, hnodup⟩, fun q hq => ?_⟩
        rcases List.mem_cons.1 hq with rfl | hq
        · exact h
        · exact fun hseen => hfresh q hq (List.mem_cons_of_mem _ hseen)
      · intro h
        obtain ⟨⟨hp, hnodup⟩, hfresh⟩ := h
        refine ⟨hnodup, fun q hq hseen => ?_⟩
        rcases List.mem_cons.1 hseen with rfl | hseen
        · exact hp hq
        · exact hfresh q (List.mem_cons_of_mem _ hq) hseen

namespace Template

/-- The template that an accepted format is compiled to. -/
structure IsCompiled (format : String) (t : Template) : Prop where
  format_eq : t.format = format
  segments_eq : t.segments = Segment.cut (normalForm format)
  nodup : t.placeholders.Nodup
  title_mem : .title ∈ t.placeholders
  not_feed : Segment.endsInFeedSuffix t.segments = false

/-- What a compiled template is like says when a format is accepted. -/
theorem compile_eq_ok_iff {format : String} {t : Template} :
    compile format = .ok t ↔ IsCompiled format t := by
  refine ⟨?_, ?_⟩
  · intro h
    simp only [compile] at h
    split at h
    · exact absurd h (by simp)
    · rename_i hnone
      split_ifs at h with htitle hfeed
      cases h
      exact ⟨rfl, rfl, (Placeholder.firstRepeated?_eq_none_iff.1 hnone).1,
        by simpa [has] using htitle, by simpa using hfeed⟩
  · intro h'
    obtain ⟨rfl, hsegments, hnodup, htitle, hfeed⟩ := h'
    have hnone : Placeholder.firstRepeated? [] t.placeholders = none :=
      Placeholder.firstRepeated?_eq_none_iff.2 ⟨hnodup, by simp⟩
    simp [compile, hnone, has, htitle, ← hsegments, hfeed]

end Template

/-- A result that can be evaluated. -/
theorem eq_ok_of_toOption {ε α : Type} {result : Except ε α} {a : α}
    (h : result.toOption = some a) : result = .ok a := by
  cases result with
  | error e => exact absurd h (by simp [Except.toOption])
  | ok b => exact congrArg _ (Option.some.inj h)

theorem mapError_eq_ok_iff {ε ε' α : Type} {result : Except ε α} {f : ε → ε'} {a : α} :
    result.mapError f = .ok a ↔ result = .ok a := by
  cases result <;> simp [Except.mapError]

/-- A permalink is made of a compiled template. -/
theorem Permalink.isCompiled {format : String} {permalink : Permalink}
    (h : compile format = .ok permalink) : permalink.template.IsCompiled format := by
  unfold compile at h
  cases ht : Template.compile format with
  | error e => exact absurd h (by simp [ht, bind, Except.bind])
  | ok t =>
    simp only [ht, bind, Except.bind] at h
    split_ifs at h
    cases h
    exact Template.compile_eq_ok_iff.1 ht

/-! ## What the segments are filled to -/

namespace Segment

/-- The characters of the segments when `values` stand for the placeholders. -/
def filled (values : Placeholder → String) (segments : List Segment) : List Char :=
  segments.flatMap fun segment => (segment.fill values).toList

theorem filled_cons (values : Placeholder → String) (segment : Segment) (next : List Segment) :
    filled values (segment :: next) = (segment.fill values).toList ++ filled values next :=
  List.flatMap_cons

variable {values : Placeholder → String}

/-- Where the values have no slashes, a slash in front was written there. -/
theorem head?_written_of_filled {segments : List Segment}
    (hvalues : ∀ p, .placeholder p ∈ segments → values p ≠ "" ∧ '/' ∉ (values p).toList)
    (h : (filled values segments).head? = some '/') : (written segments).head? = some '/' := by
  induction segments with
  | nil => exact h
  | cons segment next ih =>
    have ih := ih fun p hp => hvalues p (List.mem_cons_of_mem _ hp)
    cases segment with
    | literal text =>
      rw [filled_cons, fill] at h
      rw [written_cons, source]
      cases htext : text.toList with
      -- behind an empty literal the next segment begins the text
      | nil => simpa [htext] using ih (by simpa [htext] using h)
      | cons c rest => simpa [htext] using h
    | placeholder p =>
      obtain ⟨hne, hslash⟩ := hvalues p List.mem_cons_self
      rw [filled_cons, fill] at h
      cases hvalue : (values p).toList with
      | nil => exact absurd (by simpa using hvalue) hne
      | cons c rest => simp_all

/-- Where the values have no slashes, filling leaves slashes single. -/
theorem areSingle_filled {segments : List Segment}
    (hvalues : ∀ p, .placeholder p ∈ segments → values p ≠ "" ∧ '/' ∉ (values p).toList)
    (h : Slashes.AreSingle (written segments)) : Slashes.AreSingle (filled values segments) := by
  induction segments with
  | nil => exact h
  | cons segment next ih =>
    have htail := fun p hp => hvalues p (List.mem_cons_of_mem _ hp)
    obtain ⟨hsource, hnext, hborder⟩ := Slashes.areSingle_append.1 (written_cons segment next ▸ h)
    rw [filled_cons, Slashes.areSingle_append]
    cases segment with
    | literal text =>
      -- a slash behind the literal was written there, next to the one that it ends with
      exact ⟨hsource, ih htail hnext,
        fun ⟨h₁, h₂⟩ => hborder ⟨h₁, head?_written_of_filled htail h₂⟩⟩
    | placeholder p =>
      obtain ⟨-, hslash⟩ := hvalues p List.mem_cons_self
      refine ⟨Slashes.areSingle_of_not_mem hslash, ih htail hnext, fun ⟨h₁, _⟩ => ?_⟩
      exact hslash (List.mem_of_getLast? h₁)

/-- The placeholders of some segments are those that are one of them. -/
theorem mem_filterMap_placeholder? {segments : List Segment} {p : Placeholder} :
    p ∈ segments.filterMap placeholder? ↔ .placeholder p ∈ segments := by
  rw [List.mem_filterMap]
  refine ⟨?_, ?_⟩
  · intro h
    obtain ⟨segment, hmem, hp⟩ := h
    cases segment with
    | literal text => exact absurd hp (by simp [placeholder?])
    | placeholder q => simp_all [placeholder?]
  · exact fun h => ⟨_, h, rfl⟩

end Segment

namespace Template

variable {format : String} {t : Template} {values : Placeholder → String}

theorem toList_fill (t : Template) (values : Placeholder → String) :
    (t.fill values).toList = Segment.filled values t.segments := by
  simp [fill, Segment.filled, List.flatMap_map]

theorem mem_placeholders {p : Placeholder} : p ∈ t.placeholders ↔ .placeholder p ∈ t.segments :=
  Segment.mem_filterMap_placeholder?

theorem has_iff {p : Placeholder} : t.has p = true ↔ .placeholder p ∈ t.segments := by
  simp [has, mem_placeholders]

/-- The segments of a compiled template are a segmentation of its format. -/
theorem IsCompiled.isSegmentation (h : IsCompiled format t) :
    Segment.IsSegmentation (normalForm format) t.segments := by
  rw [h.segments_eq]
  exact Segment.isSegmentation_cut _

/-- The segments spell the format, but for slashes that are dropped. -/
theorem IsCompiled.written_segments (h : IsCompiled format t) :
    Segment.written t.segments = normalForm format :=
  h.isSegmentation.written_eq

theorem IsCompiled.not_adjacent (h : IsCompiled format t) {front back : List Segment}
    {a b : String} : t.segments ≠ front ++ .literal a :: .literal b :: back := by
  intro hsegments
  have halternates := h.isSegmentation.alternates
  exact List.isChain_iff_forall_rel_of_append_cons_cons.1 halternates hsegments ⟨rfl, rfl⟩

/-- A path keeps the slashes of the format apart as long as no value is empty or has a slash. -/
theorem IsCompiled.areSingle_fill (h : IsCompiled format t)
    (hvalues : ∀ p, t.has p = true → values p ≠ "" ∧ '/' ∉ (values p).toList) :
    Slashes.AreSingle (t.fill values).toList ∧ (t.fill values).toList.head? ≠ some '/' := by
  have hvalues' := fun p hp => hvalues p (has_iff.2 hp)
  rw [toList_fill]
  refine ⟨?_, ?_⟩
  · apply Segment.areSingle_filled hvalues'
    rw [h.written_segments]
    exact Slashes.areSingle_trimLeading (Slashes.areSingle_collapse _)
  · intro hhead
    have := Segment.head?_written_of_filled hvalues' hhead
    rw [h.written_segments] at this
    exact Slashes.head?_trimLeading _ this

/-! ## Formats with the same segments -/

/-- The segments of a format are the only segmentation of its text with the slashes in order,
whether it is accepted or not. So two accepted formats have the same segments exactly if they are
the same but for leading slashes and for slashes in a row. -/
theorem segments_eq_iff_isSegmentation :
    (∀ (format : String) (segments : List Segment),
      segments = Segment.cut (normalForm format) ↔
        Segment.IsSegmentation (normalForm format) segments) ∧
    (∀ (format : String) (t : Template) (segments : List Segment), compile format = .ok t →
      (segments = t.segments ↔ Segment.IsSegmentation (normalForm format) segments)) ∧
    ∀ (format format' : String) (t t' : Template), compile format = .ok t →
      compile format' = .ok t' →
      (t.segments = t'.segments ↔ normalForm format = normalForm format') := by
  refine ⟨?_, ?_, ?_⟩
  · intro format segments
    exact Segment.isSegmentation_iff_eq_cut.symm
  · intro format t segments h
    rw [(compile_eq_ok_iff.1 h).segments_eq]
    exact Segment.isSegmentation_iff_eq_cut.symm
  · intro format format' t t' h h'
    have hcompiled := compile_eq_ok_iff.1 h
    have hcompiled' := compile_eq_ok_iff.1 h'
    refine ⟨?_, ?_⟩
    · intro hsegments
      rw [← hcompiled.written_segments, hsegments, hcompiled'.written_segments]
    · intro htext
      rw [hcompiled.segments_eq, htext, hcompiled'.segments_eq]

/-- The second percent sign ends no token that the first one begins, and one of two tokens that
share a sign is text. -/
theorem segments_eq_iff_isSegmentation_overlapping :
    ∃ t t', compile "//%%title%/%year%month%" = .ok t ∧ compile "%%title%//%year%month%" = .ok t' ∧
      Segment.IsSegmentation "%%title%/%year%month%".toList t.segments ∧
      t.segments = t'.segments := by
  have hcompile : compile "//%%title%/%year%month%" = .ok ⟨"//%%title%/%year%month%",
      [.literal "%", .placeholder .title, .literal "/", .placeholder .year, .literal "month%"]⟩ :=
    eq_ok_of_toOption (by decide +kernel)
  have hcompile' : compile "%%title%//%year%month%" = .ok ⟨"%%title%//%year%month%",
      [.literal "%", .placeholder .title, .literal "/", .placeholder .year, .literal "month%"]⟩ :=
    eq_ok_of_toOption (by decide +kernel)
  have hnormal : normalForm "//%%title%/%year%month%" = "%%title%/%year%month%".toList := by
    decide +kernel
  have hnormal' : normalForm "%%title%//%year%month%" = "%%title%/%year%month%".toList := by
    decide +kernel
  obtain ⟨-, hunique, hequal⟩ := segments_eq_iff_isSegmentation
  exact ⟨_, _, hcompile, hcompile', hnormal ▸ (hunique _ _ _ hcompile).1 rfl,
    (hequal _ _ _ _ hcompile hcompile').2 (hnormal.trans hnormal'.symm)⟩

end Template

end BlogRouting
