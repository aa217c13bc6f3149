import BlogRouting.Proofs.Template.Rendering

/-!
# Refused formats

Formats are judged by their segments, while the people who choose them see the text. The first
placeholder that stands there a second time is reported before anything else, then a missing
title, then the ending of a feed (`compile_eq_iff`).

Only the last literal is looked at for that ending. Slashes in order and whole tokens change
nothing about it: the ending has no slash, so it stays when slashes are dropped
(`Slashes.suffix_collapse_iff`), and it has no percent sign, so it does not reach over the token
of a placeholder (`IsSegmentation.suffix_iff`).
-/

namespace BlogRouting

/-! ## What is repeated -/

/-- What is reported was there before, while nothing in front of it was. -/
theorem Placeholder.firstRepeated?_eq_some_iff {seen ps : List Placeholder} {p : Placeholder} :
    firstRepeated? seen ps = some p ↔ ∃ front back, ps = front ++ p :: back ∧
      (p ∈ seen ∨ p ∈ front) ∧ firstRepeated? seen front = none := by
  induction ps generalizing seen with
  | nil => simp [firstRepeated?]
  | cons q rest ih =>
    by_cases hq : q ∈ seen
    · -- `q` is reported, and a front that holds it is not free of repetitions
      rw [firstRepeated?, if_pos hq]
      refine ⟨?_, ?_⟩
      · rintro ⟨⟩
        exact ⟨[], rest, rfl, .inl hq, rfl⟩
      · rintro ⟨front, back, hps, -, hnone⟩
        cases front with
        | nil => rw [(List.cons.inj hps).1]
        | cons r front =>
          obtain ⟨rfl, -⟩ := List.cons.inj hps
          exact absurd hnone (by simp [firstRepeated?, hq])
    · -- `q` is new, and seen by everything behind it
      rw [firstRepeated?, if_neg hq, ih]
      refine ⟨?_, ?_⟩
      · rintro ⟨front, back, rfl, hp, hnone⟩
        refine ⟨q :: front, back, rfl, ?_, by rwa [firstRepeated?, if_neg hq]⟩
        simp only [List.mem_cons] at hp ⊢
        tauto
      · rintro ⟨front, back, hps, hp, hnone⟩
        cases front with
        | nil =>
          obtain ⟨rfl, -⟩ := List.cons.inj hps
          exact absurd hp (by simp [hq])
        | cons r front =>
          obtain ⟨rfl, hrest⟩ := List.cons.inj hps
          rw [firstRepeated?, if_neg hq] at hnone
          refine ⟨front, back, hrest, ?_, hnone⟩
          simp only [List.mem_cons] at hp ⊢
          tauto

namespace Segment

variable {text : List Char} {segments : List Segment}

theorem count_filterMap_placeholder? (segments : List Segment) (p : Placeholder) :
    (segments.filterMap placeholder?).count p = segments.count (.placeholder p) := by
  induction segments with
  | nil => rfl
  | cons segment next ih =>
    cases segment with
    | literal content => rw [List.filterMap_cons_none rfl, ih, List.count_cons_of_ne (by simp)]
    | placeholder q => simp [placeholder?, List.count_cons, ih]

/-- No placeholder stands there twice. -/
def AreDistinct (segments : List Segment) : Prop :=
  ∀ p : Placeholder, segments.count (.placeholder p) ≤ 1

theorem areDistinct_iff : AreDistinct segments ↔ (segments.filterMap placeholder?).Nodup := by
  simp only [AreDistinct, List.nodup_iff_count_le_one, count_filterMap_placeholder?]

theorem firstRepeated?_eq_none_iff :
    Placeholder.firstRepeated? [] (segments.filterMap placeholder?) = none
      ↔ AreDistinct segments := by
  rw [Placeholder.firstRepeated?_eq_none_iff, areDistinct_iff]
  simp

/-- The placeholder `p` stands there a second time, and none in front of that place does. -/
def IsFirstRepeated (segments : List Segment) (p : Placeholder) : Prop :=
  ∃ front back, segments = front ++ .placeholder p :: back ∧ .placeholder p ∈ front ∧
    AreDistinct front

/-- The placeholder that is reported is the one whose second occurrence comes first. -/
theorem firstRepeated?_eq_some_iff {p : Placeholder} :
    Placeholder.firstRepeated? [] (segments.filterMap placeholder?) = some p
      ↔ IsFirstRepeated segments p := by
  rw [Placeholder.firstRepeated?_eq_some_iff]
  refine ⟨?_, ?_⟩
  · rintro ⟨front, back, hsplit, hp, hnone⟩
    obtain ⟨before, rest, rfl, rfl, hrest⟩ := List.filterMap_eq_append_iff.1 hsplit
    obtain ⟨literals, segment, behind, rfl, hliterals, hsegment, -⟩ :=
      List.filterMap_eq_cons_iff.1 hrest
    -- literals between the front and the repeated placeholder do not count
    have hfront : (before ++ literals).filterMap placeholder? = before.filterMap placeholder? := by
      rw [List.filterMap_append, List.filterMap_eq_nil_iff.2 hliterals, List.append_nil]
    cases segment with
    | literal content => exact absurd hsegment (by simp [placeholder?])
    | placeholder q =>
      obtain rfl := Option.some.inj hsegment
      refine ⟨before ++ literals, behind, by simp, ?_, ?_⟩
      · rw [← mem_filterMap_placeholder?, hfront]
        simpa using hp
      · rw [← firstRepeated?_eq_none_iff, hfront, hnone]
  · rintro ⟨front, back, rfl, hp, hdistinct⟩
    refine ⟨front.filterMap placeholder?, back.filterMap placeholder?, ?_, .inr ?_, ?_⟩
    · simp [placeholder?]
    · exact mem_filterMap_placeholder?.2 hp
    · exact firstRepeated?_eq_none_iff.2 hdistinct

/-- Some placeholder is the first to be repeated as soon as any occurs twice. -/
theorem exists_isFirstRepeated_iff :
    (∃ p, IsFirstRepeated segments p) ↔ ∃ p : Placeholder, 2 ≤ segments.count (.placeholder p) := by
  have hsome : (∃ p, IsFirstRepeated segments p) ↔ ¬ AreDistinct segments := by
    simp only [← firstRepeated?_eq_some_iff, ← firstRepeated?_eq_none_iff]
    exact Option.ne_none_iff_exists'.symm
  simp only [hsome, AreDistinct, not_forall, Nat.not_le, Nat.lt_iff_add_one_le]

/-! ## How a format ends -/

theorem written_append (front back : List Segment) :
    written (front ++ back) = written front ++ written back :=
  List.flatMap_append

/-- Every segment can be found in the text that the segments spell. -/
theorem infix_written {segment : Segment} (h : segment ∈ segments) :
    segment.source.toList <:+: written segments := by
  obtain ⟨front, back, rfl⟩ := List.append_of_mem h
  rw [written_append, written_cons]
  exact ⟨written front, written back, by rw [List.append_assoc]⟩

/-- A format whose last segment is a placeholder ends in a percent sign. -/
theorem getLast?_written_concat (front : List Segment) (p : Placeholder) :
    (written (front ++ [.placeholder p])).getLast? = some '%' := by
  have htoken : written [.placeholder p] = '%' :: p.name.toList ++ ['%'] := by
    simp [written, source, Placeholder.toList_token]
  rw [written_append, htoken, ← List.append_assoc, List.getLast?_concat]

/-- A text without percent signs does not reach into a token. -/
theorem eq_nil_of_suffix_written {ending : List Char} (hsign : '%' ∉ ending)
    {front : List Segment} {p : Placeholder} (h : ending <:+ written (front ++ [.placeholder p])) :
    ending = [] := by
  by_contra hne
  obtain ⟨before, hbefore⟩ := h
  have hlast := getLast?_written_concat front p
  rw [← hbefore, List.getLast?_append_of_ne_nil _ hne] at hlast
  exact hsign (List.mem_of_getLast? hlast)

/-- An ending without percent signs stands in the last literal as a whole. -/
theorem IsSegmentation.suffix_iff (h : IsSegmentation text segments) {ending : List Char}
    (hne : ending ≠ []) (hsign : '%' ∉ ending) :
    ending <:+ text ↔ ∃ content, segments.getLast? = some (.literal content) ∧
      ending <:+ content.toList := by
  have halternates := h.alternates
  obtain rfl := h.written_eq
  rcases List.eq_nil_or_concat' segments with rfl | ⟨front, last, rfl⟩
  · simpa [written] using hne
  cases last with
  | placeholder p =>
    have hnone : ¬ ending <:+ written (front ++ [.placeholder p]) := fun hsuffix =>
      hne (eq_nil_of_suffix_written hsign hsuffix)
    simpa using hnone
  | literal content =>
    have hwritten : written (front ++ [.literal content]) = written front ++ content.toList := by
      rw [written_append]
      simp [written, source]
    simp only [List.getLast?_concat, Option.some.injEq, literal.injEq, exists_eq_left', hwritten]
    refine ⟨fun hsuffix => ?_, fun hsuffix => hsuffix.trans (List.suffix_append _ _)⟩
    obtain ⟨before, hbefore⟩ := hsuffix
    rcases List.append_eq_append_iff.1 hbefore with ⟨beyond, hfront, rfl⟩ | ⟨inner, -, hcontent⟩
    · -- what reaches over the literal is behind a token, or in front of everything
      have hbeyond : beyond = [] := by
        have hsuffix : beyond <:+ written front := ⟨before, hfront.symm⟩
        have hsign : '%' ∉ beyond := fun hmem => hsign (List.mem_append_left _ hmem)
        rcases List.eq_nil_or_concat' front with rfl | ⟨front, prior, rfl⟩
        · exact List.suffix_nil.1 hsuffix
        · cases prior with
          | placeholder p => exact eq_nil_of_suffix_written hsign hsuffix
          | literal content' =>
            rw [List.append_assoc, List.singleton_append] at halternates
            exact absurd ⟨rfl, rfl⟩
              (List.isChain_iff_forall_rel_of_append_cons_cons.1 halternates rfl)
      rw [hbeyond, List.nil_append]
    · exact ⟨inner, hcontent.symm⟩

/-- Only a literal at the end can end in a way that asks for a feed. -/
theorem endsInFeedSuffix_iff : endsInFeedSuffix segments = true ↔
    ∃ suffix ∈ Template.feedSuffixes, ∃ content, segments.getLast? = some (.literal content) ∧
      suffix.toList <:+ content.toList := by
  unfold endsInFeedSuffix
  split
  · rename_i content hlast
    simp [hlast, List.isSuffixOf_iff_suffix]
  · rename_i hlast
    refine iff_of_false (by simp) ?_
    rintro ⟨-, -, content, hcontent, -⟩
    exact hlast content hcontent

end Segment

namespace Template

variable {format : String} {segments : List Segment}

/-- The text of the format ends like the path of a feed. -/
def EndsLikeFeed (format : String) : Prop :=
  ∃ suffix ∈ feedSuffixes, suffix.toList <:+ format.toList

/-- There are two endings that a format may not have. -/
theorem endsLikeFeed_iff : EndsLikeFeed format ↔
    ".atom".toList <:+ format.toList ∨ ".rss".toList <:+ format.toList := by
  simp [EndsLikeFeed, feedSuffixes]

/-- Neither a token nor a dropped slash can be a part of the ending. -/
theorem feedSuffix_inOneLiteral : ∀ suffix ∈ feedSuffixes,
    suffix.toList ≠ [] ∧ '%' ∉ suffix.toList ∧ '/' ∉ suffix.toList := by
  decide

/-- Looking at the last literal is as good as looking at the format. -/
theorem endsInFeedSuffix_iff (h : Segment.IsSegmentation (normalForm format) segments) :
    Segment.endsInFeedSuffix segments = true ↔ EndsLikeFeed format := by
  rw [Segment.endsInFeedSuffix_iff]
  refine exists_congr fun suffix => and_congr_right fun hsuffix => ?_
  obtain ⟨hne, hsign, hslash⟩ := feedSuffix_inOneLiteral suffix hsuffix
  rw [← h.suffix_iff hne hsign, normalForm, Slashes.suffix_trimLeading_iff hslash,
    Slashes.suffix_collapse_iff hslash]

/-! ## The verdict on a format -/

/-- What is said of a format with these segments. -/
inductive Verdict (format : String) (segments : List Segment) :
    Except CompileError Template → Prop where
  | repeated {p : Placeholder} (hrepeated : Segment.IsFirstRepeated segments p) :
      Verdict format segments (.error (.repeated p))
  | missingTitle (hdistinct : Segment.AreDistinct segments)
      (htitle : .placeholder .title ∉ segments) : Verdict format segments (.error .missingTitle)
  | reservedFeedSuffix (hdistinct : Segment.AreDistinct segments)
      (htitle : .placeholder .title ∈ segments) (hfeed : EndsLikeFeed format) :
      Verdict format segments (.error .reservedFeedSuffix)
  | accepted (hdistinct : Segment.AreDistinct segments)
      (htitle : .placeholder .title ∈ segments) (hfeed : ¬ EndsLikeFeed format) :
      Verdict format segments (.ok ⟨format, segments⟩)

/-- Compiling a format gives the verdict that its only segmentation calls for. -/
theorem compile_eq_iff (h : Segment.IsSegmentation (normalForm format) segments)
    {result : Except CompileError Template} :
    compile format = result ↔ Verdict format segments result := by
  have hfeed := endsInFeedSuffix_iff h
  obtain rfl := Segment.isSegmentation_iff_eq_cut.1 h
  refine ⟨?_, fun hverdict => ?_⟩
  · rintro rfl
    simp only [compile, has_iff]
    split
    · rename_i p hp
      exact .repeated (Segment.firstRepeated?_eq_some_iff.1 hp)
    · rename_i hnone
      have hdistinct := Segment.firstRepeated?_eq_none_iff.1 hnone
      split_ifs with htitle hends
      · exact .reservedFeedSuffix hdistinct htitle (hfeed.1 hends)
      · exact .accepted hdistinct htitle fun hlike => hends (hfeed.2 hlike)
      · exact .missingTitle hdistinct htitle
  · simp only [compile, placeholders, has_iff]
    cases hverdict with
    | repeated hp => rw [Segment.firstRepeated?_eq_some_iff.2 hp]
    | missingTitle hdistinct htitle =>
      simp [Segment.firstRepeated?_eq_none_iff.2 hdistinct, htitle]
    | reservedFeedSuffix hdistinct htitle hlike =>
      simp [Segment.firstRepeated?_eq_none_iff.2 hdistinct, htitle, hfeed.2 hlike]
    | accepted hdistinct htitle hlike =>
      simp [Segment.firstRepeated?_eq_none_iff.2 hdistinct, htitle, mt hfeed.1 hlike]

/-! ## Accepted formats -/

/-- The path of an item with a slug that has no slash begins with none and has no two in a row. -/
theorem IsCompiled.generate_inOrder {t : Template} (h : IsCompiled format t) {content : Content}
    (hne : content.permalink ≠ "") (hslug : '/' ∉ content.permalink.toList) :
    (t.generate content).toList.head? ≠ some '/' ∧
      ¬ ['/', '/'] <:+: (t.generate content).toList := by
  have hvalues (p : Placeholder) : content.value p ≠ "" ∧ '/' ∉ (content.value p).toList :=
    ⟨content.value_ne_empty hne p, content.notMem_value (by decide) (by decide) hslug p⟩
  obtain ⟨hsingle, hhead⟩ := h.areSingle_fill fun p _ => hvalues p
  exact ⟨hhead, Slashes.areSingle_iff.1 hsingle⟩

theorem literal_inOrder (h : Segment.IsSegmentation (normalForm format) segments) {text : String}
    (htext : .literal text ∈ segments) : ¬ ['/', '/'] <:+: text.toList := by
  intro hslashes
  have hinfix : text.toList <:+: normalForm format := h.written_eq ▸ Segment.infix_written htext
  have hsingle : Slashes.AreSingle (normalForm format) :=
    Slashes.areSingle_trimLeading (Slashes.areSingle_collapse _)
  exact Slashes.areSingle_iff.1 hsingle (hslashes.trans hinfix)

/-- The first literal begins with no slash. -/
theorem head?_ne_slash (h : Segment.IsSegmentation (normalForm format) segments) {text : String}
    (htext : segments.head? = some (.literal text)) : text.toList.head? ≠ some '/' := by
  intro hslash
  obtain ⟨rest, rfl⟩ := List.head?_eq_some_iff.1 htext
  have hhead : (normalForm format).head? = some '/' := by
    rw [← h.written_eq, Segment.written_cons, List.head?_append]
    show text.toList.head?.or _ = some '/'
    rw [hslash, Option.some_or]
  exact Slashes.head?_trimLeading _ hhead

/-- A format is refused for a placeholder that it repeats, and for the one that is the first to
stand there again, else for a missing title, else for the ending of its text. An accepted format
has each placeholder once at most and the title once, its literals have their slashes in order,
and so do the paths made from it, whatever the date. -/
theorem compile_refuses_exactly (h : Segment.IsSegmentation (normalForm format) segments) :
    (∀ p, compile format = .error (.repeated p) ↔ Segment.IsFirstRepeated segments p) ∧
    ((∃ p, compile format = .error (.repeated p)) ↔
      ∃ p : Placeholder, 2 ≤ segments.count (.placeholder p)) ∧
    (compile format = .error .missingTitle ↔
      Segment.AreDistinct segments ∧ .placeholder .title ∉ segments) ∧
    (compile format = .error .reservedFeedSuffix ↔
      Segment.AreDistinct segments ∧ .placeholder .title ∈ segments ∧
        (".atom".toList <:+ format.toList ∨ ".rss".toList <:+ format.toList)) ∧
    (∀ t, compile format = .ok t ↔
      Segment.AreDistinct segments ∧ .placeholder .title ∈ segments ∧
        ¬ (".atom".toList <:+ format.toList ∨ ".rss".toList <:+ format.toList) ∧
        t = ⟨format, segments⟩) ∧
    ∀ t, compile format = .ok t →
      segments.count (.placeholder .title) = 1 ∧
      (∀ p : Placeholder, segments.count (.placeholder p) ≤ 1) ∧
      (∀ text, .literal text ∈ segments → ¬ ['/', '/'] <:+: text.toList) ∧
      (∀ text, segments.head? = some (.literal text) → text.toList.head? ≠ some '/') ∧
      ∀ content : Content, content.permalink ≠ "" → '/' ∉ content.permalink.toList →
        (t.generate content).toList.head? ≠ some '/' ∧
          ¬ ['/', '/'] <:+: (t.generate content).toList := by
  have hrepeated (p : Placeholder) :
      compile format = .error (.repeated p) ↔ Segment.IsFirstRepeated segments p := by
    rw [compile_eq_iff h]
    exact ⟨fun | .repeated hp => hp, .repeated⟩
  refine ⟨hrepeated, ?_, ?_, ?_, fun t => ?_, fun t ht => ?_⟩
  · simp only [hrepeated, Segment.exists_isFirstRepeated_iff]
  · rw [compile_eq_iff h]
    exact ⟨fun | .missingTitle hdistinct htitle => ⟨hdistinct, htitle⟩,
      fun ⟨hdistinct, htitle⟩ => .missingTitle hdistinct htitle⟩
  · rw [compile_eq_iff h, ← endsLikeFeed_iff]
    exact ⟨fun | .reservedFeedSuffix hdistinct htitle hfeed => ⟨hdistinct, htitle, hfeed⟩,
      fun ⟨hdistinct, htitle, hfeed⟩ => .reservedFeedSuffix hdistinct htitle hfeed⟩
  · rw [compile_eq_iff h, ← endsLikeFeed_iff]
    refine ⟨fun | .accepted hdistinct htitle hfeed => ⟨hdistinct, htitle, hfeed, rfl⟩, ?_⟩
    rintro ⟨hdistinct, htitle, hfeed, rfl⟩
    exact .accepted hdistinct htitle hfeed
  · have hcompiled := compile_eq_ok_iff.1 ht
    cases (compile_eq_iff h).1 ht with
    | accepted hdistinct htitle hfeed =>
      have htitle := List.one_le_count_iff.2 htitle
      exact ⟨Nat.le_antisymm (hdistinct .title) htitle, hdistinct,
        fun text => literal_inOrder h, fun text => head?_ne_slash h,
        fun content hne hslug => hcompiled.generate_inOrder hne hslug⟩

/-- The month stands in front of the year, but the year is the first to stand there again. A path
with a year before zero begins with a minus sign. -/
theorem compile_refuses_exactly_year_twice :
    compile "%month%%year%/%year%-%month%.atom" = .error (.repeated .year) ∧
    ∃ t, compile "//%year%//%title%" = .ok t ∧ ∀ id title publishedAt,
      let content : Content := { id, title, permalink := "ides", publishedAt }
      (t.generate content).toList.head? ≠ some '/' ∧
        ¬ ['/', '/'] <:+: (t.generate content).toList := by
  have htwice : Segment.IsSegmentation (normalForm "%month%%year%/%year%-%month%.atom")
      [.placeholder .month, .placeholder .year, .literal "/", .placeholder .year, .literal "-",
        .placeholder .month, .literal ".atom"] :=
    Segment.isSegmentation_iff_eq_cut.2 (by decide +kernel)
  have honce : Segment.IsSegmentation (normalForm "//%year%//%title%")
      [.placeholder .year, .literal "/", .placeholder .title] :=
    Segment.isSegmentation_iff_eq_cut.2 (by decide +kernel)
  obtain ⟨hrepeated, -⟩ := compile_refuses_exactly htwice
  obtain ⟨-, -, -, -, haccepted, hpaths⟩ := compile_refuses_exactly honce
  have hcompile := (haccepted _).2
    ⟨fun p => by cases p <;> decide, by decide, by decide +kernel, rfl⟩
  obtain ⟨-, -, -, -, hinOrder⟩ := hpaths _ hcompile
  refine ⟨(hrepeated .year).2 ?_, _, hcompile, fun id title publishedAt => ?_⟩
  · exact ⟨[.placeholder .month, .placeholder .year, .literal "/"], _, rfl, by decide,
      fun p => by cases p <;> decide⟩
  · have hne : "ides" ≠ "" := by decide
    have hslug : '/' ∉ "ides".toList := by decide
    exact hinOrder _ hne hslug

end Template

end BlogRouting
