import BlogRouting.Proofs.Template.Rendering
import BlogRouting.Proofs.Url.Addresses

/-!
# Generated paths

A format whose placeholders are told apart by what stands between them (`Template.IsClear`) gives
every item whose date and slug can stand in a URL (`Content.IsAddressable`) a path that is matched
in every mode (`answers_generate`) and that a URL leads back to (`isRelative_generate`).
-/

namespace BlogRouting

/-- The placeholders stand apart, no digits border on them from between, and a URL takes the
literals as they are. -/
structure Template.IsClear (t : Template) : Prop where
  not_adjacent : ∀ {front back p q},
    t.segments ≠ front ++ .placeholder p :: .placeholder q :: back
  borders : ∀ {front back p q text},
    t.segments = front ++ .placeholder p :: .literal text :: .placeholder q :: back →
      StartsOffDigits text.toList ∧ EndsOffDigits text.toList
  ordinary : ∀ {text}, .literal text ∈ t.segments → ∀ c ∈ text.toList, IsOrdinary c

/-- A URL can lead to the item: its date exists and is in no year before zero, its slug is one piece
of a path, and no segment of its path is dots. -/
structure Content.IsAddressable (t : Template) (content : Content) : Prop where
  date : content.publishedAt.isValid = true
  year : 0 ≤ content.publishedAt.year
  slug : Placeholder.title.IsValue content.permalink
  ordinary : ∀ c ∈ content.permalink.toList, IsOrdinary c
  no_dots : ∀ piece ∈ (t.generate content).toList.splitOn '/', piece ≠ ['.'] ∧ piece ≠ ['.', '.']

namespace Template

variable {format : String} {t : Template} {values : Placeholder → String}

/-! ## Borders -/

/-- What stands between two placeholders separates them on either side. -/
theorem IsClear.separates (h : t.IsClear) (hcompiled : IsCompiled format t) :
    t.Separates values := by
  refine ⟨?_, ?_⟩
  · intro front back hsegments
    refine List.isChain_iff_forall_rel_of_append_cons_cons.2 ?_
    rintro segment next before after hsplit ⟨p, rfl⟩
    have hplace : t.segments = before ++ .placeholder p :: next :: (after ++ back) := by
      rw [hsegments, ← List.singleton_append, ← List.append_assoc, hsplit]
      simp
    cases next with
    | placeholder q => exact absurd hplace h.not_adjacent
    | literal text =>
      -- the title stands last, so something follows the literal
      cases after with
      | nil =>
        have := congrArg List.getLast? hsplit
        simp at this
      | cons following after =>
        cases following with
        | literal other =>
          rw [← List.singleton_append, ← List.append_assoc] at hplace
          exact absurd hplace hcompiled.not_adjacent
        | placeholder q => exact (h.borders hplace).1
  · intro front back hsegments
    refine List.isChain_iff_forall_rel_of_append_cons_cons.2 ?_
    rintro prior segment before after hsplit ⟨p, rfl⟩
    have hplace : t.segments = (front ++ before) ++ prior :: .placeholder p :: after := by
      rw [hsegments, hsplit, List.append_assoc]
    cases prior with
    | placeholder q => exact absurd hplace h.not_adjacent
    | literal text =>
      -- the title stands first, so something precedes the literal
      rcases List.eq_nil_or_concat before with rfl | ⟨before, preceding, rfl⟩
      · exact absurd hsplit (by simp)
      · cases preceding with
        | literal other =>
          have hplace' : t.segments = (front ++ before) ++ .literal other :: .literal text ::
              .placeholder p :: after := by simpa using hplace
          exact absurd hplace' hcompiled.not_adjacent
        | placeholder q =>
          have hplace' : t.segments = (front ++ before) ++ .placeholder q :: .literal text ::
              .placeholder p :: after := by simpa using hplace
          exact (h.borders hplace').2

end Template

/-! ## Paths of content -/

/-- The suffix of a mode is read as it stands in any path. -/
theorem Mode.not_mem_suffix (mode : Mode) :
    '/' ∉ mode.suffix.toList ∧ ∀ c ∈ mode.suffix.toList, IsOrdinary c := by
  cases mode <;> simp [Mode.suffix, IsOrdinary]

/-- A digit means nothing else in a path. -/
theorem isOrdinary_of_isDigit {c : Char} (h : c.isDigit) : IsOrdinary c := by
  simp only [Char.isDigit, Bool.and_eq_true, decide_eq_true_eq, ge_iff_le,
    UInt32.le_iff_toNat_le] at h
  have hval : c.toNat = c.val.toNat := rfl
  have hlow : '0'.val.toNat = 48 := rfl
  have hhigh : '9'.val.toNat = 57 := rfl
  refine ⟨?_, ?_, ?_, by omega, by omega⟩
  all_goals
    rintro rfl
    exact absurd h (by decide)

namespace Template

variable {format : String} {t : Template} {content : Content}

/-- The path of addressable content is read as it stands, since its format, its slug and its date
are. -/
theorem isOrdinary_of_mem_generate (hclear : t.IsClear) (h : content.IsAddressable t) {c : Char}
    (hc : c ∈ (t.generate content).toList) : IsOrdinary c := by
  unfold generate at hc
  rw [toList_fill] at hc
  obtain ⟨segment, hsegment, hc⟩ := List.mem_flatMap.1 hc
  cases segment with
  | literal text => exact hclear.ordinary hsegment c hc
  | placeholder p =>
    by_cases hp : p = .title
    · subst hp
      exact h.ordinary c hc
    · exact isOrdinary_of_isDigit ((content.isValue h.year h.slug p).isDigit hp c hc)

/-- The ending of a feed makes the last piece too long to be dots. -/
theorem no_dots_generate_suffix (h : content.IsAddressable t) (mode : Mode) {piece : List Char}
    (hpiece : piece ∈ ((t.generate content).toList ++ mode.suffix.toList).splitOn '/') :
    piece ≠ ['.'] ∧ piece ≠ ['.', '.'] := by
  -- the ending of a feed makes the last piece longer and leaves the others
  obtain ⟨front, last, hpath, hboth⟩ :=
    Url.splitOn_append_of_not_mem (t.generate content).toList mode.not_mem_suffix.1
  have hdots := h.no_dots
  rw [hpath] at hdots
  rw [hboth, List.mem_append, List.mem_singleton] at hpiece
  rcases hpiece with hpiece | rfl
  · exact hdots piece (List.mem_append_left _ hpiece)
  · cases mode with
    | html => simpa [Mode.suffix] using hdots last (by simp)
    | atom | rss =>
      refine ⟨?_, ?_⟩ <;> intro hdot <;> simpa [Mode.suffix] using congrArg List.length hdot

/-- A URL leads back to the path of an item, whatever mode is asked for. -/
theorem isRelative_generate (hcompiled : IsCompiled format t) (hclear : t.IsClear)
    (h : content.IsAddressable t) (mode : Mode) :
    IsRelative (t.generate content ++ mode.suffix).toList := by
  have hvalues (p : Placeholder) (_ : t.has p = true) : p.IsValue (content.value p) :=
    content.isValue h.year h.slug p
  have hplain (p : Placeholder) (hp : t.has p = true) :
      content.value p ≠ "" ∧ '/' ∉ (content.value p).toList :=
    ⟨(hvalues p hp).not_mem.1, (hvalues p hp).not_mem.2.1⟩
  obtain ⟨hslash, hordinary⟩ := mode.not_mem_suffix
  obtain ⟨hsingle, hhead⟩ := hcompiled.areSingle_fill hplain
  have hne := toList_fill_ne_nil hcompiled hvalues
  rw [String.toList_append]
  refine ⟨?_, ?_, fun c hc => ?_, fun piece => no_dots_generate_suffix h mode⟩
  · exact Slashes.areSingle_append.2 ⟨hsingle, Slashes.areSingle_of_not_mem hslash,
      fun hends => hslash (List.mem_of_head? hends.2)⟩
  · show ((t.fill content.value).toList ++ _).head? ≠ some '/'
    rwa [List.head?_append_of_ne_nil _ hne]
  · rcases List.mem_append.1 hc with hc | hc
    · exact isOrdinary_of_mem_generate hclear h hc
    · exact hordinary c hc

/-- The path of an item says its slug and its date, and asks for the mode behind it. -/
theorem answers_generate (hcompiled : IsCompiled format t) (hclear : t.IsClear)
    (h : content.IsAddressable t) (mode : Mode) :
    ∃ params, t.Answers (t.generate content ++ mode.suffix).toList ⟨params, mode⟩ ∧
      ∀ p, params.get? p = if t.has p then some (content.value p) else none :=
  answers_fill_suffix hcompiled (fun p _ => content.isValue h.year h.slug p)
    (hclear.separates hcompiled) mode

end Template

/-! ## A site

A format, a base URL and a post for which all of the above holds. -/

def Permalink.yearTitle : Permalink :=
  ⟨"/%year%/%title%", [.placeholder .year, .literal "/", .placeholder .title]⟩

theorem Permalink.compile_yearTitle : compile "/%year%/%title%" = .ok yearTitle :=
  eq_ok_of_toOption (by decide +kernel)

/-- The format of the examples has no characters that mean something else in a path. -/
theorem Permalink.isClear_yearTitle : yearTitle.template.IsClear := by
  refine ⟨?_, ?_, ?_⟩
  · intro front back p q h
    rcases front with _ | ⟨_, _ | ⟨_, _ | ⟨_, front⟩⟩⟩ <;> simp [yearTitle] at h
  · intro front back p q text h
    rcases front with _ | ⟨_, _ | ⟨_, _ | ⟨_, front⟩⟩⟩ <;> simp [yearTitle] at h
    obtain ⟨-, rfl, -⟩ := h
    exact ⟨⟨'/', by decide, by decide⟩, '/', by decide, by decide⟩
  · intro text h
    have htext : text = "/" := by simpa [yearTitle] using h
    subst htext
    simp [IsOrdinary]

def Url.blog : Url :=
  ⟨"http", .authority { host := .name "myblog.net" }, .segments ["blog", ""], none, none⟩

theorem Url.parse_blog : parse "http://myblog.net/blog/" = .ok blog :=
  eq_ok_of_toOption (by decide +kernel)

/-- The site of the examples is one of the web, without two slashes in a row. -/
theorem Url.isBase_blog : blog.IsBase :=
  ⟨.parse parse_blog, .inl rfl, by decide +kernel⟩

def Content.hello : Content :=
  { id := 1, title := "Hello", permalink := "hello", publishedAt := ⟨2004, 4, 1, 0, 0, 0, 0⟩ }

theorem Content.isAddressable_hello : hello.IsAddressable Permalink.yearTitle.template :=
  ⟨by decide, by decide, ⟨by decide, by decide, by decide⟩, by simp [hello, IsOrdinary],
    by decide +kernel⟩

end BlogRouting
