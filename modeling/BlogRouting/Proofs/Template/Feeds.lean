import BlogRouting.Proofs.Template.Rendering

/-!
# Pages and their feeds

The path of a post has just the dots that the literals have, and a text that fits the template has
at least as many. The path without the ending of a feed has one too few, even where the ending was
put together from a literal and the title, so the path of a page is never taken for that of a feed
(`isPage_generate`). Behind the path of a page the ending asks for the feed of that page
(`Template.answers_suffix_iff`).
-/

namespace BlogRouting

namespace Template

variable {format : String} {t : Template} {path : List Char} {params : Params} {mode : Mode}

/-- The path is not that of a feed: it does not fit without the ending of one. -/
def IsPage (t : Template) (path : List Char) : Prop :=
  ∀ mode ≠ Mode.html, ∀ post, IsFeedOf mode path post → t.capture? post = none

/-- The path of an item whose slug has no dot is that of a page. -/
theorem isPage_generate {content : Content} (hslug : '.' ∉ content.permalink.toList) :
    t.IsPage (t.generate content).toList := by
  intro mode hmode post hfeed
  have hdot : '.' ∈ mode.suffix.toList := by
    cases mode with
    | html => exact absurd rfl hmode
    | atom | rss => decide
  refine capture?_eq_none_of_isFeedOf (fun p _ => ?_) hdot hfeed
  exact content.notMem_value (by decide) (by decide) hslug p

/-- The path of a page is matched as it stands and never as that of a feed. -/
theorem IsPage.answers_iff (h : t.IsPage path) :
    t.Answers path ⟨params, mode⟩ ↔ mode = .html ∧ t.capture? path = some params := by
  refine ⟨?_, ?_⟩
  · intro hanswers
    cases hanswers with
    | atom hfeed hc => exact absurd hc (by simp [h .atom (by decide) _ hfeed])
    | rss _ hfeed hc => exact absurd hc (by simp [h .rss (by decide) _ hfeed])
    | html _ _ hc => exact ⟨rfl, hc⟩
  · intro h'
    obtain ⟨rfl, hc⟩ := h'
    exact .html (h .atom (by decide)) (h .rss (by decide)) hc

end Template

/-- The path of an item whose slug has no dots is that of a page, and with the ending of a feed
behind it it is answered as that feed of whatever the page is answered as. -/
theorem Permalink.match?_generate_feed {format : String} {permalink : Permalink}
    {content : Content} (h : Permalink.compile format = .ok permalink)
    (hslug : '.' ∉ content.permalink.toList) :
    let path := permalink.template.generate content
    (∀ m, permalink.match? path = some m → m.mode = .html) ∧
    ∀ mode ≠ .html, ∀ params, permalink.match? (path ++ mode.suffix) = some ⟨params, mode⟩ ↔
      permalink.match? path = some ⟨params, .html⟩ := by
  intro path
  have hpage : permalink.template.IsPage path.toList := Template.isPage_generate hslug
  refine ⟨fun m hm => ?_, fun mode hmode params => ?_⟩
  · obtain ⟨hmode, -⟩ := hpage.answers_iff.1 (Template.match?_eq_some_iff.1 hm)
    exact hmode
  · rw [match?, match?, Template.match?_eq_some_iff, Template.match?_eq_some_iff,
      String.toList_append, Template.answers_suffix_iff (isCompiled h) hmode, hpage.answers_iff]
    simp

/-- A title that a literal completes to the ending of a feed is still the title of a page, and that
page has a feed. -/
theorem Permalink.match?_generate_feed_across :
    ∃ permalink, Permalink.compile "/%year%/.at%title%" = .ok permalink ∧
      permalink.match? "2004/.atom"
        = some ⟨{ year := some "2004", title := some "om" }, .html⟩ ∧
      permalink.match? "2004/.atom.rss"
        = some ⟨{ year := some "2004", title := some "om" }, .rss⟩ := by
  let permalink : Permalink :=
    ⟨"/%year%/.at%title%", [.placeholder .year, .literal "/.at", .placeholder .title]⟩
  have hcompile : Permalink.compile "/%year%/.at%title%" = .ok permalink :=
    eq_ok_of_toOption (by decide +kernel)
  let content : Content :=
    { id := 1, title := "Om", permalink := "om", publishedAt := ⟨2004, 4, 1, 0, 0, 0, 0⟩ }
  have hpath : permalink.template.generate content = "2004/.atom" := by decide +kernel
  have hpage : permalink.match? "2004/.atom"
      = some ⟨{ year := some "2004", title := some "om" }, .html⟩ := by decide +kernel
  have hslug : '.' ∉ content.permalink.toList := by decide
  obtain ⟨-, hfeed⟩ := Permalink.match?_generate_feed hcompile hslug
  rw [hpath] at hfeed
  exact ⟨permalink, hcompile, hpage, (hfeed .rss (by decide) _).2 hpage⟩

end BlogRouting
