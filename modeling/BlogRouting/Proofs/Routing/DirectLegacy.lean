import BlogRouting.Proofs.Routing.Attempts
import BlogRouting.Proofs.Routing.Canonical

/-!
# The path itself in the legacy format

The legacy format is not tried on the path itself if the current template is the legacy one. This
only saves an attempt. A template matches by its segments (`Template.match?_congr`), so under the
same segments the legacy format finds on the path itself what the canonical step looked up before:
where the canonical step gives nothing, so does this attempt (`legacyTarget_of_same_segments`), and
where it gives anything, be it the failure of a store, this attempt is not made.
-/

namespace BlogRouting

/-- The source text of a template makes no difference to what it matches. -/
theorem Template.match?_congr {a b : Template} (h : a.segments = b.segments) (path : String) :
    a.match? path = b.match? path := by
  have hcapture (text : List Char) : a.capture? text = b.capture? text := by
    rw [capture?, capture?, h]
  unfold match? matchFeed?
  simp only [hcapture]

namespace Router

variable {router : Router} {path : String}

/-- The paths to try the legacy format on if the path itself is never left out. -/
def everyCandidate (path : String) : List String :=
  path :: beneathLegacyRoot path

/-- Where the segments are the same, the legacy format matches what the canonical one has matched,
and so finds nothing either. -/
theorem legacyTarget_of_same_segments
    (hsegments : router.legacy.template.segments = router.permalink.template.segments)
    (h : router.canonical path = .ok none) : router.legacyTarget path = .ok none := by
  rw [legacyTarget_eq_ok_none_iff]
  intro found hmatch
  have hcurrent : router.permalink.match? path = some found := by
    rw [← hmatch]
    exact Template.match?_congr hsegments.symm path
  exact canonical_eq_ok_none_iff.1 h found hcurrent

/-- Under the same segments it makes no difference whether the path itself is tried. -/
theorem resolveTrying_everyCandidate
    (hsegments : router.legacy.template.segments = router.permalink.template.segments)
    (rawPath : String) :
    router.resolveTrying everyCandidate rawPath
      = router.resolveTrying beneathLegacyRoot rawPath := by
  rw [resolveTrying_eq_firstAnswer, resolveTrying_eq_firstAnswer, everyCandidate, List.map_cons,
    List.cons_append, firstAnswer_skip (legacyTarget_of_same_segments hsegments)]

/-- It makes no difference to try the path itself with the legacy format, also where the router does
not. -/
theorem resolve_eq_everyCandidate (router : Router) (rawPath : String) :
    router.resolve rawPath = router.resolveTrying everyCandidate rawPath := by
  rw [resolve_eq_resolveTrying]
  by_cases h : router.legacy.template = router.permalink.template
  · have hcandidates : router.legacyCandidates = beneathLegacyRoot := by
      funext path
      rw [legacyCandidates_eq, if_pos h, List.nil_append]
    rw [hcandidates, resolveTrying_everyCandidate (congrArg Template.segments h)]
  · have hcandidates : router.legacyCandidates = everyCandidate := by
      funext path
      rw [legacyCandidates_eq, if_neg h]
      rfl
    rw [hcandidates]

/-- What redirects a path is the legacy format on one of the candidates or a stored redirect. -/
theorem redirects_of_resolveTrying {candidates : String → List String} {rawPath location : String}
    (h : router.resolveTrying candidates rawPath = .ok (.permanentRedirect location)) :
    let path := normalize rawPath router.baseUrl
    (∃ candidate ∈ candidates path,
        router.legacyTarget candidate = .ok (some (.permanentRedirect location))) ∨
      ∃ redirect, router.stores.redirects path = .ok (some redirect) := by
  intro path
  have hanswer : firstAnswer (router.canonical path
      :: ((candidates path).map router.legacyTarget ++ [router.redirectStep path]))
        = .ok (some (.permanentRedirect location)) := by
    rw [resolveTrying_eq_firstAnswer, settled_eq_ok_iff] at h
    rcases h with hsome | ⟨-, himpossible⟩
    · exact hsome
    · exact absurd himpossible (by simp)
  have hmem := firstAnswer_mem (hanswer.trans_ne (by simp))
  rw [hanswer, List.mem_cons, List.mem_append, List.mem_singleton] at hmem
  rcases hmem with hcanonical | hlegacy | hredirect
  · -- the canonical step redirects nothing
    obtain ⟨found, item, revisions, -, -, houtcome⟩ := canonical_eq_ok_some_iff.1 hcanonical.symm
    cases hlatest : Revision.latest? item revisions <;>
      simp [hlatest, Outcome.ofRevision] at houtcome
  · obtain ⟨candidate, hcandidate, htarget⟩ := List.mem_map.1 hlegacy
    exact .inl ⟨candidate, hcandidate, htarget⟩
  · obtain ⟨redirect, hstored, -⟩ := redirectStep_eq_ok_some_iff.1 hredirect.symm
    exact .inr ⟨redirect, hstored⟩

/-- That the legacy format is not always tried on the path itself makes no difference to any
request, whatever the stores answer. Under formats with the same segments the path itself never
leads anywhere, and only a path beneath `articles/` or one with a stored redirect is redirected. -/
theorem resolve_eq_trying_every (router : Router) (rawPath : String) :
    let path := normalize rawPath router.baseUrl
    router.resolve rawPath = router.resolveTrying everyCandidate rawPath ∧
    (router.legacy.template.segments = router.permalink.template.segments →
      (router.canonical path = .ok none → router.legacyTarget path = .ok none) ∧
      router.resolve rawPath = router.resolveTrying beneathLegacyRoot rawPath ∧
      ∀ location, router.resolve rawPath = .ok (.permanentRedirect location) →
        (∃ rest, path = legacyRoot ++ rest) ∨
          ∃ redirect, router.stores.redirects path = .ok (some redirect)) := by
  refine ⟨resolve_eq_everyCandidate router rawPath, fun hsegments => ?_⟩
  have hbeneath : router.resolve rawPath = router.resolveTrying beneathLegacyRoot rawPath := by
    rw [resolve_eq_everyCandidate, resolveTrying_everyCandidate hsegments]
  refine ⟨legacyTarget_of_same_segments hsegments, hbeneath, fun location h => ?_⟩
  rw [hbeneath] at h
  rcases redirects_of_resolveTrying h with ⟨rest, hrest, -⟩ | hstored
  · exact .inl ⟨rest, mem_beneathLegacyRoot_iff.1 hrest⟩
  · exact .inr hstored

/-- The default format without its slash in front is another text with the same segments. Under it
an old path beneath `articles` is still redirected. -/
theorem resolve_eq_trying_every_articles :
    ∃ legacy permalink, Permalink.default = .ok legacy ∧
      Permalink.compile "%year%/%month%/%day%/%title%" = .ok permalink ∧
      legacy.template ≠ permalink.template ∧
      let router := inMemory permalink legacy .blog ⟨[.hello]⟩ .empty
      router.resolve "/blog/articles/2004/4/1/hello"
        = .ok (.permanentRedirect "http://myblog.net/blog/2004/4/1/hello") ∧
      ((∃ rest, normalize "/blog/articles/2004/4/1/hello" .blog = legacyRoot ++ rest) ∨
        ∃ redirect, router.stores.redirects (normalize "/blog/articles/2004/4/1/hello" .blog)
          = .ok (some redirect)) := by
  let segments : List Segment := [.placeholder .year, .literal "/", .placeholder .month,
    .literal "/", .placeholder .day, .literal "/", .placeholder .title]
  let legacy : Permalink := ⟨"/%year%/%month%/%day%/%title%", segments⟩
  let permalink : Permalink := ⟨"%year%/%month%/%day%/%title%", segments⟩
  have hlegacy : Permalink.default = .ok legacy := eq_ok_of_toOption (by decide +kernel)
  have hpermalink : Permalink.compile "%year%/%month%/%day%/%title%" = .ok permalink :=
    eq_ok_of_toOption (by decide +kernel)
  have hresolve : (inMemory permalink legacy .blog ⟨[.hello]⟩ .empty).resolve
      "/blog/articles/2004/4/1/hello"
        = .ok (.permanentRedirect "http://myblog.net/blog/2004/4/1/hello") :=
    eq_ok_of_toOption (by decide +kernel)
  have hredirected := ((resolve_eq_trying_every (inMemory permalink legacy .blog ⟨[.hello]⟩ .empty)
    "/blog/articles/2004/4/1/hello").2 rfl).2.2 _ hresolve
  exact ⟨legacy, permalink, hlegacy, hpermalink, by decide, hresolve, hredirected⟩

end Router

end BlogRouting
