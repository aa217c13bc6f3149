import BlogRouting.Proofs.Content.Queries
import BlogRouting.Proofs.Routing.Attempts
import BlogRouting.Proofs.Routing.Canonical

/-!
# Stores that fail

A store is asked only when it is needed. An attempt asks the content store if the path that it is
made for matches with a date that fits in a query (`Permalink.Asks`), and otherwise gives nothing
whatever the store holds. So a content store that always fails is noticed by the requests for which
some attempt asks it, and by no other (`resolve_eq_error_iff_needsContent`). The store of redirects
is asked last, about the paths for which nothing else gives an answer
(`resolve_eq_error_iff_fallsThrough`).
-/

namespace BlogRouting

/-- The path matches, with a date that fits in a query. -/
def Permalink.Asks (permalink : Permalink) (path : String) : Prop :=
  ∃ found, permalink.match? path = some found ∧ found.params.FitsQuery

/-- A path makes a query if it asks for content. -/
theorem Permalink.isSome_query?_iff {permalink : Permalink} {path : String} :
    (permalink.query? path).isSome ↔ permalink.Asks path := by
  unfold query? Asks
  cases hmatch : permalink.match? path with
  | none => simp
  | some found =>
    rw [Option.bind_some, Query.isSome_ofParams?_iff (hasDigits_of_match? hmatch)]
    simp

theorem Permalink.query?_eq_none {permalink : Permalink} {path : String}
    (h : ¬ permalink.Asks path) : permalink.query? path = none := by
  rw [← isSome_query?_iff, Option.not_isSome_iff_eq_none] at h
  exact h

namespace Router

variable {router : Router} {path : String} {failure : StoreFailure}

/-- Some attempt at the path asks the content store. -/
def NeedsContent (router : Router) (path : String) : Prop :=
  router.permalink.Asks path ∨
    (router.legacy.template ≠ router.permalink.template ∧ router.legacy.Asks path) ∨
      ∃ rest, path = legacyRoot ++ rest ∧ router.legacy.Asks rest

/-- The legacy step tries the path itself, unless the formats are the same, and what is behind the
old root. -/
theorem mem_legacyCandidates_iff {candidate : String} :
    candidate ∈ router.legacyCandidates path ↔
      (router.legacy.template ≠ router.permalink.template ∧ candidate = path) ∨
        path = legacyRoot ++ candidate := by
  rw [legacyCandidates_eq, List.mem_append, mem_beneathLegacyRoot_iff]
  by_cases h : router.legacy.template = router.permalink.template <;> simp [h]

/-- A path needs content if the canonical step or a legacy candidate asks for some. -/
theorem needsContent_iff :
    router.NeedsContent path ↔
      router.permalink.Asks path ∨
        ∃ candidate ∈ router.legacyCandidates path, router.legacy.Asks candidate := by
  simp only [NeedsContent, mem_legacyCandidates_iff, or_and_right, exists_or, and_assoc]
  simp

/-! ## Attempts that ask and attempts that do not -/

/-- A step that asks for no content gives nothing, whatever the store does. -/
theorem canonical_of_not_asks (h : ¬ router.permalink.Asks path) :
    router.canonical path = .ok none :=
  canonical_eq_ok_none_iff.2 fun _ hmatch =>
    lookup_eq_ok_none_of_query? (Permalink.query?_eq_none h) hmatch

/-- A candidate that asks for no content gives nothing, whatever the store does. -/
theorem legacyTarget_of_not_asks (h : ¬ router.legacy.Asks path) :
    router.legacyTarget path = .ok none :=
  legacyTarget_eq_ok_none_iff.2 fun _ hmatch =>
    lookup_eq_ok_none_of_query? (Permalink.query?_eq_none h) hmatch

/-- Whatever the store holds, no content is found for a path that does not ask for any. -/
theorem fallsThrough_of_not_needsContent (h : ¬ router.NeedsContent path) :
    router.FallsThrough path := by
  rw [needsContent_iff, not_or] at h
  obtain ⟨hcanonical, hlegacy⟩ := h
  rw [fallsThrough_iff, firstAnswer_eq_ok_none_iff, contentAttempts]
  refine List.forall_mem_cons.2 ⟨canonical_of_not_asks hcanonical, ?_⟩
  refine List.forall_mem_map.2 fun candidate hcandidate => ?_
  exact legacyTarget_of_not_asks fun hasks => hlegacy ⟨candidate, hcandidate, hasks⟩

section Failing

variable (hfailing : ∀ query, router.stores.content query = .error failure)
include hfailing

/-- Over a store that fails, asking for content is failing. -/
theorem canonical_of_asks (h : router.permalink.Asks path) :
    router.canonical path = .error failure := by
  obtain ⟨query, hquery⟩ := Option.isSome_iff_exists.1 (Permalink.isSome_query?_iff.2 h)
  exact canonical_eq_error_iff.2 ⟨query, hquery, hfailing query⟩

/-- Over a store that fails, a candidate that asks for content fails. -/
theorem legacyTarget_of_asks (h : router.legacy.Asks path) :
    router.legacyTarget path = .error failure := by
  obtain ⟨query, hquery⟩ := Option.isSome_iff_exists.1 (Permalink.isSome_query?_iff.2 h)
  exact legacyTarget_eq_error_iff.2 ⟨query, hquery, hfailing query⟩

/-- Over a content store that always fails an attempt gives nothing or the failure. -/
theorem contentAttempts_of_failing {attempt : Attempt}
    (hattempt : attempt ∈ router.contentAttempts path) :
    attempt = .ok none ∨ attempt = .error failure := by
  rcases List.mem_cons.1 hattempt with rfl | hlegacy
  · by_cases h : router.permalink.Asks path
    · exact .inr (canonical_of_asks hfailing h)
    · exact .inl (canonical_of_not_asks h)
  · obtain ⟨candidate, -, rfl⟩ := List.mem_map.1 hlegacy
    by_cases h : router.legacy.Asks candidate
    · exact .inr (legacyTarget_of_asks hfailing h)
    · exact .inl (legacyTarget_of_not_asks h)

/-- If any attempt asks for content, one of them fails over a failing store. -/
theorem error_mem_contentAttempts (h : router.NeedsContent path) :
    .error failure ∈ router.contentAttempts path := by
  rcases needsContent_iff.1 h with hcanonical | ⟨candidate, hcandidate, hlegacy⟩
  · refine List.mem_cons.2 (.inl ?_)
    exact (canonical_of_asks hfailing hcanonical).symm
  · refine List.mem_cons_of_mem _ (List.mem_map.2 ⟨candidate, hcandidate, ?_⟩)
    exact legacyTarget_of_asks hfailing hlegacy

/-- The failure comes to light if some attempt asks the store. -/
theorem firstAnswer_of_needsContent (h : router.NeedsContent path) :
    firstAnswer (router.contentAttempts path) = .error failure := by
  have hne : firstAnswer (router.contentAttempts path) ≠ .ok none := by
    intro hnone
    have := firstAnswer_eq_ok_none_iff.1 hnone _ (error_mem_contentAttempts hfailing h)
    exact absurd this (by simp)
  rcases contentAttempts_of_failing hfailing (firstAnswer_mem hne) with hnone | herror
  · exact absurd hnone hne
  · exact herror

end Failing

/-- A store that never fails makes no attempt fail. -/
theorem ne_error_of_mem_contentAttempts
    (hstore : ∀ query, router.stores.content query ≠ .error failure) {attempt : Attempt}
    (hattempt : attempt ∈ router.contentAttempts path) : attempt ≠ .error failure := by
  intro herror
  subst herror
  rcases List.mem_cons.1 hattempt with hcanonical | hlegacy
  · obtain ⟨query, -, hquery⟩ := canonical_eq_error_iff.1 hcanonical.symm
    exact hstore query hquery
  · obtain ⟨candidate, -, htarget⟩ := List.mem_map.1 hlegacy
    obtain ⟨query, -, hquery⟩ := legacyTarget_eq_error_iff.1 htarget
    exact hstore query hquery

/-! ## What the stored redirects decide -/

/-- Where no content is found, the stored redirects decide. -/
theorem resolve_of_fallsThrough {rawPath : String}
    (h : router.FallsThrough (normalize rawPath router.baseUrl)) :
    router.resolve rawPath = settled (router.redirectStep (normalize rawPath router.baseUrl)) := by
  rw [resolve_eq_firstAnswer, firstAnswer_append, fallsThrough_iff.1 h, firstAnswer,
    firstAnswer_singleton]

/-- Where content is found or looking for it fails, the stored redirects are not asked. -/
theorem resolve_of_not_fallsThrough {rawPath : String}
    (h : ¬ router.FallsThrough (normalize rawPath router.baseUrl)) :
    router.resolve rawPath
      = settled (firstAnswer (router.contentAttempts (normalize rawPath router.baseUrl))) := by
  rw [fallsThrough_iff] at h
  rw [resolve_eq_firstAnswer, firstAnswer_append, firstAnswer_cons_of_ne h]

theorem redirectStep_eq_error_iff :
    router.redirectStep path = .error failure ↔
      router.stores.redirects path = .error failure := by
  unfold redirectStep
  rw [bind_eq_error_iff]
  refine or_iff_left ?_
  rintro ⟨result, -, hrest⟩
  cases result <;> exact absurd hrest (by simp [pure, Except.pure])

/-! ## Which requests fail -/

/-- Over a content store that always fails, the failure is the answer if and only if some attempt
asks the store, as long as the store of redirects does not fail likewise. -/
theorem resolve_eq_error_iff_needsContent {rawPath : String}
    (hcontent : ∀ query, router.stores.content query = .error failure)
    (hredirects : ∀ path, router.stores.redirects path ≠ .error failure) :
    router.resolve rawPath = .error failure ↔
      router.NeedsContent (normalize rawPath router.baseUrl) := by
  refine ⟨?_, ?_⟩
  · intro herror
    by_contra hneeds
    -- else the redirects decide, and they do not fail like that
    rw [resolve_of_fallsThrough (fallsThrough_of_not_needsContent hneeds), settled_eq_error_iff,
      redirectStep_eq_error_iff] at herror
    exact hredirects _ herror
  · intro hneeds
    rw [resolve_eq_firstAnswer, firstAnswer_append, firstAnswer_of_needsContent hcontent hneeds]
    rfl

/-- Over a store of redirects that always fails, the failure is the answer if and only if the
request falls through to it, as long as the content store does not fail likewise. -/
theorem resolve_eq_error_iff_fallsThrough {rawPath : String}
    (hcontent : ∀ query, router.stores.content query ≠ .error failure)
    (hredirects : ∀ path, router.stores.redirects path = .error failure) :
    router.resolve rawPath = .error failure ↔
      router.FallsThrough (normalize rawPath router.baseUrl) := by
  refine ⟨?_, ?_⟩
  · intro herror
    by_contra hthrough
    rw [resolve_of_not_fallsThrough hthrough, settled_eq_error_iff] at herror
    -- then some attempt has failed, and none does
    have hmem := firstAnswer_mem (herror.trans_ne (by simp))
    exact ne_error_of_mem_contentAttempts hcontent hmem herror
  · intro hthrough
    rw [resolve_of_fallsThrough hthrough, settled_eq_error_iff, redirectStep_eq_error_iff]
    exact hredirects _

/-! ## Which requests do not see a store -/

section OtherStores

variable {content : Query → Except StoreFailure (List Content)}
  {redirects : String → Except StoreFailure (Option Redirect)} {rawPath : String}

theorem contentAttempts_withRedirects :
    (router.withRedirects redirects).contentAttempts path = router.contentAttempts path := rfl

theorem fallsThrough_withRedirects :
    (router.withRedirects redirects).FallsThrough path ↔ router.FallsThrough path := by
  rw [fallsThrough_iff, fallsThrough_iff, contentAttempts_withRedirects]

/-- A request for which no attempt asks the content store is answered the same over any. -/
theorem resolve_withContent_eq (h : ¬ router.NeedsContent (normalize rawPath router.baseUrl)) :
    (router.withContent content).resolve rawPath = router.resolve rawPath := by
  have hthrough : (router.withContent content).FallsThrough (normalize rawPath router.baseUrl) :=
    fallsThrough_of_not_needsContent h
  rw [resolve_of_fallsThrough hthrough,
    resolve_of_fallsThrough (fallsThrough_of_not_needsContent h)]
  rfl

/-- A request that does not fall through to the stored redirects is answered the same over any. -/
theorem resolve_withRedirects_eq (h : ¬ router.FallsThrough (normalize rawPath router.baseUrl)) :
    (router.withRedirects redirects).resolve rawPath = router.resolve rawPath := by
  have hthrough :
      ¬ (router.withRedirects redirects).FallsThrough (normalize rawPath router.baseUrl) := by
    rwa [fallsThrough_withRedirects]
  rw [resolve_of_not_fallsThrough hthrough, resolve_of_not_fallsThrough h]
  rw [contentAttempts_withRedirects]
  rfl

/-- What falls through is not found where there are no redirects. -/
theorem resolve_withRedirects_empty (h : router.FallsThrough (normalize rawPath router.baseUrl)) :
    (router.withRedirects RedirectTable.empty.answer).resolve rawPath = .ok .notFound := by
  have hthrough : (router.withRedirects RedirectTable.empty.answer).FallsThrough
      (normalize rawPath router.baseUrl) := fallsThrough_withRedirects.2 h
  rw [resolve_of_fallsThrough hthrough]
  rfl

end OtherStores

/-- What a path asks for does not depend on what the store holds. -/
theorem needsContent_withContent {content : Query → Except StoreFailure (List Content)} :
    (router.withContent content).NeedsContent path ↔ router.NeedsContent path := Iff.rfl

theorem needsContent_withRedirects {redirects : String → Except StoreFailure (Option Redirect)} :
    (router.withRedirects redirects).NeedsContent path ↔ router.NeedsContent path := Iff.rfl

/-- A store that fails comes to light exactly when it is needed. A content store that always fails
makes the request fail if some attempt at it asks for content, and otherwise the request is answered
as over any other content store, an empty one for example. With the content in memory, stored
redirects make a difference to a request only if nothing else is found for it, and exactly then a
store of redirects that always fails makes the request fail. -/
theorem resolve_fails_as_needed (router : Router) (store : ContentStore) (table : RedirectTable)
    (redirects : String → Except StoreFailure (Option Redirect)) (text rawPath : String) :
    let path := normalize rawPath router.baseUrl
    let redirecting := router.withRedirects table.answer
    let failingContent := redirecting.withContent fun _ => .error ⟨text⟩
    let stored := router.withContent store.answer
    let unredirected := stored.withRedirects RedirectTable.empty.answer
    let failingRedirects := stored.withRedirects fun _ => .error ⟨text⟩
    (failingContent.resolve rawPath = .error ⟨text⟩ ↔ router.NeedsContent path) ∧
    (¬ router.NeedsContent path →
      ∀ content,
        failingContent.resolve rawPath = (redirecting.withContent content).resolve rawPath) ∧
    ((stored.withRedirects redirects).resolve rawPath ≠ unredirected.resolve rawPath →
      unredirected.resolve rawPath = .ok .notFound ∧ stored.FallsThrough path) ∧
    (failingRedirects.resolve rawPath = .error ⟨text⟩ ↔
      unredirected.resolve rawPath = .ok .notFound ∧ stored.FallsThrough path) := by
  intro path redirecting failingContent stored unredirected failingRedirects
  have hempty (h : stored.FallsThrough path) : unredirected.resolve rawPath = .ok .notFound :=
    resolve_withRedirects_empty h
  refine ⟨?_, fun hneeds content => ?_, fun hdiffers => ?_, ?_⟩
  · have hredirects (path : String) : failingContent.stores.redirects path ≠ .error ⟨text⟩ := by
      simp [failingContent, redirecting, withContent, withRedirects, RedirectTable.answer]
    rw [resolve_eq_error_iff_needsContent (fun _ => rfl) hredirects]
    exact needsContent_withContent.trans needsContent_withRedirects
  · -- both stores give what `redirecting` itself gives
    have hneeds' : ¬ redirecting.NeedsContent (normalize rawPath redirecting.baseUrl) := by
      rwa [needsContent_withRedirects]
    rw [resolve_withContent_eq hneeds', resolve_withContent_eq hneeds']
  · -- a request that is answered before is answered the same over both
    have hthrough : stored.FallsThrough path := by
      by_contra h
      refine hdiffers ?_
      rw [resolve_withRedirects_eq h, resolve_withRedirects_eq h]
    exact ⟨hempty hthrough, hthrough⟩
  · have hcontent (query : Query) : failingRedirects.stores.content query ≠ .error ⟨text⟩ := by
      simp [failingRedirects, stored, withContent, withRedirects, ContentStore.answer]
    rw [resolve_eq_error_iff_fallsThrough hcontent fun _ => rfl]
    have hsteps : failingRedirects.FallsThrough (normalize rawPath failingRedirects.baseUrl) ↔
        stored.FallsThrough path := fallsThrough_withRedirects
    rw [hsteps]
    exact ⟨fun h => ⟨hempty h, h⟩, fun h => h.2⟩

/-- `about` is no post, so only the stored redirects are asked about it. -/
theorem resolve_fails_as_needed_about :
    let router := inMemory .yearTitle .yearTitle .blog .empty .empty
    let table : RedirectTable := ⟨[⟨"about", "2004/hello"⟩]⟩
    let redirecting := router.withRedirects table.answer
    let stored := router.withContent (ContentStore.answer ⟨[.hello]⟩)
    let unredirected := stored.withRedirects RedirectTable.empty.answer
    (redirecting.withContent fun _ => .error ⟨"down"⟩).resolve "/blog/about"
      = (redirecting.withContent ContentStore.empty.answer).resolve "/blog/about" ∧
    (stored.withRedirects table.answer).resolve "/blog/about" ≠ unredirected.resolve "/blog/about" ∧
    unredirected.resolve "/blog/about" = .ok .notFound := by
  intro router table redirecting stored unredirected
  have hmatch : Permalink.yearTitle.match? (normalize "/blog/about" .blog) = none := by
    decide +kernel
  have hneeds : ¬ router.NeedsContent (normalize "/blog/about" .blog) := by
    rintro (⟨found, hfound, -⟩ | ⟨hdiffer, -⟩ | ⟨rest, hrest, -⟩)
    · exact absurd (hmatch.symm.trans hfound) (by simp)
    · exact hdiffer rfl
    · have hprefix :
          legacyRoot.toList.isPrefixOf? (normalize "/blog/about" .blog).toList = none := by
        decide +kernel
      rw [isPrefixOf?_eq_some_iff.2 ((congrArg String.toList hrest).trans String.toList_append)]
        at hprefix
      exact absurd hprefix (by simp)
  have hredirected : (stored.withRedirects table.answer).resolve "/blog/about"
      = .ok (.permanentRedirect "http://myblog.net/blog/2004/hello") :=
    eq_ok_of_toOption (by decide +kernel)
  have hunredirected : unredirected.resolve "/blog/about" = .ok .notFound :=
    eq_ok_of_toOption (by decide +kernel)
  have hdiffers : (stored.withRedirects table.answer).resolve "/blog/about"
      ≠ unredirected.resolve "/blog/about" := by
    rw [hredirected, hunredirected]
    simp
  obtain ⟨-, hcontent, hredirects, -⟩ :=
    resolve_fails_as_needed router ⟨[.hello]⟩ table table.answer "down" "/blog/about"
  exact ⟨hcontent hneeds _, hdiffers, (hredirects hdiffers).1⟩

end Router

end BlogRouting
