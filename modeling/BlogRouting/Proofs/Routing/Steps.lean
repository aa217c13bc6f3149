import BlogRouting.Routing.Resolve

/-!
# What the steps do

Each step of resolving a request, read as what has to be the case for it to have an answer: the
lookup (`lookup_eq_ok_some_iff`), the canonical step (`canonical_eq_ok_some_iff`), the target of a
legacy path (`legacyTarget_eq_ok_some_iff`), the search for the first of them
(`exists_of_legacyStep`) and the step that looks for a redirect (`redirectStep_eq_ok_some_iff`).
The answer to a path is that of the first step that has one (`resolve_eq_ok_iff`), and of the
steps only the canonical one serves content (`canonical_of_resolves_found`).
-/

namespace BlogRouting

/-- One computation after another succeeds if both do, and with what the second gives. -/
theorem bind_eq_ok_iff {ε α β : Type} {x : Except ε α} {f : α → Except ε β} {b : β} :
    (x >>= f) = .ok b ↔ ∃ a, x = .ok a ∧ f a = .ok b := by
  cases x <;> simp [bind, Except.bind]

/-- What is answered once the newest revision has been looked for. -/
def Outcome.ofRevision (mode : Mode) : Option Content → Outcome
  | some content => .found content mode
  | none => .notFound

namespace Router

variable {router : Router} {path : String} {params : Params} {item : Content}
  {candidates : List Content} {outcome : Outcome}

/-- A lookup finds the first published item that the store gives for its query, together with all
that the store gives. -/
theorem lookup_eq_ok_some_iff :
    router.lookup params = .ok (some (item, candidates)) ↔
      ∃ query, Query.ofParams? params = some query ∧
        router.stores.content query = .ok candidates ∧
        candidates.find? (·.published) = some item := by
  unfold lookup
  cases Query.ofParams? params with
  | none => simp [pure, Except.pure]
  | some query =>
    simp only [bind_eq_ok_iff, pure, Except.pure, Except.ok.injEq, Option.map_eq_some_iff,
      Prod.mk.injEq, Option.some.injEq]
    refine ⟨?_, ?_⟩
    · intro h
      obtain ⟨found, hfound, item, hitem, rfl, rfl⟩ := h
      exact ⟨query, rfl, hfound, hitem⟩
    · intro h
      obtain ⟨query, rfl, hfound, hitem⟩ := h
      exact ⟨candidates, hfound, item, hitem, rfl, rfl⟩

/-- The canonical step answers a path that it matches and that an item is found for, by the newest
version of the item. -/
theorem canonical_eq_ok_some_iff :
    router.canonical path = .ok (some outcome) ↔
      ∃ found item candidates, router.permalink.match? path = some found ∧
        router.lookup found.params = .ok (some (item, candidates)) ∧
        outcome = .ofRevision found.mode (Revision.latest? item candidates) := by
  unfold canonical
  cases router.permalink.match? path with
  | none => simp [pure, Except.pure]
  | some found =>
    simp only [bind_eq_ok_iff]
    refine ⟨?_, ?_⟩
    · intro h
      obtain ⟨result, hresult, h⟩ := h
      split at h
      · rename_i item candidates
        refine ⟨found, item, candidates, rfl, hresult, ?_⟩
        split at h <;> cases h <;> simp [*, Outcome.ofRevision]
      · exact absurd h (by simp [pure, Except.pure])
    · intro h
      obtain ⟨_, item, candidates, hmatch, hlookup, rfl⟩ := h
      cases hmatch
      refine ⟨_, hlookup, ?_⟩
      cases hlatest : Revision.latest? item candidates <;>
        simp [hlatest, Outcome.ofRevision, pure, Except.pure]

/-- A legacy candidate that an item is found for is redirected to the canonical address of the item,
in the same mode. -/
theorem legacyTarget_eq_ok_some_iff :
    router.legacyTarget path = .ok (some outcome) ↔
      ∃ found item candidates, router.legacy.match? path = some found ∧
        router.lookup found.params = .ok (some (item, candidates)) ∧
        outcome = .permanentRedirect (absolute router.baseUrl
          (router.permalink.template.generate item ++ found.mode.suffix)).text := by
  unfold legacyTarget
  cases router.legacy.match? path with
  | none => simp [pure, Except.pure]
  | some found =>
    simp only [bind_eq_ok_iff]
    refine ⟨?_, ?_⟩
    · intro h
      obtain ⟨result, hresult, h⟩ := h
      split at h
      · rename_i item candidates
        cases h
        exact ⟨found, item, candidates, rfl, hresult, rfl⟩
      · exact absurd h (by simp [pure, Except.pure])
    · intro h
      obtain ⟨_, item, candidates, hmatch, hlookup, rfl⟩ := h
      cases hmatch
      exact ⟨_, hlookup, rfl⟩

/-- The first target is that of one of the candidates. -/
theorem exists_of_firstTarget {paths : List String}
    (h : router.firstTarget paths = .ok (some outcome)) :
    ∃ candidate ∈ paths, router.legacyTarget candidate = .ok (some outcome) := by
  induction paths with
  | nil => exact absurd h (by simp [firstTarget, pure, Except.pure])
  | cons candidate rest ih =>
    unfold firstTarget at h
    rw [bind_eq_ok_iff] at h
    obtain ⟨result, hresult, h⟩ := h
    cases result with
    | some first =>
      cases h
      exact ⟨candidate, List.mem_cons_self, hresult⟩
    | none =>
      obtain ⟨other, hother, htarget⟩ := ih h
      exact ⟨other, List.mem_cons_of_mem _ hother, htarget⟩

/-- The legacy step redirects as one of its candidates does. -/
theorem exists_of_legacyStep (h : router.legacyStep path = .ok (some outcome)) :
    ∃ candidate ∈ router.legacyCandidates path,
      router.legacyTarget candidate = .ok (some outcome) :=
  exists_of_firstTarget h

/-- The last step redirects as the stored redirect of the path says. -/
theorem redirectStep_eq_ok_some_iff :
    router.redirectStep path = .ok (some outcome) ↔
      ∃ redirect, router.stores.redirects path = .ok (some redirect) ∧
        outcome = .permanentRedirect (redirectTarget router.baseUrl redirect.toPath) := by
  simp only [redirectStep, bind_eq_ok_iff]
  refine ⟨?_, ?_⟩
  · intro h
    obtain ⟨result, hresult, h⟩ := h
    cases result with
    | none => exact absurd h (by simp [pure, Except.pure])
    | some redirect =>
      cases h
      exact ⟨redirect, hresult, rfl⟩
  · intro h
    obtain ⟨redirect, hredirect, rfl⟩ := h
    exact ⟨some redirect, hredirect, rfl⟩

/-- The step that answers a path is the first that has an answer. -/
inductive Resolves (router : Router) (path : String) : Outcome → Prop where
  | canonical {outcome : Outcome} (h : router.canonical path = .ok (some outcome)) :
      Resolves router path outcome
  | legacy {outcome : Outcome} (hcanonical : router.canonical path = .ok none)
      (h : router.legacyStep path = .ok (some outcome)) : Resolves router path outcome
  | redirect {outcome : Outcome} (hcanonical : router.canonical path = .ok none)
      (hlegacy : router.legacyStep path = .ok none)
      (h : router.redirectStep path = .ok (some outcome)) : Resolves router path outcome
  | notFound (hcanonical : router.canonical path = .ok none)
      (hlegacy : router.legacyStep path = .ok none)
      (hredirect : router.redirectStep path = .ok none) : Resolves router path .notFound

/-- The router answers as the order of the steps says, each of them where those in front give
nothing. -/
theorem resolve_eq_ok_iff {rawPath : String} :
    router.resolve rawPath = .ok outcome ↔
      router.Resolves (normalize rawPath router.baseUrl) outcome := by
  simp only [resolve, bind_eq_ok_iff]
  refine ⟨?_, ?_⟩
  · intro h
    obtain ⟨first, hcanonical, h⟩ := h
    cases first with
    | some answer =>
      cases h
      exact .canonical hcanonical
    | none =>
      obtain ⟨second, hlegacy, h⟩ := bind_eq_ok_iff.1 h
      cases second with
      | some answer =>
        cases h
        exact .legacy hcanonical hlegacy
      | none =>
        obtain ⟨third, hredirect, h⟩ := bind_eq_ok_iff.1 h
        cases third with
        | some answer =>
          cases h
          exact .redirect hcanonical hlegacy hredirect
        | none =>
          cases h
          exact .notFound hcanonical hlegacy hredirect
  · intro h
    cases h with
    | canonical h => exact ⟨_, h, rfl⟩
    | legacy hcanonical h => exact ⟨_, hcanonical, bind_eq_ok_iff.2 ⟨_, h, rfl⟩⟩
    | redirect hcanonical hlegacy h =>
      exact ⟨_, hcanonical, bind_eq_ok_iff.2 ⟨_, hlegacy, bind_eq_ok_iff.2 ⟨_, h, rfl⟩⟩⟩
    | notFound hcanonical hlegacy h =>
      exact ⟨_, hcanonical, bind_eq_ok_iff.2 ⟨_, hlegacy, bind_eq_ok_iff.2 ⟨_, h, rfl⟩⟩⟩

/-- Only the canonical step serves content. -/
theorem canonical_of_resolves_found {content : Content} {mode : Mode}
    (h : router.Resolves path (.found content mode)) :
    router.canonical path = .ok (some (.found content mode)) := by
  cases h with
  | canonical h => exact h
  | legacy _ h =>
    obtain ⟨candidate, -, htarget⟩ := exists_of_legacyStep h
    obtain ⟨found, item, candidates, -, -, houtcome⟩ := legacyTarget_eq_ok_some_iff.1 htarget
    exact absurd houtcome (by simp)
  | redirect _ _ h =>
    obtain ⟨redirect, -, houtcome⟩ := redirectStep_eq_ok_some_iff.1 h
    exact absurd houtcome (by simp)

theorem resolve_of_canonical {rawPath : String}
    (h : router.canonical (normalize rawPath router.baseUrl) = .ok (some outcome)) :
    router.resolve rawPath = .ok outcome :=
  resolve_eq_ok_iff.2 (.canonical h)

end Router

end BlogRouting
