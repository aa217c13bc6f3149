import BlogRouting.Proofs.Routing.Steps

/-!
# Attempts in a row

Resolving a request makes one attempt after another: the canonical step, the legacy format on each
of the paths that it is tried on, and the stored redirects. The first attempt that gives anything
decides (`resolve_eq_firstAnswer`), be it an answer or the failure of a store, so two ways to
resolve a request are compared attempt by attempt.

Only the attempts that look for content depend on the content store, and only through the query
that a path asks for (`Permalink.query?`). Where a path asks for none they give nothing.

* **`canonical_eq_ok_none_iff`**, **`legacyTarget_eq_ok_none_iff`**: an attempt gives nothing if the
  path does not match or nothing published is found for it.
* **`canonical_eq_error_iff`**, **`legacyTarget_eq_error_iff`**: it fails if the store fails at its
  query.
-/

namespace BlogRouting

theorem bind_eq_error_iff {ε α β : Type} {x : Except ε α} {f : α → Except ε β} {e : ε} :
    (x >>= f) = .error e ↔ x = .error e ∨ ∃ a, x = .ok a ∧ f a = .error e := by
  cases x <;> simp [bind, Except.bind]

/-- What an attempt at a request gives: an answer, nothing, or the failure of a store. -/
abbrev Attempt := Except StoreFailure (Option Outcome)

/-- What the first attempt gives that gives anything. -/
def firstAnswer : List Attempt → Attempt
  | [] => .ok none
  | .ok none :: rest => firstAnswer rest
  | .ok (some outcome) :: _ => .ok (some outcome)
  | .error failure :: _ => .error failure

section FirstAnswer

variable {attempt : Attempt} {attempts rest : List Attempt}

/-- What answers first is the answer, be it an error. -/
theorem firstAnswer_cons_of_ne (h : attempt ≠ .ok none) :
    firstAnswer (attempt :: rest) = attempt := by
  cases attempt with
  | error failure => rfl
  | ok answer =>
    cases answer with
    | none => exact absurd rfl h
    | some outcome => rfl

/-- There is no answer exactly if no attempt has one. -/
theorem firstAnswer_eq_ok_none_iff :
    firstAnswer attempts = .ok none ↔ ∀ attempt ∈ attempts, attempt = .ok none := by
  induction attempts with
  | nil => simp [firstAnswer]
  | cons attempt rest ih =>
    rw [List.forall_mem_cons, ← ih]
    by_cases h : attempt = .ok none
    · subst h
      simp [firstAnswer]
    · rw [firstAnswer_cons_of_ne h]
      simp [h]

/-- Nothing is made up: what is given is what one of the attempts gives. -/
theorem firstAnswer_mem (h : firstAnswer attempts ≠ .ok none) :
    firstAnswer attempts ∈ attempts := by
  induction attempts with
  | nil => exact absurd rfl h
  | cons attempt rest ih =>
    by_cases hattempt : attempt = .ok none
    · subst hattempt
      exact List.mem_cons_of_mem _ (ih h)
    · rw [firstAnswer_cons_of_ne hattempt]
      exact List.mem_cons_self

theorem firstAnswer_singleton (attempt : Attempt) : firstAnswer [attempt] = attempt := by
  by_cases h : attempt = .ok none
  · rw [h]
    rfl
  · exact firstAnswer_cons_of_ne h

/-- Several attempts in front are as good as one that gives what they give. -/
theorem firstAnswer_append (front back : List Attempt) :
    firstAnswer (front ++ back) = firstAnswer (firstAnswer front :: back) := by
  induction front with
  | nil => rfl
  | cons attempt front ih =>
    by_cases h : attempt = .ok none
    · subst h
      exact ih
    · rw [List.cons_append, firstAnswer_cons_of_ne h, firstAnswer_cons_of_ne h,
        firstAnswer_cons_of_ne h]

/-- An attempt that gives nothing whenever the one before it gives nothing need not be made. -/
theorem firstAnswer_skip {next : Attempt} (h : attempt = .ok none → next = .ok none) :
    firstAnswer (attempt :: next :: rest) = firstAnswer (attempt :: rest) := by
  by_cases hattempt : attempt = .ok none
  · rw [hattempt, h hattempt]
    rfl
  · rw [firstAnswer_cons_of_ne hattempt, firstAnswer_cons_of_ne hattempt]

end FirstAnswer

/-- The query that a path asks for, if it matches and its date fits in a query. -/
def Permalink.query? (permalink : Permalink) (path : String) : Option Query :=
  (permalink.match? path).bind fun found => Query.ofParams? found.params

namespace Router

variable {router : Router} {path : String} {params : Params} {query : Query}
  {failure : StoreFailure} {content content' : Query → Except StoreFailure (List Content)}

/-! ## The attempts at a request -/

/-- The attempts that look for content. -/
def contentAttempts (router : Router) (path : String) : List Attempt :=
  router.canonical path :: (router.legacyCandidates path).map router.legacyTarget

/-- What is answered in the end. If no attempt gives anything, there is nothing to be found. -/
def settled : Attempt → Except StoreFailure Outcome :=
  Except.map (·.getD .notFound)

/-- A run without an answer ends as not found. -/
theorem settled_eq_ok_iff {attempt : Attempt} {outcome : Outcome} :
    settled attempt = .ok outcome ↔
      attempt = .ok (some outcome) ∨ attempt = .ok none ∧ outcome = .notFound := by
  cases attempt with
  | error failure => simp [settled, Except.map]
  | ok answer => cases answer <;> simp [settled, Except.map, eq_comm]

theorem settled_eq_error_iff {attempt : Attempt} :
    settled attempt = .error failure ↔ attempt = .error failure := by
  cases attempt <;> simp [settled, Except.map]

/-- The path that the legacy format is tried on beneath `articles/`, if the path lies there. -/
def beneathLegacyRoot (path : String) : List String :=
  ((legacyRoot.toList.isPrefixOf? path.toList).map String.ofList).toList

/-- At most one path is tried for a path with the old root, the one behind it. -/
theorem mem_beneathLegacyRoot_iff {candidate : String} :
    candidate ∈ beneathLegacyRoot path ↔ path = legacyRoot ++ candidate := by
  unfold beneathLegacyRoot
  rw [Option.mem_toList, Option.map_eq_some_iff]
  simp only [isPrefixOf?_eq_some_iff]
  refine ⟨?_, ?_⟩
  · intro h
    obtain ⟨rest, hpath, rfl⟩ := h
    rw [← String.toList_inj, hpath, String.toList_append, String.toList_ofList]
  · intro h
    exact ⟨candidate.toList, by rw [h, String.toList_append], String.ofList_toList⟩

/-- The path itself is tried unless the format is the old one, and then what is behind the
old root. -/
theorem legacyCandidates_eq (router : Router) (path : String) :
    router.legacyCandidates path
      = (if router.legacy.template = router.permalink.template then [] else [path])
        ++ beneathLegacyRoot path := rfl

/-- The redirect to a legacy post goes to the first candidate that has one. -/
theorem firstTarget_eq_firstAnswer (router : Router) (paths : List String) :
    router.firstTarget paths = firstAnswer (paths.map router.legacyTarget) := by
  induction paths with
  | nil => rfl
  | cons candidate rest ih =>
    rw [firstTarget, List.map_cons]
    cases router.legacyTarget candidate with
    | error failure => rfl
    | ok answer =>
      cases answer with
      | none => exact ih
      | some outcome => rfl

/-- Resolves a request, with the legacy format tried on the paths that `candidates` gives. -/
def resolveTrying (router : Router) (candidates : String → List String) (rawPath : String) :
    Except StoreFailure Outcome := do
  let path := normalize rawPath router.baseUrl
  if let some outcome ← router.canonical path then return outcome
  if let some outcome ← router.firstTarget (candidates path) then return outcome
  if let some outcome ← router.redirectStep path then return outcome
  return .notFound

/-- The router tries the candidates of the legacy step and no others. -/
theorem resolve_eq_resolveTrying (router : Router) (rawPath : String) :
    router.resolve rawPath = router.resolveTrying router.legacyCandidates rawPath := rfl

/-- Whatever paths the legacy format is tried on, the first attempt that gives anything decides. -/
theorem resolveTrying_eq_firstAnswer (router : Router) (candidates : String → List String)
    (rawPath : String) :
    router.resolveTrying candidates rawPath = settled (firstAnswer
      (router.canonical (normalize rawPath router.baseUrl)
        :: ((candidates (normalize rawPath router.baseUrl)).map router.legacyTarget
          ++ [router.redirectStep (normalize rawPath router.baseUrl)]))) := by
  unfold resolveTrying
  dsimp only
  generalize normalize rawPath router.baseUrl = path
  rw [firstTarget_eq_firstAnswer]
  cases router.canonical path with
  | error failure => rfl
  | ok answer =>
    cases answer with
    | some outcome => rfl
    | none =>
      show _ = settled (firstAnswer (_ ++ _))
      -- the legacy attempts are one attempt that gives what the first of them gives
      rw [firstAnswer_append]
      cases firstAnswer ((candidates path).map router.legacyTarget) with
      | error failure => rfl
      | ok answer =>
        cases answer with
        | some outcome => rfl
        | none =>
          cases router.redirectStep path with
          | error failure => rfl
          | ok answer => cases answer <;> rfl

/-- A run of the router is the first answer of its attempts, one after another. -/
theorem resolve_eq_firstAnswer (router : Router) (rawPath : String) :
    router.resolve rawPath = settled (firstAnswer
      (router.contentAttempts (normalize rawPath router.baseUrl)
        ++ [router.redirectStep (normalize rawPath router.baseUrl)])) := by
  rw [resolve_eq_resolveTrying, resolveTrying_eq_firstAnswer]
  rfl

/-- The path is left to the stored redirects: neither step that looks for content gives anything. -/
def FallsThrough (router : Router) (path : String) : Prop :=
  router.canonical path = .ok none ∧ router.legacyStep path = .ok none

/-- A path falls through to the redirects if no attempt at content answers it. -/
theorem fallsThrough_iff :
    router.FallsThrough path ↔ firstAnswer (router.contentAttempts path) = .ok none := by
  rw [FallsThrough, legacyStep, firstTarget_eq_firstAnswer, firstAnswer_eq_ok_none_iff,
    firstAnswer_eq_ok_none_iff, contentAttempts, List.forall_mem_cons]

/-! ## What the attempts depend on -/

/-- A date that no content can have is looked up nowhere. -/
theorem lookup_eq_ok_none (h : Query.ofParams? params = none) :
    router.lookup params = .ok none := by
  unfold lookup
  rw [h]
  rfl

/-- A lookup fails exactly if the store fails for its query. -/
theorem lookup_eq_error_iff :
    router.lookup params = .error failure ↔
      ∃ query, Query.ofParams? params = some query ∧
        router.stores.content query = .error failure := by
  unfold lookup
  cases Query.ofParams? params with
  | none => simp [pure, Except.pure]
  | some query =>
    simp only [bind_eq_error_iff, pure, Except.pure, Option.some.injEq, exists_eq_left']
    simp

/-- The canonical step gives nothing if the path does not match, or nothing is found for it. -/
theorem canonical_eq_ok_none_iff :
    router.canonical path = .ok none ↔
      ∀ found, router.permalink.match? path = some found →
        router.lookup found.params = .ok none := by
  unfold canonical
  cases router.permalink.match? path with
  | none => simp [pure, Except.pure]
  | some found =>
    simp only [Option.some.injEq, forall_eq']
    cases router.lookup found.params with
    | error failure => simp [bind, Except.bind]
    | ok answer =>
      cases answer with
      | none => simp [bind, Except.bind, pure, Except.pure]
      | some answer =>
        simp only [bind, Except.bind]
        split <;> simp [pure, Except.pure]

/-- A legacy candidate gives nothing if it does not match, or nothing is found for it. -/
theorem legacyTarget_eq_ok_none_iff :
    router.legacyTarget path = .ok none ↔
      ∀ found, router.legacy.match? path = some found →
        router.lookup found.params = .ok none := by
  unfold legacyTarget
  cases router.legacy.match? path with
  | none => simp [pure, Except.pure]
  | some found =>
    simp only [Option.some.injEq, forall_eq']
    cases router.lookup found.params with
    | error failure => simp [bind, Except.bind]
    | ok answer => cases answer <;> simp [bind, Except.bind, pure, Except.pure]

theorem lookup_eq_ok_none_of_query? {permalink : Permalink} {found : Match}
    (h : permalink.query? path = none) (hmatch : permalink.match? path = some found) :
    router.lookup found.params = .ok none := by
  refine lookup_eq_ok_none ?_
  rwa [Permalink.query?, hmatch, Option.bind_some] at h

/-- The canonical step fails exactly if the store fails for what the path asks for. -/
theorem canonical_eq_error_iff :
    router.canonical path = .error failure ↔
      ∃ query, router.permalink.query? path = some query ∧
        router.stores.content query = .error failure := by
  unfold canonical Permalink.query?
  cases router.permalink.match? path with
  | none => simp [pure, Except.pure]
  | some found =>
    rw [bind_eq_error_iff, lookup_eq_error_iff, Option.bind_some]
    -- once the lookup has answered, nothing can fail
    refine or_iff_left ?_
    rintro ⟨result, -, hrest⟩
    cases result with
    | none => exact absurd hrest (by simp [pure, Except.pure])
    | some result =>
      dsimp only at hrest
      split at hrest <;> exact absurd hrest (by simp [pure, Except.pure])

/-- A legacy candidate fails exactly if the store fails for what it asks for. -/
theorem legacyTarget_eq_error_iff :
    router.legacyTarget path = .error failure ↔
      ∃ query, router.legacy.query? path = some query ∧
        router.stores.content query = .error failure := by
  unfold legacyTarget Permalink.query?
  cases router.legacy.match? path with
  | none => simp [pure, Except.pure]
  | some found =>
    rw [bind_eq_error_iff, lookup_eq_error_iff, Option.bind_some]
    refine or_iff_left ?_
    rintro ⟨result, -, hrest⟩
    cases result <;> exact absurd hrest (by simp [pure, Except.pure])

/-! ## Other stores -/

/-- The router with another content store. -/
def withContent (router : Router) (content : Query → Except StoreFailure (List Content)) : Router :=
  { router with stores := { router.stores with content } }

/-- The router with another store of redirects. -/
def withRedirects (router : Router) (redirects : String → Except StoreFailure (Option Redirect)) :
    Router :=
  { router with stores := { router.stores with redirects } }

/-- Two content stores that give the same lookups give the same attempts. -/
theorem contentAttempts_withContent_congr
    (h : ∀ params, (router.withContent content).lookup params
      = (router.withContent content').lookup params) :
    (router.withContent content).contentAttempts path
      = (router.withContent content').contentAttempts path := by
  have hcanonical :
      (router.withContent content).canonical path
        = (router.withContent content').canonical path := by
    unfold canonical
    simp only [h]
    rfl
  have htarget : (router.withContent content).legacyTarget
      = (router.withContent content').legacyTarget := by
    funext candidate
    unfold legacyTarget
    simp only [h]
    rfl
  rw [contentAttempts, contentAttempts, hcanonical, htarget]
  rfl

end Router

end BlogRouting
