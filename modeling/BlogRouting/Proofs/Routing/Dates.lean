import BlogRouting.Proofs.Content.Queries
import BlogRouting.Proofs.Routing.Canonical

/-!
# Dates in requests

The parts of a date come from a request as texts of any length. What is looked up are the numbers
that they denote, or nothing if one of them is no number of its width: a number that is too large
never stands for another one, and zeros in front of the digits make no difference
(`Query.dates_never_wrap`).

* **`Query.ofParams?_congr`**: a query depends on its parameters only through the slug and what
  each part of the date is read as.
* **`Router.canonical_of_match?`**: what the canonical step answers depends on the path only
  through the parameters, but for the mode.
-/

namespace BlogRouting

/-- The same slug, and dates that are equal as numbers. -/
structure Params.SameNumbers (a b : Params) : Prop where
  title : a.title = b.title
  date : ∀ p ≠ .title, (a.get? p).map (fun text => Numeral.number text.toList)
    = (b.get? p).map fun text => Numeral.number text.toList

namespace Query

variable {params params' : Params} {text text' : String} {digits sign : List Char}

/-! ## Parameters that make the same query -/

theorem ofParams?_congr (hslug : params.slug = params'.slug)
    (hyear : component? year? params.year = component? year? params'.year)
    (hmonth : component? count? params.month = component? count? params'.month)
    (hday : component? count? params.day = component? count? params'.day) :
    ofParams? params = ofParams? params' := by
  unfold ofParams?
  rw [hslug, hyear, hmonth, hday]

theorem year?_padded (h : Numeral.IsDigits digits) (hsign : sign ∈ [[], ['+'], ['-']]) (k : Nat) :
    year? (.ofList (sign ++ (List.replicate k '0' ++ digits)))
      = year? (.ofList (sign ++ digits)) := by
  unfold year?
  rw [String.toList_ofList, String.toList_ofList, h.signed?_padded hsign]

/-- Zeros in front of the digits do not change a month or a day. -/
theorem count?_padded (h : Numeral.IsDigits digits) (hsign : sign ∈ [[], ['+'], ['-']]) (k : Nat) :
    count? (.ofList (sign ++ (List.replicate k '0' ++ digits)))
      = count? (.ofList (sign ++ digits)) := by
  unfold count?
  rw [String.toList_ofList, String.toList_ofList, h.unsigned?_padded hsign]

/-- Zeros in front of the digits of one part of the date. With them in front of several parts the
query is the same, too, one part after the other. -/
theorem ofParams?_padded {p : Placeholder} (hp : p ≠ .title)
    (h : Numeral.IsDigits digits) (hsign : sign ∈ [[], ['+'], ['-']])
    (hget : params.get? p = some (.ofList (sign ++ digits))) (k : Nat) :
    ofParams? (params.insert p (.ofList (sign ++ (List.replicate k '0' ++ digits))))
      = ofParams? params := by
  have hyear (heq : params.year = some (.ofList (sign ++ digits))) :
      component? year? (some (.ofList (sign ++ (List.replicate k '0' ++ digits))))
        = component? year? params.year := by
    rw [heq, component?, component?, year?_padded h hsign]
  have hcount {text? : Option String} (heq : text? = some (.ofList (sign ++ digits))) :
      component? count? (some (.ofList (sign ++ (List.replicate k '0' ++ digits))))
        = component? count? text? := by
    rw [heq, component?, component?, count?_padded h hsign]
  cases p with
  | title => exact absurd rfl hp
  | year => exact ofParams?_congr rfl (hyear hget) rfl rfl
  | month => exact ofParams?_congr rfl rfl (hcount hget) rfl
  | day => exact ofParams?_congr rfl rfl rfl (hcount hget)

/-- Numerals of the same number are the same year, or are both out of range. -/
theorem year?_congr (h : Numeral.IsDigits text.toList) (h' : Numeral.IsDigits text'.toList)
    (heq : Numeral.number text.toList = Numeral.number text'.toList) :
    year? text = year? text' := by
  unfold year?
  rw [h.signed?_eq, h'.signed?_eq, Numeral.value_eq_number, Numeral.value_eq_number, heq]

/-- Numerals of the same number are the same month or day, or are both out of range. -/
theorem count?_congr (h : Numeral.IsDigits text.toList) (h' : Numeral.IsDigits text'.toList)
    (heq : Numeral.number text.toList = Numeral.number text'.toList) :
    count? text = count? text' := by
  unfold count?
  rw [h.unsigned?_eq, h'.unsigned?_eq, Numeral.value_eq_number, Numeral.value_eq_number, heq]

/-- Dates of digits alone that are equal as numbers are looked up as the same date. -/
theorem ofParams?_eq_of_sameNumbers (h : params.HasDigits) (h' : params'.HasDigits)
    (hsame : params.SameNumbers params') : ofParams? params = ofParams? params' := by
  -- a part of the date is read alike in both, whichever reader it has
  have hcomponent {α : Type} (read : String → Option α)
      (hread : ∀ text text' : String, Numeral.IsDigits text.toList → Numeral.IsDigits text'.toList →
        Numeral.number text.toList = Numeral.number text'.toList → read text = read text')
      {p : Placeholder} (hp : p ≠ .title) :
      component? read (params.get? p) = component? read (params'.get? p) := by
    have hnumber := hsame.date p hp
    cases hget : params.get? p with
    | none =>
      rw [hget, Option.map_none, eq_comm, Option.map_eq_none_iff] at hnumber
      rw [hnumber]
    | some text =>
      rw [hget, Option.map_some, eq_comm, Option.map_eq_some_iff] at hnumber
      obtain ⟨text', hget', hnumber⟩ := hnumber
      rw [hget', component?, component?,
        hread text text' (h p hp text hget) (h' p hp text' hget') hnumber.symm]
  have hslug : params.slug = params'.slug := by rw [Params.slug, Params.slug, hsame.title]
  exact ofParams?_congr hslug (hcomponent year? (fun _ _ => year?_congr) (p := .year) (by decide))
    (hcomponent count? (fun _ _ => count?_congr) (p := .month) (by decide))
    (hcomponent count? (fun _ _ => count?_congr) (p := .day) (by decide))

/-- A query accepts the content with its slug and with each part of the date that it gives. -/
theorem accepts_iff {query : Query} {content : Content} :
    query.accepts content = true ↔ content.permalink = query.slug ∧
      (∀ n ∈ query.year, n = content.publishedAt.year) ∧
      (∀ n ∈ query.month, n = content.publishedAt.month) ∧
      ∀ n ∈ query.day, n = content.publishedAt.day := by
  simp only [accepts, Bool.and_eq_true, decide_eq_true_eq, Option.all_eq_true, and_assoc,
    Option.mem_def]

/-- There is no query if and only if a part of the date is there that denotes no number of its
width. -/
theorem ofParams?_eq_none_iff :
    ofParams? params = none ↔ (∃ text ∈ params.year, ∀ n, ¬ IsYear text n) ∨
      (∃ text ∈ params.month, ∀ n, ¬ IsCount text n) ∨
        ∃ text ∈ params.day, ∀ n, ¬ IsCount text n := by
  rw [← Option.not_isSome_iff_eq_none, isSome_ofParams?_iff_read]
  simp only [Option.isSome_iff_exists, year?_eq_some_iff, count?_eq_some_iff, not_and_or,
    not_forall, not_exists, exists_prop]

end Query

namespace Router

variable {router : Router} {path : String}

/-- What is found for the parameters of a path: whether a post is published there and, if so, its
newest revision, unless it has none. -/
def revisionFor (router : Router) (params : Params) :
    Except StoreFailure (Option (Option Content)) :=
  (router.lookup params).map
    (Option.map fun (item, candidates) => Revision.latest? item candidates)

/-- The canonical step depends on the matched parameters only through what they find. -/
theorem canonical_of_match? {found : Match} (h : router.permalink.match? path = some found) :
    router.canonical path = (router.revisionFor found.params).map
      (Option.map (Outcome.ofRevision found.mode)) := by
  simp only [canonical, revisionFor, h]
  cases router.lookup found.params with
  | error failure => rfl
  | ok result =>
    cases result with
    | none => rfl
    | some result =>
      show _ = Except.ok (some (Outcome.ofRevision _ (Revision.latest? result.1 result.2)))
      cases hlatest : Revision.latest? result.1 result.2 <;>
        simp [hlatest, bind, Except.bind, pure, Except.pure, Outcome.ofRevision]

theorem lookup_congr {params params' : Params}
    (h : Query.ofParams? params = Query.ofParams? params') :
    router.lookup params = router.lookup params' := by
  unfold lookup
  rw [h]

/-- Two paths that say the same slug and the same date are answered with the same content, each in
the mode that it asks for. -/
theorem canonical_of_sameNumbers {path' : String} {found found' : Match}
    (h : router.permalink.match? path = some found)
    (h' : router.permalink.match? path' = some found')
    (hsame : found.params.SameNumbers found'.params) :
    ∃ answer : Except StoreFailure (Option (Option Content)),
      router.canonical path = answer.map (Option.map (Outcome.ofRevision found.mode)) ∧
        router.canonical path' = answer.map (Option.map (Outcome.ofRevision found'.mode)) := by
  have hquery : Query.ofParams? found.params = Query.ofParams? found'.params :=
    Query.ofParams?_eq_of_sameNumbers (Permalink.hasDigits_of_match? h)
      (Permalink.hasDigits_of_match? h') hsame
  refine ⟨router.revisionFor found.params, canonical_of_match? h, ?_⟩
  rw [canonical_of_match? h', revisionFor, revisionFor, lookup_congr hquery]

end Router

/-- Parameters make a query exactly if every part of the date that is there is a numeral of a number
of its width, and then the query has these numbers and leaves open what is not there. Zeros in front
of the digits change nothing, so paths under one format that say the same title and equal dates are
answered with the same content. -/
theorem Query.dates_never_wrap :
    (∀ params, ofParams? params = none ↔
      (∃ text ∈ params.year, ∀ n, ¬ IsYear text n) ∨
        (∃ text ∈ params.month, ∀ n, ¬ IsCount text n) ∨
          ∃ text ∈ params.day, ∀ n, ¬ IsCount text n) ∧
    (∀ params query, ofParams? params = some query ↔ query.slug = params.slug ∧
      Option.Rel IsYear params.year query.year ∧ Option.Rel IsCount params.month query.month ∧
        Option.Rel IsCount params.day query.day) ∧
    (∀ (query : Query) content, query.accepts content = true ↔ content.permalink = query.slug ∧
      (∀ n ∈ query.year, n = content.publishedAt.year) ∧
      (∀ n ∈ query.month, n = content.publishedAt.month) ∧
      ∀ n ∈ query.day, n = content.publishedAt.day) ∧
    (∀ (params : Params) (p : Placeholder) sign digits, p ≠ .title →
      sign ∈ [[], ['+'], ['-']] → Numeral.IsDigits digits →
      params.get? p = some (.ofList (sign ++ digits)) →
      ∀ k, ofParams? (params.insert p (.ofList (sign ++ (List.replicate k '0' ++ digits))))
        = ofParams? params) ∧
    ∀ (router : Router) path path' found found', router.permalink.match? path = some found →
      router.permalink.match? path' = some found' → found.params.SameNumbers found'.params →
      ∃ answer : Except StoreFailure (Option (Option Content)),
        router.canonical path = answer.map (Option.map (Outcome.ofRevision found.mode)) ∧
          router.canonical path' = answer.map (Option.map (Outcome.ofRevision found'.mode)) := by
  refine ⟨fun _ => ofParams?_eq_none_iff, fun _ _ => ofParams?_eq_some_iff, fun _ _ => accepts_iff,
    ?_, ?_⟩
  · intro params p sign digits hp hsign hdigits hget k
    exact ofParams?_padded hp hdigits hsign hget k
  · intro router path path' found found' h h' hsame
    exact Router.canonical_of_sameNumbers h h' hsame

/-- A year with a sign is padded, and a post is asked for with a padded year and as a feed. -/
theorem Query.dates_never_wrap_padded :
    let router := Router.inMemory .yearTitle .yearTitle .blog ⟨[.hello]⟩ .empty
    ofParams? { year := some "-0000000000044" } = ofParams? { year := some "-44" } ∧
      ∃ answer : Except StoreFailure (Option (Option Content)),
        router.canonical "2004/hello" = answer.map (Option.map (Outcome.ofRevision .html)) ∧
          router.canonical "000000000002004/hello.rss"
            = answer.map (Option.map (Outcome.ofRevision .rss)) := by
  intro router
  obtain ⟨-, -, -, hpadded, hanswer⟩ := dates_never_wrap
  have hdigits : Numeral.IsDigits "44".toList := ⟨by decide +kernel, by simp⟩
  have hmatch : router.permalink.match? "2004/hello"
      = some ⟨{ year := some "2004", title := some "hello" }, .html⟩ := by decide +kernel
  have hmatch' : router.permalink.match? "000000000002004/hello.rss"
      = some ⟨{ year := some "000000000002004", title := some "hello" }, .rss⟩ := by
    decide +kernel
  refine ⟨?_, hanswer router _ _ _ _ hmatch hmatch' ⟨rfl, ?_⟩⟩
  · exact hpadded { year := some "-44" } .year ['-'] "44".toList (by decide) (by decide) hdigits
      (by decide +kernel) 11
  · intro p hp
    cases p with
    | title => exact absurd rfl hp
    | year => decide +kernel
    | month | day => rfl

end BlogRouting
