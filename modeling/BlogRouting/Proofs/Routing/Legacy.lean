import BlogRouting.Proofs.Routing.Canonical

/-!
# Legacy redirects

A redirect of the legacy step leads to the address of a published item of the store
(`mem_of_lookup`). Some published item lives there (`exists_firstAt?`), so the address is answered
by the canonical step: the redirect lands, and no other follows it.
-/

namespace BlogRouting.Router

variable {format : String} {permalink legacy : Permalink} {baseUrl : Url} {store : ContentStore}
  {table : RedirectTable} {item : Content} {candidates : List Content} {params : Params}

/-- What is found is a published item of the store. -/
theorem mem_of_lookup
    (h : (inMemory permalink legacy baseUrl store table).lookup params
      = .ok (some (item, candidates))) : item ∈ store.items ∧ item.published = true := by
  obtain ⟨query, -, -, hitem⟩ := lookup_inMemory_iff.1 h
  obtain ⟨hstored, -, hpublished⟩ := ContentStore.of_firstPublished? hitem
  exact ⟨hstored, hpublished⟩

/-- Some published item lives at the address of any published item of the store. -/
theorem exists_firstAt? {t : Template} (hitem : item ∈ store.items)
    (hpublished : item.published = true) : ∃ first, store.firstAt? t item = some first := by
  rw [← Option.isSome_iff_exists, ContentStore.firstAt?, List.find?_isSome]
  exact ⟨item, List.mem_filter.2 ⟨hitem, t.sameAddress_self item⟩, hpublished⟩

/-- The revision that is served at an address has the slug of the address. -/
theorem permalink_of_latest? {t : Template} {first latest : Content}
    (hfirst : store.firstAt? t item = some first)
    (hlatest : Revision.latest? first (store.atAddress t item) = some latest) :
    latest.permalink = item.permalink := by
  have hmem : latest ∈ store.atAddress t item := by
    rcases Revision.mem_of_latest? hlatest with rfl | hmem
    · exact List.mem_of_find?_eq_some hfirst
    · exact hmem
  exact Template.permalink_of_sameAddress (List.mem_filter.1 hmem).2

/-- A legacy redirect leads from a path in the legacy format to the address of the item that it
names, and there the canonical step answers in the same mode: with a revision that has the item's
slug, or with nothing because the revisions at that address have no newest one. -/
theorem legacyStep_lands {rawPath location : String} (hbase : baseUrl.IsBase)
    (hcompile : Permalink.compile format = .ok permalink) (hclear : permalink.template.IsClear)
    (hitems : ∀ item ∈ store.items, item.IsAddressable permalink.template)
    (hredirect : (inMemory permalink legacy baseUrl store table).legacyStep
      (normalize rawPath baseUrl) = .ok (some (.permanentRedirect location))) :
    let router := inMemory permalink legacy baseUrl store table
    ∃ candidate ∈ router.legacyCandidates (normalize rawPath baseUrl),
      ∃ found item candidates target outcome,
        legacy.match? candidate = some found ∧
        router.lookup found.params = .ok (some (item, candidates)) ∧
        target = absolute baseUrl (permalink.template.generate item ++ found.mode.suffix) ∧
        location = target.text ∧
        location = baseUrl.origin ++ target.path.text ∧
        router.canonical (normalize target.path.text baseUrl) = .ok (some outcome) ∧
        router.resolve target.path.text = .ok outcome ∧
        ((∃ c, outcome = .found c found.mode ∧ c.permalink = item.permalink) ∨
          outcome = .notFound ∧ ∃ first, store.firstAt? permalink.template item = some first ∧
            Revision.latest? first (store.atAddress permalink.template item) = none) := by
  obtain ⟨candidate, hcandidate, htarget⟩ := exists_of_legacyStep hredirect
  obtain ⟨found, item, candidates, hmatch, hlookup, hlocation⟩ :=
    legacyTarget_eq_ok_some_iff.1 htarget
  cases hlocation
  obtain ⟨hitem, hpublished⟩ := mem_of_lookup hlookup
  obtain ⟨first, hfirst⟩ := exists_firstAt? (t := permalink.template) hitem hpublished
  -- the redirect leads to the address of `item`, where `first` is the first published item
  have hcanonical := @canonical_absolute _ _ legacy _ _ table _ _ hbase hcompile hclear
    (hitems item hitem) hfirst found.mode
  have hrelative := Template.isRelative_generate (Permalink.isCompiled hcompile) hclear
    (hitems item hitem) found.mode
  refine ⟨candidate, hcandidate, found, item, candidates, _, _, hmatch, hlookup, rfl, rfl,
    hbase.text_absolute hrelative, hcanonical, resolve_of_canonical hcanonical, ?_⟩
  cases hlatest : Revision.latest? first (store.atAddress permalink.template item) with
  | some latest => exact .inl ⟨latest, rfl, permalink_of_latest? hfirst hlatest⟩
  | none => exact .inr ⟨rfl, first, hfirst, hlatest⟩

/-- The old feed of a post beneath `articles` leads to the feed of the post. -/
theorem legacyStep_lands_articles :
    ∃ legacy, Permalink.default = .ok legacy ∧
      let router := inMemory .yearTitle legacy .blog ⟨[.hello]⟩ .empty
      router.legacyStep (normalize "/blog/articles/2004/4/1/hello.rss" .blog)
        = .ok (some (.permanentRedirect "http://myblog.net/blog/2004/hello.rss")) ∧
      ∃ target outcome, "http://myblog.net/blog/2004/hello.rss" = Url.text target ∧
        router.resolve target.path.text = .ok outcome := by
  let legacy : Permalink :=
    ⟨"/%year%/%month%/%day%/%title%", [.placeholder .year, .literal "/", .placeholder .month,
      .literal "/", .placeholder .day, .literal "/", .placeholder .title]⟩
  have hlegacy : Permalink.default = .ok legacy := eq_ok_of_toOption (by decide +kernel)
  have hredirect : (inMemory .yearTitle legacy .blog ⟨[.hello]⟩ .empty).legacyStep
      (normalize "/blog/articles/2004/4/1/hello.rss" .blog)
        = .ok (some (.permanentRedirect "http://myblog.net/blog/2004/hello.rss")) :=
    eq_ok_of_toOption (by decide +kernel)
  obtain ⟨-, -, -, -, -, target, outcome, -, -, -, htext, -, -, hresolve, -⟩ :=
    legacyStep_lands Url.isBase_blog Permalink.compile_yearTitle Permalink.isClear_yearTitle
      (by simpa using Content.isAddressable_hello) hredirect
  exact ⟨legacy, hlegacy, hredirect, target, outcome, htext, hresolve⟩

end BlogRouting.Router
