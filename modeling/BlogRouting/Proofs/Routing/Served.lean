import BlogRouting.Proofs.Content.Revisions
import BlogRouting.Proofs.Routing.Canonical

/-!
# What is served

Drafts are among the items that a query accepts, and the newest of them stands in for the published
item. Nothing else gets out: what is served ends a trail that begins at a published item, and what
the legacy step redirects to is the address of a published item.

* **`exists_trail_of_canonical`**: the canonical step serves the end of a trail through the store.
* **`exists_item_of_legacyStep`**: the legacy step redirects to a published item.
-/

namespace BlogRouting.Router

variable {permalink legacy : Permalink} {baseUrl : Url} {store : ContentStore}
  {table : RedirectTable} {c : Content} {path : String} {mode : Mode} {outcome : Outcome}

/-- What the canonical step serves is reached through the store from the first published item. The
draft at the end may be unpublished, but it has the slug and the date that were asked for. -/
theorem exists_trail_of_canonical
    (h : (inMemory permalink legacy baseUrl store table).canonical path
      = .ok (some (.found c mode))) :
    ∃ params query first trail, permalink.match? path = some ⟨params, mode⟩ ∧
      Query.ofParams? params = some query ∧ store.firstPublished? query = some first ∧
      Revision.IsTrail trail first c ∧ trail.length ≤ 17 ∧
      (∀ item ∈ trail, item ∈ store.items ∧ params.Describes item) ∧
      ∀ item ∈ store.items, query.accepts item = true → item.parent ≠ some c.id := by
  obtain ⟨found, first, candidates, hmatch, hlookup, houtcome⟩ := canonical_eq_ok_some_iff.1 h
  obtain ⟨query, hquery, rfl, hfirst⟩ := lookup_inMemory_iff.1 hlookup
  cases hlatest : Revision.latest? first (store.find query) with
  | none => exact absurd houtcome (by simp [hlatest, Outcome.ofRevision])
  | some latest =>
    obtain ⟨rfl, rfl⟩ : c = latest ∧ mode = found.mode := by
      simpa [hlatest, Outcome.ofRevision] using houtcome
    obtain ⟨k, hk, hreaches, hlast⟩ := Revision.latest?_eq_some_iff.1 hlatest
    obtain ⟨trail, htrail, hlength, hpassed⟩ := hreaches.exists_isTrail hlast
    have haccepted : first ∈ store.find query := by
      obtain ⟨hstored, haccepts, -⟩ := ContentStore.of_firstPublished? hfirst
      exact List.mem_filter.2 ⟨hstored, haccepts⟩
    refine ⟨found.params, query, first, trail, hmatch, hquery, hfirst, htrail, ?_, fun b hb => ?_,
      fun b hb haccepts => hlast b (List.mem_filter.2 ⟨hb, haccepts⟩)⟩
    · rw [hlength]
      exact Nat.succ_le_succ hk
    · -- whatever the walk passes is a candidate, and the query has accepted it
      have hmem : b ∈ store.find query := by
        obtain ⟨n, hn⟩ := hpassed b hb
        rcases hn.eq_or_mem with rfl | hmem
        · exact haccepted
        · exact hmem
      obtain ⟨hstored, haccepts⟩ := List.mem_filter.1 hmem
      exact ⟨hstored, (Query.accepts_iff_describes hquery).1 haccepts⟩

/-- A redirect from an old path goes to the address of a published item that the old format finds
there. -/
theorem exists_item_of_legacyStep
    (h : (inMemory permalink legacy baseUrl store table).legacyStep path = .ok (some outcome)) :
    ∃ candidate ∈ (inMemory permalink legacy baseUrl store table).legacyCandidates path,
      ∃ params mode query, ∃ item ∈ store.items,
        legacy.match? candidate = some ⟨params, mode⟩ ∧ Query.ofParams? params = some query ∧
        item.published = true ∧ query.accepts item = true ∧
        outcome = .permanentRedirect
          (absolute baseUrl (permalink.template.generate item ++ mode.suffix)).text := by
  obtain ⟨candidate, hcandidate, htarget⟩ := exists_of_legacyStep h
  obtain ⟨found, item, candidates, hmatch, hlookup, houtcome⟩ :=
    legacyTarget_eq_ok_some_iff.1 htarget
  obtain ⟨query, hquery, -, hitem⟩ := lookup_inMemory_iff.1 hlookup
  obtain ⟨hstored, haccepts, hpublished⟩ := ContentStore.of_firstPublished? hitem
  exact ⟨candidate, hcandidate, found.params, found.mode, query, item, hstored, hmatch, hquery,
    hpublished, haccepts, houtcome⟩

/-- Only content with a published ancestor is served, and a legacy redirect leads to a published
item. -/
theorem resolve_found_ancestry (permalink legacy : Permalink) (baseUrl : Url)
    (store : ContentStore) (table : RedirectTable) (rawPath : String) :
    let router := inMemory permalink legacy baseUrl store table
    let path := normalize rawPath baseUrl
    (∀ c mode, router.resolve rawPath = .ok (.found c mode) →
      ∃ params query first trail, permalink.match? path = some ⟨params, mode⟩ ∧
        Query.ofParams? params = some query ∧ store.firstPublished? query = some first ∧
        Revision.IsTrail trail first c ∧ trail.length ≤ 17 ∧
        (∀ item ∈ trail, item ∈ store.items ∧ params.Describes item) ∧
        ∀ item ∈ store.items, query.accepts item = true → item.parent ≠ some c.id) ∧
    ∀ outcome, router.legacyStep path = .ok (some outcome) →
      ∃ candidate ∈ router.legacyCandidates path,
        ∃ params mode query, ∃ item ∈ store.items,
          legacy.match? candidate = some ⟨params, mode⟩ ∧ Query.ofParams? params = some query ∧
          item.published = true ∧ query.accepts item = true ∧
          outcome = .permanentRedirect
            (absolute baseUrl (permalink.template.generate item ++ mode.suffix)).text := by
  refine ⟨fun c mode h => ?_, fun outcome h => exists_item_of_legacyStep h⟩
  exact exists_trail_of_canonical (canonical_of_resolves_found (resolve_eq_ok_iff.1 h))

/-- A draft is served in the place of the post that it revises, and the post is its ancestor. -/
theorem resolve_found_ancestry_draft :
    let draft := Content.hello.revise 2
    let router := inMemory .yearTitle .yearTitle .blog ⟨[.hello, draft]⟩ .empty
    router.resolve "/blog/2004/hello.atom" = .ok (.found draft .atom) ∧
      draft.published = false ∧
      ∃ first trail, first.published = true ∧ Revision.IsTrail trail first draft := by
  intro draft router
  have hresolve : router.resolve "/blog/2004/hello.atom" = .ok (.found draft .atom) :=
    eq_ok_of_toOption (by decide +kernel)
  obtain ⟨hfound, -⟩ :=
    resolve_found_ancestry .yearTitle .yearTitle .blog ⟨[.hello, draft]⟩ .empty
      "/blog/2004/hello.atom"
  obtain ⟨params, query, first, trail, -, -, hfirst, htrail, -⟩ := hfound draft .atom hresolve
  obtain ⟨-, -, hpublished⟩ := ContentStore.of_firstPublished? hfirst
  exact ⟨hresolve, rfl, first, trail, hpublished, htrail⟩

end BlogRouting.Router
