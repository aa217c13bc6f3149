import BlogRouting.Proofs.Content.Revisions
import BlogRouting.Proofs.Content.Stores
import BlogRouting.Proofs.Routing.Canonical

/-!
# Saving a revision

Whoever revises what a path is answered with, and stores the revision, is answered with the
revision from then on. The store gives the revision an id that no chain has met, and puts it behind
all candidates, so the question is what a candidate more does to the walk.

* **`Reaches.append`**: the chain takes the same steps as before and then one more, to the
  revision. Nothing that the chain passes before its end has the id of the end, so the revision
  is no choice at any earlier step.
* **`latest?_append`**: the revision is the new end of the chain, if the limit lets it.
* **`resolve_insert_revise`**: the published item is chosen as before and leads there.
-/

namespace BlogRouting

/-! ## One candidate more -/

namespace Revision

variable {candidates : List Content} {a c next revision : Content} {id k : Nat}

/-- A revision of something else does not come next. -/
theorem IsNext.append (h : IsNext candidates id next) (hparent : revision.parent ≠ some id) :
    IsNext (candidates ++ [revision]) id next := by
  obtain ⟨before, after, rfl, hnext, hbefore, hafter⟩ := h
  refine ⟨before, after ++ [revision], by simp, hnext, hbefore, fun other hother hsame => ?_⟩
  rcases List.mem_append.1 hother with hother | hother
  · exact hafter other hother hsame
  · rw [List.mem_singleton.1 hother] at hsame
    exact absurd hsame hparent

/-- A revision of something else does not go on from the end of the chain. -/
theorem IsLast.append (h : IsLast candidates c) (hparent : revision.parent ≠ some c.id) :
    IsLast (candidates ++ [revision]) c := by
  intro other hother
  rcases List.mem_append.1 hother with hother | hother
  · exact h other hother
  · rwa [List.mem_singleton.1 hother]

/-- Where a chain ended, a revision of its end comes next. -/
theorem IsLast.isNext_append (h : IsLast candidates c) (hparent : revision.parent = some c.id) :
    IsNext (candidates ++ [revision]) c.id revision := by
  refine ⟨candidates, [], rfl, hparent, fun other hother hsame => ?_, by simp⟩
  exact absurd hsame (h other hother)

/-- A revision of the end of a chain makes the chain longer by itself. -/
theorem Reaches.append (h : Reaches candidates a k c) (hlast : IsLast candidates c)
    (hparent : revision.parent = some c.id) :
    Reaches (candidates ++ [revision]) a (k + 1) revision := by
  induction h with
  | refl c => exact .step (hlast.isNext_append hparent) (.refl revision)
  | @step current next c k head tail ih =>
    -- with the id of the end, the current content would have no next revision
    have hother : revision.parent ≠ some current.id := by
      intro hsame
      have hid : c.id = current.id := Option.some.inj (hparent.symm.trans hsame)
      rw [← hid] at head
      exact head.not_isLast hlast
    exact .step (head.append hother) (ih hlast hparent)

/-- The revision is the newest version then, if the chain was shorter than the limit and nothing
supersedes the revision in turn. -/
theorem latest?_append (h : Reaches candidates a k c) (hlast : IsLast candidates c)
    (hk : k < depthLimit) (hparent : revision.parent = some c.id) (hid : c.id ≠ revision.id)
    (hfresh : ∀ other ∈ candidates, other.parent ≠ some revision.id) :
    latest? a (candidates ++ [revision]) = some revision := by
  have hend : IsLast (candidates ++ [revision]) revision := by
    refine IsLast.append hfresh ?_
    rw [hparent]
    exact fun hsame => hid (Option.some.inj hsame)
  exact latest?_eq_some_iff.2 ⟨k + 1, hk, h.append hlast hparent, hend⟩

end Revision

/-! ## The store afterwards -/

namespace ContentStore

variable {readings : Transliteration} {store : ContentStore} {content : Content} {query : Query}

theorem firstPublished?_insert (h : content.published = false) :
    (store.insert readings content).firstPublished? query = store.firstPublished? query := by
  have hsettle : (store.settle readings content).published = false := h
  rw [firstPublished?, items_insert, List.find?_append]
  simp [hsettle, firstPublished?]

end ContentStore

/-! ## The answer afterwards -/

namespace Router

variable {format : String} {permalink legacy : Permalink} {baseUrl : Url} {store : ContentStore}
  {table : RedirectTable} {c : Content} {path rawPath : String} {mode : Mode} {n : Nat}

/-- The canonical step serves the newest version of the first published item at the address. -/
theorem canonical_inMemory_found_iff :
    (inMemory permalink legacy baseUrl store table).canonical path
        = .ok (some (.found c mode)) ↔
      ∃ params query first, permalink.match? path = some ⟨params, mode⟩ ∧
        Query.ofParams? params = some query ∧ store.firstPublished? query = some first ∧
        Revision.latest? first (store.find query) = some c := by
  rw [canonical_eq_ok_some_iff]
  refine ⟨?_, ?_⟩
  · intro h
    obtain ⟨found, first, candidates, hmatch, hlookup, houtcome⟩ := h
    obtain ⟨query, hquery, rfl, hfirst⟩ := lookup_inMemory_iff.1 hlookup
    cases hlatest : Revision.latest? first (store.find query) with
    | none => exact absurd houtcome (by simp [hlatest, Outcome.ofRevision])
    | some latest =>
      obtain ⟨rfl, rfl⟩ : c = latest ∧ mode = found.mode := by
        simpa [hlatest, Outcome.ofRevision] using houtcome
      exact ⟨found.params, query, first, hmatch, hquery, hfirst, hlatest⟩
  · intro h
    obtain ⟨params, query, first, hmatch, hquery, hfirst, hlatest⟩ := h
    refine ⟨⟨params, mode⟩, first, store.find query, hmatch,
      lookup_inMemory_iff.2 ⟨query, hquery, rfl, hfirst⟩, ?_⟩
    rw [hlatest, Outcome.ofRevision]

/-- The content is at most `n` revisions away from the published item that the path names. -/
def IsReached (permalink : Permalink) (store : ContentStore) (path : String) (n : Nat)
    (c : Content) : Prop :=
  ∃ params mode query first, permalink.match? path = some ⟨params, mode⟩ ∧
    Query.ofParams? params = some query ∧ store.firstPublished? query = some first ∧
    ∃ k ≤ n, Revision.Reaches (store.find query) first k c

/-- All revisions that are reached are at the address of the item. -/
theorem mem_find_of_reaches {query : Query} {first : Content} {k : Nat}
    (hfirst : store.firstPublished? query = some first)
    (h : Revision.Reaches (store.find query) first k c) : c ∈ store.find query := by
  rcases h.eq_or_mem with rfl | hmem
  · obtain ⟨hstored, haccepts, -⟩ := ContentStore.of_firstPublished? hfirst
    exact List.mem_filter.2 ⟨hstored, haccepts⟩
  · exact hmem

/-- A compiled template leaves something for the slug, so what is asked for has one. -/
theorem permalink_ne_empty (hcompile : Permalink.compile format = .ok permalink)
    {params : Params} {query : Query} (hmatch : permalink.match? path = some ⟨params, mode⟩)
    (hquery : Query.ofParams? params = some query) (haccepts : query.accepts c = true) :
    c.permalink ≠ "" := by
  obtain ⟨text, hcapture⟩ := (Template.match?_eq_some_iff.1 hmatch).exists_capture?
  rw [((Query.accepts_iff_describes hquery).1 haccepts).slug]
  exact Template.slug_ne_empty_of_capture? (Permalink.isCompiled hcompile) hcapture

/-- Whoever stores a revision of what is served is served the revision from then on, unless it is
one too many. It gets an id one greater than the greatest one, and nothing may have named that id as
its parent already. -/
theorem resolve_insert_revise (readings : Transliteration)
    (hcompile : Permalink.compile format = .ok permalink)
    (hfound : (inMemory permalink legacy baseUrl store table).resolve rawPath
      = .ok (.found c mode))
    (hreached : IsReached permalink store (normalize rawPath baseUrl) 15 c)
    (hfresh : ∀ item ∈ store.items, item.parent ≠ some store.nextId) :
    let revision : Content :=
      { c with id := store.nextId, published := false, parent := some c.id }
    (store.insert readings (c.revise 0)).items = store.items ++ [revision] ∧
      ((∀ item ∈ store.items, item.id < revision.id) ∧
        ∃ item ∈ store.items, revision.id = item.id + 1) ∧
      (inMemory permalink legacy baseUrl (store.insert readings (c.revise 0)) table).resolve rawPath
        = .ok (.found revision mode) := by
  intro revision
  obtain ⟨params, query, first, hmatch, hquery, hfirst, hlatest⟩ :=
    canonical_inMemory_found_iff.1 (canonical_of_resolves_found (resolve_eq_ok_iff.1 hfound))
  obtain ⟨params', mode', query', first', hmatch', hquery', hfirst', k, hk, hreaches⟩ := hreached
  -- both speak of the same match, so of the same query and the same item
  obtain ⟨rfl, rfl⟩ : params = params' ∧ mode = mode' := by
    simpa using hmatch.symm.trans hmatch'
  obtain rfl : query = query' := Option.some.inj (hquery.symm.trans hquery')
  obtain rfl : first = first' := Option.some.inj (hfirst.symm.trans hfirst')
  obtain ⟨-, -, -, hlast⟩ := Revision.latest?_eq_some_iff.1 hlatest
  obtain ⟨hstored, haccepts⟩ := List.mem_filter.1 (mem_find_of_reaches hfirst hreaches)
  have hslug : c.permalink ≠ "" := permalink_ne_empty hcompile hmatch hquery haccepts
  have hrevision : store.settle readings (c.revise 0) = revision := ContentStore.settle_revise hslug
  refine ⟨?_, ⟨fun item hitem => ContentStore.lt_nextId hitem,
    ContentStore.exists_nextId_eq (List.ne_nil_of_mem hstored)⟩, ?_⟩
  · rw [ContentStore.items_insert, hrevision]
  · refine resolve_of_canonical (canonical_inMemory_found_iff.2
      ⟨params, query, first, hmatch, hquery, ?_, ?_⟩)
    · rw [ContentStore.firstPublished?_insert rfl]
      exact hfirst
    · rw [ContentStore.find_insert_revise hslug haccepts, hrevision]
      refine Revision.latest?_append hreaches hlast (Nat.lt_succ_of_le hk) rfl ?_ ?_
      · exact Nat.ne_of_lt (ContentStore.lt_nextId hstored)
      · exact fun other hother => hfresh other (List.mem_filter.1 hother).1

/-- A draft of a draft takes its place in the feed. -/
theorem resolve_insert_revise_draft :
    let store : ContentStore := ⟨[.hello, Content.hello.revise 2]⟩
    (inMemory .yearTitle .yearTitle .blog store .empty).resolve "/blog/2004/hello.atom"
        = .ok (.found (Content.hello.revise 2) .atom) ∧
      (inMemory .yearTitle .yearTitle .blog
        (store.insert (fun _ => none) ((Content.hello.revise 2).revise 0)) .empty).resolve
          "/blog/2004/hello.atom"
        = .ok (.found ((Content.hello.revise 2).revise 3) .atom) := by
  intro store
  have hfound : (inMemory .yearTitle .yearTitle .blog store .empty).resolve
      "/blog/2004/hello.atom" = .ok (.found (Content.hello.revise 2) .atom) :=
    eq_ok_of_toOption (by decide +kernel)
  have hnext : Revision.IsNext (store.find ⟨"hello", some 2004, none, none⟩) Content.hello.id
      (Content.hello.revise 2) := Revision.next?_eq_some_iff.1 (by decide +kernel)
  have hreached : IsReached .yearTitle store (normalize "/blog/2004/hello.atom" .blog) 15
      (Content.hello.revise 2) :=
    ⟨{ year := some "2004", title := some "hello" }, .atom, ⟨"hello", some 2004, none, none⟩,
      .hello, by decide +kernel, by decide +kernel, by decide +kernel, 1, by decide,
      .step hnext (.refl _)⟩
  obtain ⟨-, -, hrevised⟩ :=
    resolve_insert_revise (fun _ => none) Permalink.compile_yearTitle hfound
    hreached (by decide +kernel)
  exact ⟨hfound, hrevised⟩

end Router

end BlogRouting
