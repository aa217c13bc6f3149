import BlogRouting.Proofs.Content.Lookups
import BlogRouting.Proofs.Routing.Generated
import BlogRouting.Proofs.Routing.Steps

/-!
# Canonical addresses

Over a store in memory a lookup gives the first published item that the query accepts, together with
all items that it accepts (`lookup_inMemory_iff`).

The address of an item is answered by the canonical step (`canonical_generate`): normalizing gives
its path back, the path is matched as the item's slug and date, the store's items at that address
are the candidates, and the first published one of them leads to the newest revision.
-/

namespace BlogRouting

/-- A router over stores in memory. -/
def Router.inMemory (permalink legacy : Permalink) (baseUrl : Url) (store : ContentStore)
    (table : RedirectTable) : Router where
  permalink := permalink
  legacy := legacy
  baseUrl := baseUrl
  stores := ⟨store.answer, table.answer⟩

namespace ContentStore

/-- The first published item that the query accepts. -/
def firstPublished? (store : ContentStore) (query : Query) : Option Content :=
  store.items.find? fun item => query.accepts item ∧ item.published

/-- What is found for a query is a published item of the store that the query accepts. -/
theorem of_firstPublished? {store : ContentStore} {query : Query} {item : Content}
    (h : store.firstPublished? query = some item) :
    item ∈ store.items ∧ query.accepts item = true ∧ item.published = true :=
  ⟨List.mem_of_find?_eq_some h, of_decide_eq_true (List.find?_some h :)⟩

/-- The first published item among those found is the first published one that the query accepts. -/
theorem find?_published (store : ContentStore) (query : Query) :
    (store.find query).find? (·.published) = store.firstPublished? query :=
  List.find?_filter

/-- The items that live at the same address as the item. -/
def atAddress (store : ContentStore) (t : Template) (content : Content) : List Content :=
  store.items.filter (t.sameAddress content)

/-- The first published item at the address of the item. -/
def firstAt? (store : ContentStore) (t : Template) (content : Content) : Option Content :=
  (store.atAddress t content).find? (·.published)

end ContentStore

namespace Router

variable {format : String} {permalink legacy : Permalink} {baseUrl : Url} {store : ContentStore}
  {table : RedirectTable} {content item : Content} {candidates : List Content} {params : Params}

/-- A lookup in a store of its own gives the first published item at the address, and all items
there as candidates. -/
theorem lookup_inMemory_iff :
    (inMemory permalink legacy baseUrl store table).lookup params = .ok (some (item, candidates)) ↔
      ∃ query, Query.ofParams? params = some query ∧ candidates = store.find query ∧
        store.firstPublished? query = some item := by
  rw [lookup_eq_ok_some_iff]
  refine exists_congr fun query => and_congr_right fun _ => ?_
  rw [← store.find?_published query]
  refine ⟨?_, ?_⟩
  · intro h
    obtain ⟨hcandidates, hitem⟩ := h
    cases hcandidates
    exact ⟨rfl, hitem⟩
  · intro h
    obtain ⟨rfl, hitem⟩ := h
    exact ⟨rfl, hitem⟩

/-- The path of an item, in any mode, is answered by the canonical step if a published item lives
there. -/
theorem canonical_generate (hcompile : Permalink.compile format = .ok permalink)
    (hclear : permalink.template.IsClear) (hcontent : content.IsAddressable permalink.template)
    (hfirst : store.firstAt? permalink.template content = some item) (mode : Mode) :
    (inMemory permalink legacy baseUrl store table).canonical
        (permalink.template.generate content ++ mode.suffix)
      = .ok (some (.ofRevision mode
          (Revision.latest? item (store.atAddress permalink.template content)))) := by
  have hcompiled := Permalink.isCompiled hcompile
  obtain ⟨params, hanswers, hparams⟩ :=
    Template.answers_generate hcompiled hclear hcontent mode
  have htitle : permalink.template.has .title = true := by
    simpa [Template.has] using hcompiled.title_mem
  obtain ⟨query, hquery, haccepts⟩ :=
    Query.exists_ofParams? hcontent.date hcontent.year htitle hparams
  -- the query accepts exactly what lives at the address
  have hfind : store.find query = store.atAddress permalink.template content :=
    List.filter_congr fun other _ => haccepts other
  refine canonical_eq_ok_some_iff.2 ⟨_, item, _, Template.match?_eq_some_iff.2 hanswers, ?_, rfl⟩
  exact lookup_eq_ok_some_iff.2 ⟨query, hquery, congrArg Except.ok hfind, hfirst⟩

/-- The address of an item, in any mode, serves the newest revision of the first published item
that lives there. -/
theorem canonical_absolute (hbase : baseUrl.IsBase)
    (hcompile : Permalink.compile format = .ok permalink)
    (hclear : permalink.template.IsClear) (hcontent : content.IsAddressable permalink.template)
    (hfirst : store.firstAt? permalink.template content = some item) (mode : Mode) :
    (inMemory permalink legacy baseUrl store table).canonical
        (normalize (absolute baseUrl
          (permalink.template.generate content ++ mode.suffix)).path.text baseUrl)
      = .ok (some (.ofRevision mode
          (Revision.latest? item (store.atAddress permalink.template content)))) := by
  have hrelative :=
    Template.isRelative_generate (Permalink.isCompiled hcompile) hclear hcontent mode
  rw [normalize_absolute hbase hrelative]
  exact canonical_generate hcompile hclear hcontent hfirst mode

/-- A canonical URL serves its content, in the mode that it asks for and whatever the legacy format
and the redirects are. -/
theorem resolve_absolute_generate (hbase : baseUrl.IsBase)
    (hcompile : Permalink.compile format = .ok permalink)
    (hclear : permalink.template.IsClear) (hcontent : content.IsAddressable permalink.template)
    (hfirst : store.firstAt? permalink.template content = some content) (mode : Mode) :
    (inMemory permalink legacy baseUrl store table).resolve
        (absolute baseUrl (permalink.template.generate content ++ mode.suffix)).path.text
      = .ok (.ofRevision mode
          (Revision.latest? content (store.atAddress permalink.template content))) :=
  resolve_of_canonical (canonical_absolute hbase hcompile hclear hcontent hfirst mode)

/-- A request for the feed of a post serves the revision of the post. -/
theorem resolve_absolute_generate_revision :
    Permalink.compile "/%year%/%title%" = .ok .yearTitle ∧
      Url.parse "http://myblog.net/blog/" = .ok .blog ∧
      (inMemory .yearTitle .yearTitle .blog ⟨[.hello, Content.hello.revise 2]⟩ .empty).resolve
        "/blog/2004/hello.atom" = .ok (.found (Content.hello.revise 2) .atom) := by
  have haddress : (absolute .blog (Permalink.yearTitle.template.generate .hello ++
      Mode.atom.suffix)).path.text = "/blog/2004/hello.atom" := by decide +kernel
  have hlatest : Revision.latest? .hello
      (ContentStore.atAddress ⟨[.hello, Content.hello.revise 2]⟩ Permalink.yearTitle.template
        .hello)
        = some (Content.hello.revise 2) := by decide +kernel
  have hresolve := @resolve_absolute_generate _ _ .yearTitle _
    ⟨[.hello, Content.hello.revise 2]⟩ .empty _ Url.isBase_blog Permalink.compile_yearTitle
    Permalink.isClear_yearTitle Content.isAddressable_hello (by decide +kernel) .atom
  rw [haddress, hlatest] at hresolve
  exact ⟨Permalink.compile_yearTitle, Url.parse_blog, hresolve⟩

end Router

end BlogRouting
