import BlogRouting.Proofs.Routing.Canonical
import BlogRouting.Proofs.Text.Spellings

/-!
# Spellings of a request

A path of a site can be requested in many ways: with more slashes than needed, with characters
escaped or not, with a query or a fragment behind it (`SpellsRequest`). They all normalize to the
path, so that each of them is answered as the others are (`normalizeUnder_of_spells`).

The order of the steps is what makes this work. An escaped `?` ends no path, an escaped `%` begins
no escape, and a path that begins like the root loses the root only once.
-/

namespace BlogRouting

/-- A root path as requests have it: one that survives the cutting of queries and the collapsing of
slashes. -/
structure IsRequestRoot (root : List Char) : Prop where
  head_ne : root.head? ≠ some '/'
  last_ne : root.getLast? ≠ some '/'
  single : ¬ ['/', '/'] <:+: root
  no_query : '?' ∉ root
  no_fragment : '#' ∉ root

/-- A way to request the path beneath the root. Any slash, the first one included, may be written
more than once. -/
inductive SpellsRequest (root path : List Char) : List Char → Prop where
  | mk {written requested rest : List Char} (hwritten : Percent.Spells path written)
      (hrequested : Slashes.Repeats ('/' :: (Url.under root ++ written)) requested)
      (hrest : ∀ c ∈ rest.head?, c = '?' ∨ c = '#') : SpellsRequest root path (requested ++ rest)

variable {root path written requested rest : List Char}

/-- A query or a fragment behind a path is cut off, with all that follows. -/
theorem pathOnly_append (hpath : ∀ c ∈ path, c ≠ '?' ∧ c ≠ '#')
    (hrest : ∀ c ∈ rest.head?, c = '?' ∨ c = '#') : pathOnly (path ++ rest) = path := by
  unfold pathOnly
  rw [List.takeWhile_append_of_pos (by simpa using hpath)]
  cases rest with
  | nil => simp
  | cons c rest =>
    have hc : c = '?' ∨ c = '#' := hrest c rfl
    rcases hc with rfl | rfl <;> simp

/-! ## The path behind the root -/

namespace IsRequestRoot

theorem not_mem_under (h : IsRequestRoot root) : '?' ∉ Url.under root ∧ '#' ∉ Url.under root := by
  unfold Url.under
  split
  · simp
  · simp [h.no_query, h.no_fragment]

/-- A path behind the root begins with no slash, also where the root is empty. -/
theorem head?_under_append (h : IsRequestRoot root) (hhead : written.head? ≠ some '/') :
    (Url.under root ++ written).head? ≠ some '/' := by
  unfold Url.under
  split
  · exact hhead
  · rename_i hne
    rw [List.append_assoc, List.head?_append_of_ne_nil _ hne]
    exact h.head_ne

/-- A path behind the root has two slashes in a row only where it had them itself. -/
theorem areSingle_under_append (h : IsRequestRoot root) (hsingle : Slashes.AreSingle written)
    (hhead : written.head? ≠ some '/') :
    Slashes.AreSingle ('/' :: (Url.under root ++ written)) := by
  refine Slashes.areSingle_cons.2 ⟨fun hboth => h.head?_under_append hhead hboth.2, ?_⟩
  unfold Url.under
  split
  · exact hsingle
  · rw [List.append_assoc, Slashes.areSingle_append, List.singleton_append, Slashes.areSingle_cons]
    exact ⟨Slashes.areSingle_iff.2 h.single, ⟨fun hboth => hhead hboth.2, hsingle⟩,
      fun hends => h.last_ne hends.1⟩

end IsRequestRoot

/-- Without its query and with single slashes, a request is the root and the spelled path. -/
theorem trimLeading_collapse_of_repeats (hroot : IsRequestRoot root)
    (hwritten : Percent.Spells path written) (hhead : path.head? ≠ some '/')
    (hsingle : ¬ ['/', '/'] <:+: path)
    (hrequested : Slashes.Repeats ('/' :: (Url.under root ++ written)) requested)
    (hrest : ∀ c ∈ rest.head?, c = '?' ∨ c = '#') :
    Slashes.trimLeading (Slashes.collapse (pathOnly (requested ++ rest)))
      = Url.under root ++ written := by
  have hwrittenHead := hwritten.head?_ne hhead
  have hwrittenSingle := hwritten.areSingle (Slashes.areSingle_iff.2 hsingle)
  -- a character of the request is one of the root or of the spelled path
  have hkept (c : Char) (hc : c ∈ requested) : c ≠ '?' ∧ c ≠ '#' := by
    obtain ⟨hquery, hfragment⟩ := hroot.not_mem_under
    obtain ⟨hquery', hfragment'⟩ := hwritten.not_mem
    have hmem := hrequested.mem hc
    refine ⟨?_, ?_⟩ <;> rintro rfl <;> simp_all
  rw [pathOnly_append hkept hrest, hrequested.collapse_eq,
    Slashes.collapse_eq_self (hroot.areSingle_under_append hwrittenSingle hwrittenHead),
    Slashes.trimLeading_slash,
    Slashes.trimLeading_eq_self (hroot.head?_under_append hwrittenHead)]

/-- All ways to request a path are matched as the path, and a site answers all of them alike. -/
theorem normalizeUnder_of_spells {root path : String} (hroot : IsRequestRoot root.toList)
    (hhead : path.toList.head? ≠ some '/') (hsingle : ¬ ['/', '/'] <:+: path.toList) :
    (∀ raw : String, SpellsRequest root.toList path.toList raw.toList →
      normalizeUnder raw root = path) ∧
    ∀ (router : Router) (raw raw' : String), router.baseUrl.rootPath = root →
      SpellsRequest root.toList path.toList raw.toList →
      SpellsRequest root.toList path.toList raw'.toList →
      router.resolve raw = router.resolve raw' := by
  have hnormalize (raw : String) (h : SpellsRequest root.toList path.toList raw.toList) :
      normalizeUnder raw root = path := by
    generalize htext : raw.toList = text at h
    obtain ⟨hwritten, hrequested, hrest⟩ := h
    have hbehind := trimLeading_collapse_of_repeats hroot hwritten hhead hsingle hrequested hrest
    simp only [normalizeUnder, htext, hbehind, beneath?_under]
    rw [hwritten.readsAs.decodeOnce_eq, String.ofList_toList]
  refine ⟨hnormalize, fun router raw raw' hrouter h h' => ?_⟩
  unfold Router.resolve normalize
  rw [hrouter, hnormalize raw h, hnormalize raw' h']

/-- The path begins with the root again, and an escaped question mark does not end it. -/
theorem normalizeUnder_of_spells_again :
    let router := Router.inMemory .yearTitle .yearTitle .blog ⟨[.hello]⟩ .empty
    normalizeUnder "//blog/blog//%c3%A9%3f?page=2" "blog" = "blog/é?" ∧
      router.resolve "//blog/blog//%c3%A9%3f?page=2" = router.resolve "/blog/blog/é%3F" := by
  intro router
  have hroot : IsRequestRoot "blog".toList :=
    ⟨by decide, by decide, by decide, by decide, by decide⟩
  have hplain {c : Char} {text written : List Char} (hc : c ∉ ['%', '?', '#'])
      (tail : Percent.Spells text written) : Percent.Spells (c :: text) (c :: written) :=
    .cons (.plain hc) tail
  have hblog {text written : List Char} (tail : Percent.Spells text written) :
      Percent.Spells ("blog/".toList ++ text) ("blog/".toList ++ written) :=
    hplain (by decide) (hplain (by decide) (hplain (by decide) (hplain (by decide)
      (hplain (by decide) tail))))
  have haccent : Percent.SpellsBytes (String.utf8EncodeChar 'é') "%c3%A9".toList :=
    .cons (by decide) (by decide) (.cons (by decide) (by decide) .nil)
  have hmark {high low : Char} (hhigh : Percent.IsDigitOf 3 high)
      (hlow : Percent.IsDigitOf 15 low) :
      Percent.SpellsBytes (String.utf8EncodeChar '?') ['%', high, low] := .cons hhigh hlow .nil
  have hunder : Url.under "blog".toList = "blog/".toList := by decide
  have hrequest : SpellsRequest "blog".toList "blog/é?".toList
      "//blog/blog//%c3%A9%3f?page=2".toList := by
    have hwritten : Percent.Spells "blog/é?".toList "blog/%c3%A9%3f".toList :=
      hblog (.cons (.escaped (by decide) haccent)
        (.cons (.escaped (by decide) (hmark (by decide) (by decide))) .nil))
    have hroots : Slashes.Repeats "/blog/blog".toList "//blog/blog".toList := .again (.refl _)
    have hrequested : Slashes.Repeats
        ('/' :: (Url.under "blog".toList ++ "blog/%c3%A9%3f".toList))
        "//blog/blog//%c3%A9%3f".toList := by
      rw [hunder]
      exact hroots.append (.again (.refl "/%c3%A9%3f".toList))
    have hrest : ∀ c ∈ "?page=2".toList.head?, c = '?' ∨ c = '#' := by simp
    exact .mk hwritten hrequested hrest
  have hrequest' : SpellsRequest "blog".toList "blog/é?".toList "/blog/blog/é%3F".toList := by
    have hwritten : Percent.Spells "blog/é?".toList "blog/é%3F".toList :=
      hblog (hplain (by decide)
        (.cons (.escaped (by decide) (hmark (by decide) (by decide))) .nil))
    have hrequested : Slashes.Repeats ('/' :: (Url.under "blog".toList ++ "blog/é%3F".toList))
        "/blog/blog/é%3F".toList := by
      rw [hunder]
      exact .refl _
    have hrest : ∀ c ∈ ([] : List Char).head?, c = '?' ∨ c = '#' := by simp
    exact .mk hwritten hrequested hrest
  have hrouter : router.baseUrl.rootPath = "blog" := by decide +kernel
  have hsingle : ¬ ['/', '/'] <:+: "blog/é?".toList := by decide +kernel
  obtain ⟨hnormalize, hresolve⟩ := normalizeUnder_of_spells hroot (by decide) hsingle
  exact ⟨hnormalize "//blog/blog//%c3%A9%3f?page=2" hrequest,
    hresolve router "//blog/blog//%c3%A9%3f?page=2" "/blog/blog/é%3F" hrouter hrequest hrequest'⟩

end BlogRouting
