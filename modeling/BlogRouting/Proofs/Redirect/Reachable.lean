import BlogRouting.Proofs.Redirect.Tables
import BlogRouting.Proofs.Routing.Spellings
import BlogRouting.Proofs.Url.Given

/-!
# Redirects that stay reachable

A redirect is stored under the path that a site without a root path would match a request for it
as. Requests come with a root path in front, and it makes no difference: behind the root, queries,
slashes and escapes are read as they are without one (`normalizeUnder_requestFor`). A short code
reads as itself (`normalizeUnder_render`). As no later insertion changes or shadows a redirect, it
is found by a request for its path whatever else is inserted (`get?_normalize_requestFor`). The base
can be a URL of any scheme, read from a text and changed any number of times; `Url.isGiven_iff` says
which URLs that can be made are left out.
-/

namespace BlogRouting

/-- The request for a path of a site with the root path `root`. -/
def requestFor (root path : String) : String :=
  if root = "" then "/" ++ path else "/" ++ root ++ "/" ++ path

/-- A request begins with a slash, with the root behind it if there is one. -/
theorem toList_requestFor (root path : String) :
    (requestFor root path).toList = '/' :: (Url.under root.toList ++ path.toList) := by
  by_cases h : root = "" <;> simp [requestFor, Url.under, h]

/-! ## Reading behind the root -/

/-- A path in which no query and no fragment begins is the root of requests once the slashes at its
ends are gone, unless two slashes in a row are left. -/
theorem isRequestRoot_trim {path : List Char} (h : Url.IsWhole path)
    (hsingle : ¬ ['/', '/'] <:+: Slashes.trim path) : IsRequestRoot (Slashes.trim path) :=
  ⟨Slashes.head?_trim path, Slashes.getLast?_trim path, hsingle,
    fun hc => (h _ (Slashes.mem_of_mem_trim hc)).1 rfl,
    fun hc => (h _ (Slashes.mem_of_mem_trim hc)).2 rfl⟩

/-- The root path of a URL that is given is one that requests can be compared with. -/
theorem Url.IsGiven.isRequestRoot {url : Url} (h : url.IsGiven)
    (hsingle : ¬ ['/', '/'] <:+: url.rootPath.toList) : IsRequestRoot url.rootPath.toList := by
  rw [Url.rootPath, String.toList_ofList] at *
  exact isRequestRoot_trim h.isWhole_path hsingle

/-- What is cut off behind a query or a fragment is cut off behind what stands in front of
it, too. -/
theorem pathOnly_append_of_isWhole {front : List Char} (h : Url.IsWhole front)
    (path : List Char) : pathOnly (front ++ path) = front ++ pathOnly path := by
  unfold pathOnly
  exact List.takeWhile_append_of_pos (by simpa [Url.IsWhole] using h)

/-- Nothing is cut off a path in which neither a query nor a fragment begins. -/
theorem pathOnly_of_isWhole {path : List Char} (h : Url.IsWhole path) : pathOnly path = path :=
  List.takeWhile_eq_self_iff.2 (by simpa [Url.IsWhole] using h)

/-- No query and no fragment begins in the root of a request. -/
theorem IsRequestRoot.isWhole_under {root : List Char} (h : IsRequestRoot root) :
    Url.IsWhole ('/' :: Url.under root) := by
  obtain ⟨hquery, hfragment⟩ := h.not_mem_under
  intro c hc
  refine ⟨?_, ?_⟩ <;> rintro rfl <;> simp_all

/-- The slash behind the root stands for all slashes there, so the path behind it loses its own. -/
theorem trimLeading_collapse_under {root : List Char} (hroot : IsRequestRoot root)
    (path : List Char) :
    Slashes.trimLeading (Slashes.collapse (pathOnly ('/' :: (Url.under root ++ path))))
      = Url.under root ++ Slashes.trimLeading (Slashes.collapse (pathOnly path)) := by
  rw [← List.cons_append, pathOnly_append_of_isWhole hroot.isWhole_under]
  generalize pathOnly path = path
  unfold Url.under
  split
  · rw [List.singleton_append, Slashes.collapse_slash_cons, Slashes.trimLeading_slash,
      Slashes.trimLeading_eq_self (Slashes.head?_trimLeading _), List.nil_append]
  · rename_i hne
    -- nothing of the root collapses, also not with what is behind its slash
    have hsingle : Slashes.AreSingle ('/' :: root) :=
      Slashes.areSingle_cons.2
        ⟨fun hboth => hroot.head_ne hboth.2, Slashes.areSingle_iff.2 hroot.single⟩
    have hlast : ('/' :: root).getLast? ≠ some '/' := by
      rw [List.getLast?_cons_of_ne_nil hne]
      exact hroot.last_ne
    have hhead (rest : List Char) : (root ++ rest).head? ≠ some '/' := by
      rw [List.head?_append_of_ne_nil _ hne]
      exact hroot.head_ne
    rw [← List.cons_append, List.append_assoc, List.singleton_append,
      Slashes.collapse_append hsingle hlast, Slashes.collapse_slash_cons, List.cons_append,
      Slashes.trimLeading_slash, Slashes.trimLeading_eq_self (hhead _), List.append_assoc,
      List.singleton_append]

/-- A request for a path beneath the root is matched as the path is where there is no root. -/
theorem normalizeUnder_requestFor {root : String} (hroot : IsRequestRoot root.toList)
    (path : String) : normalizeUnder (requestFor root path) root = normalizeUnder path "" := by
  simp only [normalizeUnder, toList_requestFor, trimLeading_collapse_under hroot, beneath?_under,
    String.toList_empty, beneath?_nil, Option.getD_none]

/-- Without slashes, queries, fragments and escapes a path is matched as it stands. -/
theorem normalizeUnder_eq_self {path : String} (h : ∀ c ∈ path.toList, c ∉ ['/', '?', '#', '%']) :
    normalizeUnder path "" = path := by
  have hnone {c : Char} (hc : c ∈ ['/', '?', '#', '%']) : c ∉ path.toList :=
    fun hmem => h c hmem hc
  have hwhole : Url.IsWhole path.toList := by
    intro c hc
    have hplain := h c hc
    refine ⟨?_, ?_⟩ <;> rintro rfl <;> exact hplain (by simp)
  rw [normalizeUnder, pathOnly_of_isWhole hwhole,
    Slashes.collapse_eq_self (Slashes.areSingle_of_not_mem (hnone (by simp))),
    Slashes.trimLeading_eq_self fun hhead => hnone (by simp) (List.mem_of_head? hhead),
    String.toList_empty, beneath?_nil, Option.getD_none,
    Percent.decodeOnce_eq_self (hnone (by simp)), String.ofList_toList]

/-- A short code is digits and letters, so it is matched as it stands. -/
theorem normalizeUnder_render (n : Nat) :
    normalizeUnder (ShortCode.render n) "" = ShortCode.render n :=
  normalizeUnder_eq_self fun _ => ShortCode.not_mem_of_mem_render

namespace RedirectTable

variable {table next : RedirectTable} {before behind : List Redirect} {redirect stored : Redirect}
  {base : Url}

/-- How the path of a redirect is requested: as it was given, or by the code that was made up. -/
def requested (table : RedirectTable) (redirect : Redirect) : String :=
  if storedPath redirect.fromPath = "" then table.nextShortCode else trimBlank redirect.fromPath

/-- Where there is no root, a redirect is requested by the path that it is stored under. -/
theorem normalizeUnder_requested (table : RedirectTable) (redirect : Redirect) :
    normalizeUnder (table.requested redirect) "" = (table.settle redirect).fromPath := by
  by_cases hpath : storedPath redirect.fromPath = ""
  · obtain ⟨n, -, hcode, -⟩ := table.exists_nextShortCode
    rw [requested, if_pos hpath, fromPath_settle_of_eq_empty hpath, hcode, normalizeUnder_render]
  · rw [requested, if_neg hpath, fromPath_settle_of_ne_empty hpath, storedPath]

/-- A redirect that was inserted is in the table from then on. -/
theorem mem_records_after_insert (h : table.insert redirect = .ok (stored, next))
    (behind : List Redirect) : stored ∈ (table.after (redirect :: behind)).records := by
  obtain ⟨hfree, rfl, -⟩ := insert_eq_ok_iff.1 h
  rw [after_cons, perform_of_not_isTaken hfree]
  exact mem_records_after (List.mem_append_right _ (List.mem_singleton_self _)) behind

/-- Whatever is inserted before and after it, a redirect that was inserted is found by a request for
its path, beneath any root path with single slashes. Where no post answers the request, the redirect
does. -/
theorem get?_normalize_requestFor
    (hinsert : (empty.after before).insert redirect = .ok (stored, next))
    (hbase : base.IsGiven) (hsingle : ¬ ['/', '/'] <:+: base.rootPath.toList) :
    let final := empty.after (before ++ redirect :: behind)
    let raw := requestFor base.rootPath ((empty.after before).requested redirect)
    final.get? (normalize raw base) = some stored ∧ stored.toPath = redirect.toPath ∧
      ∀ router : Router, router.baseUrl = base → router.stores.redirects = final.answer →
        router.canonical (normalize raw base) = .ok none →
        router.legacyStep (normalize raw base) = .ok none →
        router.resolve raw = .ok (.permanentRedirect (redirectTarget base redirect.toPath)) := by
  intro final raw
  have hmem : stored ∈ final.records := by
    show stored ∈ (empty.after (before ++ redirect :: behind)).records
    rw [after_append]
    exact mem_records_after_insert hinsert behind
  obtain ⟨-, rfl, -⟩ := insert_eq_ok_iff.1 hinsert
  -- behind the root the request is read as the path of the redirect was before it was stored
  have hnormalize : normalize raw base = ((empty.after before).settle redirect).fromPath := by
    rw [normalize, normalizeUnder_requestFor (hbase.isRequestRoot hsingle),
      normalizeUnder_requested]
  have hsound : final.IsSound := isSound_empty.after _
  have hget : final.get? (normalize raw base) = some ((empty.after before).settle redirect) :=
    hsound.get?_eq_some_iff.2 ⟨hmem, hnormalize.symm⟩
  refine ⟨hget, toPath_settle _ _, ?_⟩
  intro router hrouter hstores hcanonical hlegacy
  subst hrouter
  refine Router.resolve_eq_ok_iff.2 (.redirect hcanonical hlegacy ?_)
  refine Router.redirectStep_eq_ok_some_iff.2 ⟨(empty.after before).settle redirect, ?_, ?_⟩
  · rw [hstores]
    exact congrArg Except.ok hget
  · rw [toPath_settle]

/-- The redirect is found beneath the root path of the site, behind an insertion that fails. -/
theorem get?_normalize_requestFor_spelled :
    let final := empty.after
      [⟨"2", "/taken"⟩, ⟨" //old/caf%C3%A9?x=1 ", "/new"⟩, ⟨"old/café", "/other"⟩, ⟨"", "/c"⟩]
    let router := Router.inMemory .yearTitle .yearTitle .blog ⟨[.hello]⟩ final
    final.get? (normalize "/blog///old/caf%C3%A9?x=1" .blog) = some ⟨"old/café", "/new"⟩ ∧
      router.resolve "/blog///old/caf%C3%A9?x=1"
        = .ok (.permanentRedirect "http://myblog.net/blog/new") := by
  intro final router
  have hinsert : (empty.after [⟨"2", "/taken"⟩]).insert ⟨" //old/caf%C3%A9?x=1 ", "/new"⟩
      = .ok (⟨"old/café", "/new"⟩, ⟨[⟨"2", "/taken"⟩, ⟨"old/café", "/new"⟩]⟩) :=
    eq_ok_of_toOption (by decide +kernel)
  have hraw : requestFor Url.blog.rootPath
      ((empty.after [⟨"2", "/taken"⟩]).requested ⟨" //old/caf%C3%A9?x=1 ", "/new"⟩)
        = "/blog///old/caf%C3%A9?x=1" := by decide +kernel
  have htarget : redirectTarget .blog "/new" = "http://myblog.net/blog/new" := by decide +kernel
  have hreach := @get?_normalize_requestFor _ _ [⟨"old/café", "/other"⟩, ⟨"", "/c"⟩] _ _ .blog
    hinsert (.parse Url.parse_blog) (by decide +kernel)
  rw [hraw] at hreach
  obtain ⟨hget, -, hresolve⟩ := hreach
  have hcanonical : router.canonical (normalize "/blog///old/caf%C3%A9?x=1" .blog) = .ok none :=
    eq_ok_of_toOption (by decide +kernel)
  have hlegacy : router.legacyStep (normalize "/blog///old/caf%C3%A9?x=1" .blog) = .ok none :=
    eq_ok_of_toOption (by decide +kernel)
  refine ⟨hget, ?_⟩
  rw [← htarget]
  exact hresolve router rfl rfl hcanonical hlegacy

end RedirectTable

end BlogRouting
