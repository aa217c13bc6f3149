import BlogRouting.Proofs.Routing.Canonical

/-!
# Redirects to the site itself

A redirect to a path of the site is answered as a request for the path itself
(`normalize_redirectTarget`). Both ways look whether the path is beneath the root path, but not at
the same text: the target is made from the path as it was given, and the request that follows has
the path as a URL spells it.

The crux is `beneath?_rooted`. A root path is in its final spelling, so a path is spelled beneath
it whenever it was given beneath it. A path that was not given beneath it has the root put in
front, and the request loses exactly that.
-/

namespace BlogRouting

/-- The path of a target that stays on the site. A URL takes its characters as they are, no segment
is dots, and its slashes are in order behind those that it begins with. -/
structure IsInternal (path : List Char) : Prop where
  ordinary : ∀ c ∈ path, IsOrdinary c
  no_dots : ∀ piece ∈ path.splitOn '/', piece ≠ ['.'] ∧ piece ≠ ['.', '.']
  single : ¬ ['/', '/'] <:+: Slashes.trimLeading path

/-- Without its leading slashes, a path has no pieces that it did not have before. -/
theorem mem_splitOn_of_trimLeading {path piece : List Char}
    (h : piece ∈ (Slashes.trimLeading path).splitOn '/') : piece ∈ path.splitOn '/' := by
  induction path with
  | nil => exact h
  | cons c path ih =>
    by_cases hc : c = '/'
    · subst hc
      rw [Slashes.trimLeading_slash] at h
      rw [Url.splitOn_slash_cons]
      exact List.mem_cons_of_mem _ (ih h)
    · rwa [Slashes.trimLeading_eq_self (by simpa using hc)] at h

/-- Behind its leading slashes, an internal target is a path that an address can be made of. -/
theorem IsInternal.isRelative {path : List Char} (h : IsInternal path) :
    IsRelative (Slashes.trimLeading path) where
  single := Slashes.areSingle_iff.2 h.single
  head_ne := Slashes.head?_trimLeading path
  ordinary := fun c hc => h.ordinary c ((List.dropWhile_sublist _).subset hc)
  no_dots := fun _ hpiece => h.no_dots _ (mem_splitOn_of_trimLeading hpiece)

/-! ## Beneath the root -/

/-- The path beneath the root path, which is put in front unless it is there already. -/
def rooted (root path : List Char) : List Char :=
  if root = [] ∨ (beneath? root path).isSome then path else root ++ '/' :: path

section Rooted

open Url

variable {root path : List Char}

/-- The root is put in front of a path once, if at all. -/
theorem rooted_eq_or (root path : List Char) :
    rooted root path = path ∨ root ≠ [] ∧ rooted root path = root ++ '/' :: path := by
  unfold rooted
  split_ifs with h
  · exact .inl rfl
  · exact .inr ⟨fun hnil => h (.inl hnil), rfl⟩

/-- Putting the root in front makes no dots and nothing to escape. -/
theorem isPlain_rooted (hroot : IsRoot root) (hpath : IsRelative path) :
    IsPlain (rooted root path) := by
  have hplain := isPlain_of_isRelative hpath
  rcases rooted_eq_or root path with heq | ⟨-, heq⟩
  · rwa [heq]
  · rw [heq]
    exact isPlain_append_slash.2 ⟨hroot.plain, hplain⟩

/-- Putting the root in front makes no two slashes in a row. -/
theorem areSingle_rooted (hroot : IsRoot root) (hpath : IsRelative path) :
    Slashes.AreSingle ('/' :: rooted root path) := by
  rcases rooted_eq_or root path with heq | ⟨hne, heq⟩
  · rw [heq]
    exact Slashes.areSingle_cons.2 ⟨fun hslashes => hpath.head_ne hslashes.2, hpath.single⟩
  · have hunder : '/' :: (root ++ '/' :: path) = '/' :: under root ++ path := by
      simp [under, hne]
    rw [heq, hunder]
    exact Slashes.areSingle_append.2
      ⟨hroot.single, hpath.single, fun hends => hpath.head_ne hends.2⟩

/-- A spelled path leaves the root path as the path itself does, and what is left is spelled. -/
theorem beneath?_rooted (hroot : IsRoot root) (path : List Char) :
    (beneath? root (spelled (rooted root path))).getD (spelled (rooted root path))
      = spelled ((beneath? root path).getD path) := by
  have hspelled : spelled root = root := spelled_eq_self hroot.spelled
  have hbehind (rest : List Char) (hne : root ≠ []) :
      beneath? root (spelled (root ++ '/' :: rest)) = some (spelled rest) := by
    refine beneath?_eq_some_iff.2 ⟨hne, .inr ?_⟩
    rw [spelled_append, hspelled, spelled_cons_of_not_escaped (by decide)]
  by_cases hnil : root = []
  · rw [rooted, if_pos (.inl hnil), hnil, beneath?_nil, beneath?_nil]
    rfl
  cases hpath : beneath? root path with
  | some rest =>
    rw [rooted, if_pos (.inr (by rw [hpath]; rfl)), Option.getD_some]
    obtain ⟨-, ⟨rfl, rfl⟩ | rfl⟩ := beneath?_eq_some_iff.1 hpath
    · -- the path is the root, so nothing of it is left
      rw [hspelled, hpath]
      rfl
    · rw [hbehind rest hnil, Option.getD_some]
  | none =>
    -- also a path that only begins with the letters of the root comes here
    have hneither : ¬ (root = [] ∨ (beneath? root path).isSome) := by simp [hnil, hpath]
    rw [rooted, if_neg hneither, hbehind path hnil, Option.getD_some, Option.getD_none]

/-- What is left of a path behind a root has no escapes if the path has none. -/
theorem IsRelative.not_mem_beneath? (h : IsRelative path) (root : List Char) :
    '%' ∉ (beneath? root path).getD path := by
  have hpath : '%' ∉ path := fun hmem => (h.ordinary _ hmem).1 rfl
  cases hrest : beneath? root path with
  | none => exact hpath
  | some rest =>
    obtain ⟨-, ⟨-, rfl⟩ | rfl⟩ := beneath?_eq_some_iff.1 hrest
    · simp
    · intro hmem
      exact hpath (List.mem_append_right _ (List.mem_cons_of_mem _ hmem))

end Rooted

/-! ## Targets -/

/-- The path that a target names, without the slashes in front. -/
def namedPath (target : String) : List Char :=
  Slashes.trimLeading (pathOnly target.toList)

/-- The URL that a target without a scheme leads to. -/
def targetUrl (base : Url) (target : String) : Url :=
  let (rest, fragment) := Url.cutAt '#' target.toList
  let url := base.withPath (.ofList ('/' :: rooted base.rootPath.toList (namedPath target)))
  (url.withQuery ((Url.cutAt '?' rest).2.map String.ofList)).withFragment
    (fragment.map String.ofList)

/-- Cutting off the fragment and then the query leaves what a request is matched by. -/
theorem cutAt_eq_pathOnly (text : List Char) :
    (Url.cutAt '?' (Url.cutAt '#' text).1).1 = pathOnly text := by
  simp only [Url.cutAt, pathOnly, List.takeWhile_takeWhile]
  congr 1
  funext c
  simp

variable {base : Url} {target : String}

/-- A target that is no URL is redirected to as an address of the site. -/
theorem redirectTarget_eq_text (base : Url)
    (htarget : Url.parse target = .error .relativeWithoutBase) :
    redirectTarget base target = (targetUrl base target).text := by
  have hfull (root path : List Char) :
      (if root = [] ∨ (beneath? root path).isSome then '/' :: path else '/' :: root ++ '/' :: path)
        = '/' :: rooted root path := by
    unfold rooted
    split_ifs <;> rfl
  simp only [redirectTarget, htarget, cutAt_eq_pathOnly, hfull]
  rfl

/-- The address of a target is read from the root path with the target behind it. -/
theorem Url.IsMade.path_targetUrl (h : base.IsMade) (hweb : base.IsWeb) (target : String) :
    (targetUrl base target).path = .segments
      (segmentsOf base.scheme ('/' :: rooted base.rootPath.toList (namedPath target))) := by
  obtain ⟨pathText, hsegments⟩ := h.exists_path hweb
  simp only [targetUrl]
  rw [Url.withPath, hsegments, Path.replace, Url.withQuery, trimPlainPath_of_segments rfl,
    Url.withFragment, trimPlainPath_of_segments rfl, String.toList_ofList]

/-- The path of the target is read anew, and escaped where the path that was given is not. -/
theorem Url.IsBase.text_path_targetUrl (h : base.IsBase) (hpath : IsRelative (namedPath target)) :
    (targetUrl base target).path.text.toList
      = '/' :: spelled (rooted base.rootPath.toList (namedPath target)) := by
  rw [h.made.path_targetUrl h.web]
  exact text_segmentsOf h.web.isSpecial h.web.ne_file (isPlain_rooted h.exists_root.1 hpath)

/-- A path of the site is matched as what is beneath the root of it, or as the whole of it. -/
theorem normalize_of_isRelative (hpath : IsRelative (namedPath target)) (base : Url) :
    normalize target base
      = .ofList ((beneath? base.rootPath.toList (namedPath target)).getD (namedPath target)) := by
  have hread := Percent.decodeOnce_eq_self (hpath.not_mem_beneath? base.rootPath.toList)
  rw [normalize, normalizeUnder, Slashes.trimLeading_collapse, ← namedPath,
    Slashes.collapse_eq_self hpath.single, hread]

/-- A redirect to a path of the site leads to a URL of the site, and a request for the path of that
URL is answered as one for the path itself. -/
theorem normalize_redirectTarget (hbase : base.IsBase)
    (htarget : Url.parse target = .error .relativeWithoutBase)
    (hpath : IsInternal (pathOnly target.toList)) :
    redirectTarget base target = (targetUrl base target).text ∧
      normalize (targetUrl base target).path.text base = normalize target base ∧
      ∀ router : Router, router.baseUrl = base →
        router.resolve (targetUrl base target).path.text = router.resolve target := by
  have hrelative : IsRelative (namedPath target) := hpath.isRelative
  have hroot := hbase.exists_root.1
  have hnormalize : normalize (targetUrl base target).path.text base = normalize target base := by
    have hread := Percent.decodeOnce_encode Url.escapedInPath
      (hrelative.not_mem_beneath? base.rootPath.toList)
    rw [normalize_of_isRelative hrelative, normalize, normalizeUnder,
      hbase.text_path_targetUrl hrelative,
      trimLeading_collapse_spelled (areSingle_rooted hroot hrelative), beneath?_rooted hroot, hread]
  refine ⟨redirectTarget_eq_text base htarget, hnormalize, ?_⟩
  intro router hrouter
  subst hrouter
  unfold Router.resolve
  rw [hnormalize]

/-- The path begins with the letters of the root path and is not beneath it. -/
theorem normalize_redirectTarget_letters :
    let router := Router.inMemory .yearTitle .yearTitle .blog ⟨[.hello]⟩ .empty
    redirectTarget .blog "/blogroll/é?page=2#top"
        = "http://myblog.net/blog/blogroll/%C3%A9?page=2#top" ∧
      normalize "/blog/blogroll/%C3%A9" .blog = normalize "/blogroll/é?page=2#top" .blog ∧
      router.resolve "/blog/blogroll/%C3%A9" = router.resolve "/blogroll/é?page=2#top" := by
  intro router
  have htarget : Url.parse "/blogroll/é?page=2#top" = .error .relativeWithoutBase := by
    decide +kernel
  have hpath : IsInternal (pathOnly "/blogroll/é?page=2#top".toList) := by
    have honly : pathOnly "/blogroll/é?page=2#top".toList = "/blogroll/é".toList := by
      decide +kernel
    rw [honly]
    exact ⟨by simp [IsOrdinary], by decide +kernel, by decide +kernel⟩
  have hurl : (targetUrl .blog "/blogroll/é?page=2#top").path.text = "/blog/blogroll/%C3%A9" := by
    decide +kernel
  have htext : (targetUrl .blog "/blogroll/é?page=2#top").text
      = "http://myblog.net/blog/blogroll/%C3%A9?page=2#top" := by decide +kernel
  obtain ⟨hlocation, hnormalize, hresolve⟩ :=
    normalize_redirectTarget Url.isBase_blog htarget hpath
  rw [hurl] at hnormalize
  exact ⟨hlocation.trans htext, hnormalize, hurl ▸ hresolve router rfl⟩

end BlogRouting
