import BlogRouting.Proofs.Redirect.Reachable
import BlogRouting.Proofs.Text.Decoding
import BlogRouting.Proofs.Url.Addresses
import BlogRouting.Proofs.Url.Closing

/-!
# Requests beneath the base URL

A request that begins with the path of the base URL should be matched as what stands behind it. Two
things decide whether it is. The slashes of a request are collapsed before it is compared with the
root path, and those of the root path are not. The escapes of a request are read after that, and the
root path is compared as the base URL spells it.

* **`normalize_append`**: what stands behind the base path is matched on its own if the root path
  has single slashes. The base path may have more of them at its ends.
* **`normalize_ne_of_not_single`**: a root path with two slashes in a row is in front of no request,
  not even of one that is the base path itself.
* **`eq_of_normalize_decoded_append`**: with its escapes read, the base path is no longer
  recognized, unless it had none. A text that is read loses weight and collapsing slashes loses
  none, so the root path is too heavy to be in front of such a request.
-/

namespace BlogRouting

open Slashes

/-- A base path as a configuration has it: between slashes, and no query or fragment
begins in it. -/
structure IsBasePath (path : List Char) : Prop where
  head : path.head? = some '/'
  last : path.getLast? = some '/'
  whole : Url.IsWhole path

/-! ## The path of a configured base URL -/

namespace Url

variable {url : Url}

/-- The path of a URL of the web begins with a slash, and behind it there are no dots and nothing to
escape. -/
theorem IsMade.exists_text_path (h : url.IsMade) (hweb : url.IsWeb) :
    ∃ rest, url.path.text.toList = '/' :: rest ∧ IsPlain rest ∧
      ∀ c ∈ rest, escapedInPath c = false := by
  obtain ⟨pathText, hpath⟩ := h.exists_path hweb
  rw [hpath]
  exact exists_isPlain_text_segmentsOf hweb.isSpecial hweb.ne_file pathText

theorem isPlain_nil : IsPlain [] :=
  ⟨by simp, by simp [isDot, isDoubleDot]⟩

/-- Putting a slash behind the path reads the path again and changes nothing else of it. -/
theorem IsMade.text_path_closeWithSlash (h : url.IsMade) (hweb : url.IsWeb) :
    (Config.closeWithSlash url).path.text.toList
      = url.path.text.toList ++ if url.path.text.toList.getLast? = some '/' then [] else ['/'] := by
  obtain ⟨pathText, hpath⟩ := h.exists_path hweb
  have hread : url.path.IsRead url.scheme := hpath ▸ isRead_segmentsOf _ _
  have hrespelled : url.path.respelled url.scheme = url.path :=
    respelled_eq_self_iff.2 fun hfile => hweb.ne_file hfile.1
  rw [Url.text_path_closeWithSlash hread (by simp [hpath]), hrespelled]
  split_ifs
  · rw [List.append_nil]
  · rfl

/-- A new configuration gives the base URL a path that begins and ends in a slash. -/
theorem isBasePath_of_new {format : String} {config : Config} (h : url.IsMade) (hweb : url.IsWeb)
    (hnew : Config.new url format = .ok config) :
    IsBasePath config.baseUrl.path.text.toList := by
  have hclosed : config.baseUrl = Config.closeWithSlash url :=
    congrArg Config.baseUrl (Config.new_eq_ok_iff.1 hnew).2
  have hgiven : (Config.closeWithSlash url).IsGiven := (h.isGiven hweb).closeWithSlash
  obtain ⟨rest, htext, -, -⟩ := h.exists_text_path hweb
  rw [hclosed]
  refine ⟨?_, ?_, hgiven.isWhole_path⟩
  · rw [h.text_path_closeWithSlash hweb, htext]
    rfl
  · rw [h.text_path_closeWithSlash hweb, htext]
    split
    · rename_i hlast
      rwa [List.append_nil]
    · exact List.getLast?_concat

theorem toList_rootPath (url : Url) : url.rootPath.toList = trim url.path.text.toList :=
  String.toList_ofList

end Url

/-! ## The root path of a base path -/

namespace IsBasePath

variable {path : List Char}

/-- In front of the root path and behind it there is at least one slash, maybe more. -/
theorem repeats (h : IsBasePath path) : Repeats ('/' :: Url.under (trim path)) path := by
  obtain ⟨m, n, htext⟩ := exists_replicate_trim path
  have hhead := head?_trim path
  have hlast := getLast?_trim path
  generalize trim path = root at htext hhead hlast
  subst htext
  by_cases hroot : root = []
  · subst hroot
    -- nothing but slashes, and at least one
    obtain ⟨k, hk⟩ : ∃ k, m + n = k + 1 := by
      refine Nat.exists_eq_succ_of_ne_zero fun hzero => ?_
      obtain ⟨rfl, rfl⟩ : m = 0 ∧ n = 0 := by omega
      exact absurd h.head (by simp)
    rw [List.nil_append, List.replicate_append_replicate, hk, Url.under, if_pos rfl]
    exact repeats_replicate k
  · obtain ⟨k, rfl⟩ : ∃ k, m = k + 1 := by
      refine Nat.exists_eq_succ_of_ne_zero fun hzero => hhead ?_
      subst hzero
      have hfirst := h.head
      rwa [List.replicate_zero, List.nil_append, List.head?_append_of_ne_nil _ hroot] at hfirst
    obtain ⟨l, rfl⟩ : ∃ l, n = l + 1 := by
      refine Nat.exists_eq_succ_of_ne_zero fun hzero => hlast ?_
      subst hzero
      have hend := h.last
      rwa [List.replicate_zero, List.append_nil, List.getLast?_append_of_ne_nil _ hroot] at hend
    rw [Url.under, if_neg hroot]
    exact (repeats_replicate k).append ((Repeats.refl root).append (repeats_replicate l))

end IsBasePath

/-! ## Requests that begin with the base path -/

/-- A request as it is compared with the root path: without query and fragment, its slashes single
and none in front. -/
def compared (raw : List Char) : List Char :=
  trimLeading (collapse (pathOnly raw))

/-- A request is compared with the root before it is decoded. -/
theorem normalizeUnder_eq (rawPath root : String) :
    normalizeUnder rawPath root = Percent.decodeOnce (.ofList
      ((beneath? root.toList (compared rawPath.toList)).getD (compared rawPath.toList))) := rfl

variable {base : Url} {root path : List Char}

/-- What is compared with the root has no two slashes in a row. -/
theorem areSingle_compared (raw : List Char) : AreSingle (compared raw) :=
  areSingle_trimLeading (areSingle_collapse _)

/-- Characters are only left out of a request before it is compared. -/
theorem compared_sublist (raw : List Char) : (compared raw).Sublist raw :=
  (List.dropWhile_sublist _).trans ((collapse_sublist _).trans (List.takeWhile_sublist _))

/-- A request is matched as the empty path if nothing is left of it behind the root. -/
theorem normalizeUnder_eq_empty_iff {rawPath root : String} :
    normalizeUnder rawPath root = "" ↔
      (beneath? root.toList (compared rawPath.toList)).getD (compared rawPath.toList) = [] := by
  rw [normalizeUnder_eq, Percent.decodeOnce_eq_empty_iff, ← String.toList_eq_nil_iff,
    String.toList_ofList]

/-- The base path is compared as the root path between single slashes. -/
theorem compared_append_of_single (hbase : IsBasePath path)
    (hsingle : ¬ ['/', '/'] <:+: trim path) (rest : List Char) :
    compared (path ++ rest) = Url.under (trim path) ++ compared rest := by
  have hroot : IsRequestRoot (trim path) := isRequestRoot_trim hbase.whole hsingle
  have hcollapse : collapse (path ++ pathOnly rest)
      = collapse ('/' :: Url.under (trim path) ++ pathOnly rest) :=
    (hbase.repeats.append (.refl _)).collapse_eq
  unfold compared
  rw [← trimLeading_collapse_under hroot, pathOnly_append_of_isWhole hbase.whole, hcollapse,
    ← pathOnly_append_of_isWhole hroot.isWhole_under, List.cons_append]

/-- What stands behind the base path is matched on its own if the root path has single slashes. -/
theorem normalize_append (hbase : IsBasePath base.path.text.toList)
    (hsingle : ¬ ['/', '/'] <:+: base.rootPath.toList) (rest : String) :
    normalize (base.path.text ++ rest) base = normalizeUnder rest "" := by
  rw [Url.toList_rootPath] at hsingle
  rw [normalize, normalizeUnder_eq, normalizeUnder_eq, Url.toList_rootPath, String.toList_append,
    compared_append_of_single hbase hsingle, beneath?_under, String.toList_empty, beneath?_nil,
    Option.getD_none]

/-! ## Root paths that are in front of no request -/

theorem prefix_of_beneath? {rest : List Char} (h : beneath? root path = some rest) :
    root <+: path := by
  obtain ⟨-, ⟨rfl, -⟩ | rfl⟩ := beneath?_eq_some_iff.1 h
  · exact List.prefix_rfl
  · exact List.prefix_append _ _

/-- The slashes of a request are single, so a root path whose slashes are not is never found. -/
theorem beneath?_eq_none_of_not_single (hroot : ['/', '/'] <:+: root) (hpath : AreSingle path) :
    beneath? root path = none := by
  rw [Option.eq_none_iff_forall_ne_some]
  intro rest hrest
  exact areSingle_iff.1 hpath (hroot.trans (prefix_of_beneath? hrest).isInfix)

/-- A root path is not found in a text that is lighter. -/
theorem beneath?_eq_none_of_lighter (h : Percent.textWeight path < Percent.textWeight root) :
    beneath? root path = none := by
  rw [Option.eq_none_iff_forall_ne_some]
  intro rest hrest
  have hle := Percent.textWeight_le_of_sublist (prefix_of_beneath? hrest).sublist
  omega

theorem compared_nil : compared [] = [] := rfl

theorem normalizeUnder_empty : normalizeUnder "" "" = "" := by
  rw [normalizeUnder_eq_empty_iff, String.toList_empty, beneath?_nil, compared_nil]
  rfl

/-- Of a base path with a root path something is left to compare. -/
theorem trim_eq_nil_of_compared (hbase : IsBasePath path) (h : compared path = []) :
    trim path = [] := by
  rw [compared, pathOnly_of_isWhole hbase.whole, trimLeading_collapse, collapse_eq_nil_iff] at h
  rw [trim, h]
  rfl

/-- If the root path has two slashes in a row, not even the base path itself is matched as what
stands behind it. -/
theorem normalize_ne_of_not_single (hbase : IsBasePath base.path.text.toList)
    (hroot : ['/', '/'] <:+: base.rootPath.toList) :
    normalize (base.path.text ++ "") base ≠ normalizeUnder "" "" := by
  rw [normalizeUnder_empty, String.append_empty, normalize, Ne, normalizeUnder_eq_empty_iff,
    beneath?_eq_none_of_not_single hroot (areSingle_compared _), Option.getD_none]
  intro hnil
  rw [Url.toList_rootPath, trim_eq_nil_of_compared hbase hnil] at hroot
  exact absurd (List.infix_nil.1 hroot) (by simp)

/-- Behind a text of which nothing is compared, either nothing is compared or what would
be anyway. -/
theorem compared_append_of_eq_nil (h : compared path = []) (rest : List Char) :
    compared (path ++ rest) = [] ∨ compared (path ++ rest) = compared rest := by
  have happend : pathOnly (path ++ rest) = pathOnly path ∨
      pathOnly path = path ∧ pathOnly (path ++ rest) = path ++ pathOnly rest := by
    unfold pathOnly
    rw [List.takeWhile_append]
    split
    · rename_i hlength
      exact .inr ⟨(List.takeWhile_prefix _).eq_of_length hlength, rfl⟩
    · exact .inl rfl
  rcases happend with hcut | ⟨hwhole, hpath⟩
  · -- a query or a fragment begins in the text itself
    left
    rw [compared, hcut]
    exact h
  · right
    rw [compared, hwhole, trimLeading_collapse, collapse_eq_nil_iff] at h
    obtain ⟨n, hslashes⟩ := exists_replicate_trimLeading path
    rw [h, List.append_nil] at hslashes
    rw [compared, hpath, hslashes, trimLeading_collapse, trimLeading_replicate_append,
      ← trimLeading_collapse, compared]

/-- The root path weighs as much as the base path, of which it only lacks slashes. -/
theorem textWeight_trim (text : List Char) :
    Percent.textWeight (trim text) = Percent.textWeight text := by
  obtain ⟨m, n, htext⟩ := exists_replicate_trim text
  have hweight := congrArg Percent.textWeight htext
  rw [Percent.textWeight_append, Percent.textWeight_append, Percent.textWeight_replicate_slash,
    Percent.textWeight_replicate_slash] at hweight
  omega

/-- A root path without two slashes in a row is compared as it stands. -/
theorem compared_rootPath (hbase : IsBasePath base.path.text.toList)
    (hsingle : ¬ ['/', '/'] <:+: base.rootPath.toList) :
    compared base.rootPath.toList = base.rootPath.toList := by
  rw [Url.toList_rootPath] at hsingle ⊢
  have hwhole : Url.IsWhole (trim base.path.text.toList) :=
    fun c hc => hbase.whole c (mem_of_mem_trim hc)
  rw [compared, pathOnly_of_isWhole hwhole, collapse_eq_self (areSingle_iff.2 hsingle),
    trimLeading_eq_self (head?_trim _)]

/-- If reading the base path changes it, a request that begins with it as it is read is not matched
as what stands behind it: either the request for nothing else is not, or the one for the root path
once more. -/
theorem eq_of_normalize_decoded_append {decoded : String}
    (hbase : IsBasePath base.path.text.toList)
    (hsingle : ¬ ['/', '/'] <:+: base.rootPath.toList)
    (hdecoded : Percent.decode? base.path.text = some decoded)
    (hlaw : ∀ rest, normalize (decoded ++ rest) base = normalizeUnder rest "") :
    decoded = base.path.text := by
  by_contra hne
  have hlighter : Percent.textWeight decoded.toList < Percent.textWeight base.rootPath.toList := by
    rw [Url.toList_rootPath, textWeight_trim]
    exact (Percent.eq_or_textWeight_lt_of_decode? hdecoded).resolve_left hne
  have hweightless : Percent.textWeight [] = 0 := rfl
  have hcompared : compared decoded.toList = [] := by
    have hempty : normalize decoded base = "" := by
      have happend := hlaw ""
      rwa [String.append_empty, normalizeUnder_empty] at happend
    have hle := Percent.textWeight_le_of_sublist (compared_sublist decoded.toList)
    rwa [normalize, normalizeUnder_eq_empty_iff, beneath?_eq_none_of_lighter (by omega),
      Option.getD_none] at hempty
  have hroot : base.rootPath.toList ≠ [] := by
    intro hnil
    rw [hnil] at hlighter
    omega
  -- with nothing of `decoded` to compare, the root path behind it is taken for the one in front
  have hbehind : normalize (decoded ++ base.rootPath) base = "" := by
    rw [normalize, normalizeUnder_eq_empty_iff, String.toList_append]
    rcases compared_append_of_eq_nil hcompared base.rootPath.toList with hnil | hself
    · rw [hnil, beneath?_eq_none_of_lighter (by omega), Option.getD_none]
    · rw [hself, compared_rootPath hbase hsingle, beneath?_eq_some_iff.2 ⟨hroot, .inl ⟨rfl, rfl⟩⟩,
        Option.getD_some]
  rw [hlaw, normalizeUnder_eq_empty_iff, compared_rootPath hbase hsingle, String.toList_empty,
    beneath?_nil, Option.getD_none] at hbehind
  exact hroot hbehind

/-- When requests beneath the base URL are matched relative to it: those that begin with the base
path as the URL spells it if and only if the root path has no two slashes in a row, and those that
begin with the base path as it is read only if reading it changes nothing. -/
theorem normalize_append_iff {url : Url} {format : String} {config : Config}
    (hmade : url.IsMade) (hweb : url.IsWeb) (hnew : Config.new url format = .ok config) :
    let base := config.baseUrl
    base.path.text.toList.getLast? = some '/' ∧
    ((∀ rest, normalize (base.path.text ++ rest) base = normalizeUnder rest "") ↔
      ¬ ['/', '/'] <:+: base.rootPath.toList) ∧
    (¬ ['/', '/'] <:+: base.rootPath.toList →
      ∀ decoded, Percent.decode? base.path.text = some decoded →
        ((∀ rest, normalize (decoded ++ rest) base = normalizeUnder rest "") ↔
          decoded = base.path.text)) := by
  intro base
  have hbase : IsBasePath base.path.text.toList := Url.isBasePath_of_new hmade hweb hnew
  refine ⟨hbase.last, ⟨?_, normalize_append hbase⟩, fun hsingle decoded hdecoded => ⟨?_, ?_⟩⟩
  · intro hlaw hroot
    -- the request for the root itself already goes wrong
    exact normalize_ne_of_not_single hbase hroot (hlaw "")
  · exact eq_of_normalize_decoded_append hbase hsingle hdecoded
  · intro hself rest
    rw [hself]
    exact normalize_append hbase hsingle rest

theorem normalize_append_iff_blog :
    ∃ config, Url.parse "http://myblog.net/blog/" = .ok .blog ∧
      Config.new .blog "/%year%/%title%" = .ok config ∧
      (∀ rest, normalize ("/blog/" ++ rest) config.baseUrl = normalizeUnder rest "") ∧
      Percent.decode? "/blog/" = some "/blog/" := by
  have hnew : Config.new .blog "/%year%/%title%" = .ok ⟨.blog, "/%year%/%title%"⟩ :=
    eq_ok_of_toOption (by decide +kernel)
  obtain ⟨-, hlaw, hread⟩ := normalize_append_iff (.parse Url.parse_blog) (.inl rfl) hnew
  have hsingle : ¬ ['/', '/'] <:+: Url.blog.rootPath.toList := by decide +kernel
  have hpath : Url.blog.path.text = "/blog/" := by decide +kernel
  have hdecoded : Percent.decode? "/blog/" = some "/blog/" := by decide +kernel
  rw [hpath] at hlaw
  exact ⟨_, Url.parse_blog, hnew, hlaw.2 hsingle, hdecoded⟩

/-- Beneath `/a//b/` the base path stays in front of what is matched, and beneath `/café/` it does
if it is requested without escapes. -/
theorem normalize_append_fails :
    (∃ url config, Url.parse "http://myblog.net/a//b/" = .ok url ∧
      Config.new url "/%year%/%title%" = .ok config ∧ config.baseUrl.path.text = "/a//b/" ∧
      normalize ("/a//b/" ++ "x") config.baseUrl = "a/b/x" ∧ normalizeUnder "x" "" = "x") ∧
    ∃ url config, Url.parse "http://myblog.net/café/" = .ok url ∧
      Config.new url "/%year%/%title%" = .ok config ∧
      Percent.decode? config.baseUrl.path.text = some "/café/" ∧
      normalize ("/café/" ++ "x") config.baseUrl = "café/x" ∧ normalizeUnder "x" "" = "x" := by
  let url (segments : List String) : Url :=
    ⟨"http", .authority { host := .name "myblog.net" }, .segments segments, none, none⟩
  let slashes : Config := ⟨url ["a", "", "b", ""], "/%year%/%title%"⟩
  let cafe : Config := ⟨url ["caf%C3%A9", ""], "/%year%/%title%"⟩
  have hrest : normalizeUnder "x" "" = "x" := by decide +kernel
  refine ⟨⟨slashes.baseUrl, slashes, ?_, ?_, ?_, ?_, hrest⟩,
    ⟨cafe.baseUrl, cafe, ?_, ?_, ?_, ?_, hrest⟩⟩
  · exact eq_ok_of_toOption (by decide +kernel)
  · exact eq_ok_of_toOption (by decide +kernel)
  · decide +kernel
  · decide +kernel
  · exact eq_ok_of_toOption (by decide +kernel)
  · exact eq_ok_of_toOption (by decide +kernel)
  · decide +kernel
  · decide +kernel

end BlogRouting
