import BlogRouting.Proofs.Routing.Beneath

/-!
# Joined paths

The address of a path of the site leads back to the path (`normalize_path_absolute`). It does not
matter whether the path of the base URL ends in a slash: the root path is the same
(`rootPath_closeWithSlash`), and so are the addresses (`IsBase.absolute_closeWithSlash`).
-/

namespace BlogRouting

namespace Url

variable {base : Url} {path : String}

/-- The slash is put behind the path by a change that any URL allows. -/
theorem IsMade.closeWithSlash (h : base.IsMade) : (Config.closeWithSlash base).IsMade := by
  unfold Config.closeWithSlash
  dsimp only
  split
  · exact h
  · exact h.withPath _

theorem scheme_closeWithSlash (base : Url) : (Config.closeWithSlash base).scheme = base.scheme := by
  unfold Config.closeWithSlash
  dsimp only
  split <;> rfl

/-- A base URL with the slash is a base URL again. -/
theorem IsBase.closeWithSlash (h : base.IsBase) : (Config.closeWithSlash base).IsBase := by
  refine ⟨h.made.closeWithSlash, ?_, ?_⟩
  · rw [IsWeb, scheme_closeWithSlash]
    exact h.web
  · rw [h.made.text_path_closeWithSlash h.web, ← Slashes.areSingle_iff]
    split
    · rw [List.append_nil]
      exact Slashes.areSingle_iff.2 h.single
    · -- the slash is put where there is none
      rename_i hlast
      exact Slashes.areSingle_append.2 ⟨Slashes.areSingle_iff.2 h.single,
        List.isChain_singleton _, fun hends => hlast hends.1⟩

/-- The slash is trimmed off the root path. -/
theorem IsMade.rootPath_closeWithSlash (h : base.IsMade) (hweb : base.IsWeb) :
    (Config.closeWithSlash base).rootPath = base.rootPath := by
  rw [rootPath, rootPath, h.text_path_closeWithSlash hweb]
  split
  · rw [List.append_nil]
  · rw [Slashes.trim_append_slash]

/-- Addresses are made alike with the slash and without it. -/
theorem IsBase.absolute_closeWithSlash (h : base.IsBase) (hpath : IsRelative path.toList) :
    absolute (Config.closeWithSlash base) path = absolute base path := by
  rw [h.closeWithSlash.absolute_eq hpath, h.absolute_eq hpath,
    h.made.rootPath_closeWithSlash h.web]
  unfold Config.closeWithSlash
  dsimp only
  split <;> rfl

end Url

/-- A path that is made absolute and then requested is matched as what it was, also if it begins
with the root path, is empty or holds characters that are escaped on the way. With a slash behind
the path of the base URL or without one, its address and what it is matched as are the same. -/
theorem normalize_path_absolute {base : Url} {path : String} (h : base.IsBase)
    (hpath : IsRelative path.toList) :
    normalize (absolute base path).path.text base = path ∧
      absolute (Config.closeWithSlash base) path = absolute base path ∧
      normalize (absolute base path).path.text (Config.closeWithSlash base) = path := by
  have hclosed := h.absolute_closeWithSlash hpath
  refine ⟨normalize_absolute h hpath, hclosed, ?_⟩
  rw [← hclosed]
  exact normalize_absolute h.closeWithSlash hpath

/-- The path begins with the root path and holds signs of a query and a fragment and a letter that
is not in ASCII. -/
theorem normalize_path_absolute_blog :
    let base : Url :=
      ⟨"http", .authority { host := .name "myblog.net" }, .segments ["blog"], none, none⟩
    base.IsBase ∧ IsRelative "blog/what?/#ü+".toList ∧
      normalize "/blog/blog/what%3F/%23%C3%BC+" base = "blog/what?/#ü+" := by
  intro base
  have hbase : base.IsBase := by
    have hparse : Url.parse "http://myblog.net/blog" = .ok base := by decide +kernel
    exact ⟨.parse hparse, .inl rfl, by decide +kernel⟩
  have hpath : IsRelative "blog/what?/#ü+".toList :=
    ⟨Slashes.areSingle_iff.2 (by decide +kernel), by decide +kernel, by simp [IsOrdinary],
      by decide +kernel⟩
  have htext : (absolute base "blog/what?/#ü+").path.text = "/blog/blog/what%3F/%23%C3%BC+" := by
    decide +kernel
  have hback := (normalize_path_absolute hbase hpath).1
  rw [htext] at hback
  exact ⟨hbase, hpath, hback⟩

end BlogRouting
