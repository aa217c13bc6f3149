import BlogRouting.Proofs.Site.Loaded

/-!
# The base URL of a site

A site is given a base URL once, and the configuration puts a slash behind its path then. Saving a
format leaves the base URL as it is, and the format that is saved compiles as the first one did, so
the configuration of a site is at any time one that making it again would give
(`new_after_eq_ok`). What is true of the base URL is thus decided when the slash is put there: a
path that has no slashes at all may spoil it, and so may the path of a file (`baseUrl_after_iff`).
-/

namespace BlogRouting.Site

variable {base : Url} {format : String} {config : Config}

/-- Whatever has been saved, the configuration is what its format makes of the first base URL. -/
theorem new_after_eq_ok (hnew : Config.new base format = .ok config) (calls : List Call) :
    Config.new base ((ofConfig config).after calls).config.format
      = .ok ((ofConfig config).after calls).config := by
  have hconfig := ((holds_ofConfig config).after calls).config_eq
  obtain ⟨htemplate, rfl⟩ := Config.new_eq_ok_iff.1 hnew
  rw [hconfig]
  refine Config.new_eq_ok_iff.2 ⟨?_, rfl⟩
  cases hlast : (ofConfig ⟨Config.closeWithSlash base, format⟩).lastSaved? calls with
  | none => exact htemplate
  | some saved =>
    -- a format is saved once it makes a permalink, and so it makes a template
    obtain ⟨permalink, hcompile⟩ := exists_permalink_of_lastSaved? hlast
    exact ⟨permalink.template, Template.compile_eq_ok_iff.2 (Permalink.isCompiled hcompile)⟩

/-- Whatever has been asked of a site, and also if nothing has: the path of its base URL ends in a
slash, and making the configuration again changes nothing, if and only if the given path was not
empty text without segments. The root path is that of the given URL if and only if, besides, the
given path ended in a slash already or is not written in another way when it is read again. -/
theorem baseUrl_after_iff {text : String} (hparse : Url.parse text = .ok base)
    (hnew : Config.new base format = .ok config) (calls : List Call) :
    let kept := ((ofConfig config).after calls).config
    (kept.baseUrl.path.text.toList.getLast? = some '/' ↔ base.path ≠ .plain "") ∧
    (kept.baseUrl.rootPath = base.rootPath ↔ base.path ≠ .plain "" ∧
      (base.path.text.toList.getLast? = some '/' ∨ ¬ base.IsRespelled)) ∧
    (Config.new kept.baseUrl kept.format = .ok kept ↔ base.path ≠ .plain "") := by
  intro kept
  have hread := Url.isRead_of_parse hparse
  obtain ⟨htemplate, hkept⟩ := Config.new_eq_ok_iff.1 (new_after_eq_ok hnew calls)
  -- saving a format leaves the URL alone
  have hbase : kept.baseUrl = Config.closeWithSlash base := congrArg Config.baseUrl hkept
  have hagain : Config.new kept.baseUrl kept.format = .ok kept ↔
      Config.closeWithSlash (Config.closeWithSlash base) = Config.closeWithSlash base := by
    rw [Config.new_eq_ok_iff, hbase, and_iff_right htemplate]
    exact ⟨fun h => (congrArg Config.baseUrl h).symm.trans hbase, fun h => by rw [h]; exact hkept⟩
  rw [hagain, hbase]
  exact ⟨Url.getLast?_closeWithSlash_iff hread, Url.rootPath_closeWithSlash_iff hread,
    Url.closeWithSlash_closeWithSlash_iff hread⟩

/-- Nothing is wrong with a path without segments as long as there is something in front of the
slash. -/
theorem baseUrl_after_mailto :
    let base : Url := ⟨"mailto", .nothing, .plain "me", none, none⟩
    let config : Config := ⟨⟨"mailto", .nothing, .plain "me/", none, none⟩, "/%year%/%title%"⟩
    let kept := ((ofConfig config).after [.save "/%title%/", .save "/%year%/"]).config
    Url.parse "mailto:me" = .ok base ∧ Config.new base "/%year%/%title%" = .ok config ∧
      base.path ≠ .plain "" ∧ kept.baseUrl.path.text.toList.getLast? = some '/' ∧
      kept.baseUrl.rootPath = base.rootPath ∧ Config.new kept.baseUrl kept.format = .ok kept := by
  intro base config kept
  have hparse : Url.parse "mailto:me" = .ok base := eq_ok_of_toOption (by decide +kernel)
  have hnew : Config.new base "/%year%/%title%" = .ok config :=
    eq_ok_of_toOption (by decide +kernel)
  have hpath : base.path ≠ .plain "" := by decide
  have hrespelled : ¬ base.IsRespelled := fun h => absurd h.1 (by decide)
  obtain ⟨hslash, hroot, hagain⟩ :=
    baseUrl_after_iff hparse hnew [.save "/%title%/", .save "/%year%/"]
  exact ⟨hparse, hnew, hpath, hslash.2 hpath, hroot.2 ⟨hpath, .inr hrespelled⟩, hagain.2 hpath⟩

/-- Behind an empty path the slash is escaped, and escaped it is the root path. Behind the path of a
file it may turn a bar into a colon. -/
theorem baseUrl_not_closed :
    (∃ base config, Url.parse "data:" = .ok base ∧
      Config.new base "/%year%/%title%" = .ok config ∧ config.baseUrl.path.text = "%2F" ∧
      config.baseUrl.path.text.toList.getLast? ≠ some '/' ∧
      base.rootPath = "" ∧ config.baseUrl.rootPath = "%2F" ∧
      Config.new config.baseUrl config.format ≠ .ok config) ∧
    ∃ base config, Url.parse "file:///C|/x" = .ok base ∧
      Config.new base "/%year%/%title%" = .ok config ∧
      base.rootPath = "C|/x" ∧ config.baseUrl.rootPath = "C:/x" := by
  let data (path : String) : Url := ⟨"data", .nothing, .plain path, none, none⟩
  let file (path : List String) : Url :=
    ⟨"file", .authority { host := .name "" }, .segments path, none, none⟩
  refine ⟨⟨data "", ⟨data "%2F", "/%year%/%title%"⟩, ?_⟩,
    file ["C|", "x"], ⟨file ["C:", "x", ""], "/%year%/%title%"⟩, ?_⟩
  · decide +kernel
  · decide +kernel

end BlogRouting.Site
