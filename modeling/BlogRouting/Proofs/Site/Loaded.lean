import BlogRouting.Proofs.Site.Histories
import BlogRouting.Proofs.Template.Oversized
import BlogRouting.Proofs.Url.Closing

/-!
# Sites whose configuration was loaded

A configuration is loaded once its format makes a template, and a format is saved once it makes a
permalink. The first asks for less: a template may be too large to match paths against. So a site
whose format was saved always has its permalink, and one whose format was loaded may lack it, for
that reason only (`compile_error_after_iff`), until another format is saved.
-/

namespace BlogRouting

namespace Config

/-- The ways in which a configuration comes about. -/
inductive IsLoaded (config : Config) : Prop where
  | new (baseUrl : Url) (format : String) (h : Config.new baseUrl format = .ok config)
  | ofYaml (text : String) (h : Config.ofYaml text = .ok config)
  | ofDirectory (files : FileSystem) (directory : String)
      (h : Config.ofDirectory files directory = .ok config)

variable {config : Config}

theorem exists_template_of_new {baseUrl : Url} {format : String}
    (h : Config.new baseUrl format = .ok config) :
    ∃ t, Template.compile config.format = .ok t := by
  obtain ⟨htemplate, rfl⟩ := Config.new_eq_ok_iff.1 h
  exact htemplate

/-- A configuration that is read from a text is made like a new one. -/
theorem exists_template_of_ofYaml {text : String} (h : Config.ofYaml text = .ok config) :
    ∃ t, Template.compile config.format = .ok t := by
  unfold Config.ofYaml at h
  split at h
  · exact absurd h (by simp)
  · exact exists_template_of_new h

/-- Only a file whose text describes a configuration holds one. -/
theorem exists_template_of_ofContent {content : Except FileError (Option String)}
    (h : Config.ofContent content = .ok config) : ∃ t, Template.compile config.format = .ok t := by
  unfold ofContent at h
  split at h
  · exact absurd h (by simp)
  · exact absurd h (by simp)
  · exact exists_template_of_ofYaml h

/-- A configuration that is found was read from some file. -/
theorem exists_template_of_ofDirectory {files : FileSystem} {directory : String}
    (h : Config.ofDirectory files directory = .ok config) :
    ∃ t, Template.compile config.format = .ok t := by
  unfold Config.ofDirectory at h
  split at h
  · exact absurd h (by simp)
  · exact exists_template_of_ofContent (mapError_eq_ok_iff.1 h)

theorem IsLoaded.exists_template (h : config.IsLoaded) :
    ∃ t, Template.compile config.format = .ok t := by
  cases h with
  | new baseUrl format h => exact exists_template_of_new h
  | ofYaml text h => exact exists_template_of_ofYaml h
  | ofDirectory files directory h => exact exists_template_of_ofDirectory h

/-- The format makes a template that is too large to match paths against. -/
def IsOversized (config : Config) : Prop :=
  ∃ t, Template.compile config.format = .ok t ∧ Template.matcherLimit < t.matcherBytes

/-- A format that was loaded makes a permalink, unless the template is too large. -/
theorem IsLoaded.compile_eq_error_iff (h : config.IsLoaded) {e : CompileError} :
    Permalink.compile config.format = .error e ↔ e = .tooLarge ∧ config.IsOversized := by
  obtain ⟨t, ht⟩ := h.exists_template
  rw [Permalink.compile_eq_error_iff ht]
  refine and_congr_right fun _ => ⟨fun hsize => ⟨t, ht, hsize⟩, ?_⟩
  rintro ⟨t', ht', hsize⟩
  rwa [Except.ok.inj (ht.symm.trans ht')]

/-- A long text in front of the title is loaded although it is too large. -/
theorem exists_isOversized (baseUrl : Url) {plain : String} (hsign : '%' ∉ plain.toList)
    (hslash : '/' ∉ plain.toList) (hlong : Template.matcherLimit < 32 * plain.length) :
    ∃ config, Config.new baseUrl (plain ++ "%title%") = .ok config ∧ config.IsOversized := by
  have hne : plain ≠ "" := by
    rintro rfl
    exact absurd hlong (by decide)
  have hcompile := Template.compile_append_title hne hsign hslash
  have hsize := Template.le_matcherBytes
    (t := ⟨plain ++ "%title%", [.literal plain, .placeholder .title]⟩) List.mem_cons_self
  exact ⟨⟨closeWithSlash baseUrl, plain ++ "%title%"⟩, by simp [Config.new, hcompile],
    _, hcompile, Nat.lt_of_lt_of_le hlong hsize⟩

end Config

namespace Site

variable {site : Site} {calls : List Call} {config : Config} {e : CompileError}

/-! ## The format that counts -/

/-- Only a format that makes a permalink is saved. -/
theorem exists_permalink_of_saved? {call : Call} {format : String}
    (h : site.saved? call = some format) :
    ∃ permalink, Permalink.compile format = .ok permalink := by
  cases call with
  | save new =>
    unfold saved? Site.save at h
    cases hcompile : Permalink.compile new with
    | error e => exact absurd h (by simp [hcompile, Except.toOption])
    | ok permalink =>
      obtain rfl : new = format := by simpa [hcompile, Except.toOption] using h
      exact ⟨permalink, hcompile⟩
  | _ => exact absurd h (by simp [saved?])

/-- So the format that was saved last makes a permalink. -/
theorem exists_permalink_of_lastSaved? {format : String} (h : site.lastSaved? calls = some format) :
    ∃ permalink, Permalink.compile format = .ok permalink := by
  induction calls generalizing site with
  | nil => exact absurd h (by simp [lastSaved?])
  | cons call rest ih =>
    rcases Option.or_eq_some_iff.1 h with hlater | ⟨-, hcall⟩
    · exact ih hlater
    · exact exists_permalink_of_saved? hcall

/-- The format of a site whose configuration was loaded makes no permalink only while it is the
loaded one, and too large. -/
theorem compile_after_eq_error_iff (h : config.IsLoaded) :
    Permalink.compile ((site.lastSaved? calls).getD config.format) = .error e ↔
      e = .tooLarge ∧ site.lastSaved? calls = none ∧ config.IsOversized := by
  cases hlast : site.lastSaved? calls with
  | none => simpa using h.compile_eq_error_iff
  | some format =>
    -- what was saved made a permalink then, and compiling depends on nothing else
    obtain ⟨permalink, hcompile⟩ := exists_permalink_of_lastSaved? hlast
    simp [hcompile]

/-! ## Answers that are compile errors -/

/-- A site has no permalink exactly if its format makes none. -/
theorem permalink_eq_error_iff (h : site.cache.IsSound) :
    site.permalink.1 = .error e ↔ Permalink.compile site.config.format = .error e := by
  rw [← permalink_eq h]
  cases site.permalink.1 <;> simp [Except.map]

/-- A site has no URL for any content exactly if its format makes no permalink. -/
theorem urlFor_eq_error_iff (h : site.cache.IsSound) (content : Content) :
    (site.urlFor content).1 = .error e ↔ Permalink.compile site.config.format = .error e := by
  rw [urlFor_eq h]
  cases Permalink.compile site.config.format <;> simp [Except.map]

/-- What a router says is never a compile error. -/
theorem resolve_eq_error_iff (h : site.cache.IsSound) (stores : Stores) (rawPath : String) :
    (site.resolve stores rawPath).1 = .error (.compile e) ↔
      Permalink.compile site.config.format = .error e := by
  obtain ⟨legacy, hlegacy⟩ := Permalink.exists_default
  rw [resolve_eq h hlegacy]
  cases Permalink.compile site.config.format with
  | error e => simp
  | ok permalink =>
    dsimp only
    generalize Router.resolve ⟨permalink, legacy, site.config.baseUrl, stores⟩ rawPath = outcome
    cases outcome <;> simp [Except.mapError]

/-- A site whose configuration was loaded has no permalink, and so neither a URL for any content nor
an answer to any request, exactly as long as no format has been saved and the loaded one is too
large. -/
theorem compile_error_after_iff (h : config.IsLoaded) (calls : List Call) (e : CompileError) :
    let site := (ofConfig config).after calls
    let lacking := e = .tooLarge ∧ (ofConfig config).lastSaved? calls = none ∧ config.IsOversized
    (site.permalink.1 = .error e ↔ lacking) ∧
    (∀ content, (site.urlFor content).1 = .error e ↔ lacking) ∧
    ∀ stores rawPath, (site.resolve stores rawPath).1 = .error (.compile e) ↔ lacking := by
  intro site lacking
  obtain ⟨-, hformat, hsound⟩ := (holds_ofConfig config).after calls
  have hlacking : Permalink.compile site.config.format = .error e ↔ lacking := by
    rw [hformat]
    exact compile_after_eq_error_iff h
  refine ⟨?_, fun content => ?_, fun stores rawPath => ?_⟩
  · exact (permalink_eq_error_iff hsound).trans hlacking
  · exact (urlFor_eq_error_iff hsound content).trans hlacking
  · exact (resolve_eq_error_iff hsound stores rawPath).trans hlacking

/-- A small format leaves nothing to fail, even if another one could not be saved. -/
theorem compile_error_after_failed_save :
    let site := (ofConfig ⟨.blog, "/%year%/%title%"⟩).after [.permalink, .save "/%year%/"]
    Config.IsLoaded ⟨.blog, "/%year%/%title%"⟩ ∧ (∀ e, site.permalink.1 ≠ .error e) ∧
      (∀ content e, (site.urlFor content).1 ≠ .error e) ∧
      ∀ stores rawPath e, (site.resolve stores rawPath).1 ≠ .error (.compile e) := by
  intro site
  have hnew : Config.new .blog "/%year%/%title%" = .ok ⟨.blog, "/%year%/%title%"⟩ :=
    eq_ok_of_toOption (by decide +kernel)
  have hloaded : Config.IsLoaded ⟨.blog, "/%year%/%title%"⟩ := .new _ _ hnew
  have hsmall : ¬ Config.IsOversized ⟨.blog, "/%year%/%title%"⟩ := by
    rintro ⟨t, ht, hsize⟩
    have hcompile : Template.compile "/%year%/%title%"
        = .ok ⟨"/%year%/%title%", [.placeholder .year, .literal "/", .placeholder .title]⟩ :=
      eq_ok_of_toOption (by decide +kernel)
    obtain rfl := Except.ok.inj (hcompile.symm.trans ht)
    exact absurd hsize (by decide +kernel)
  have hiff := compile_error_after_iff hloaded [.permalink, .save "/%year%/"]
  refine ⟨hloaded, fun e h => ?_, fun content e h => ?_, fun stores rawPath e h => ?_⟩
  · exact hsmall ((hiff e).1.1 h).2.2
  · exact hsmall (((hiff e).2.1 content).1 h).2.2
  · exact hsmall (((hiff e).2.2 stores rawPath).1 h).2.2

/-- With 800,000 letters in front of the title, a configuration loads and its site is of no use. -/
theorem compile_error_of_loaded :
    let format := String.ofList (List.replicate 800000 'a') ++ "%title%"
    ∃ config, Config.new .blog format = .ok config ∧
      (ofConfig config).permalink.1 = .error .tooLarge ∧
      (∀ content, ((ofConfig config).urlFor content).1 = .error .tooLarge) ∧
      ∀ stores rawPath,
        ((ofConfig config).resolve stores rawPath).1 = .error (.compile .tooLarge) := by
  intro format
  -- the format is too long to be evaluated: all that is used is that its letters are letters
  have hmem {c : Char} (h : c ∈ (String.ofList (List.replicate 800000 'a')).toList) : c = 'a' := by
    rw [String.toList_ofList] at h
    exact List.eq_of_mem_replicate h
  have hlength : (String.ofList (List.replicate 800000 'a')).length = 800000 := by
    rw [String.length_ofList, List.length_replicate]
  obtain ⟨config, hnew, hoversized⟩ := Config.exists_isOversized .blog
    (fun h => absurd (hmem h) (by decide)) (fun h => absurd (hmem h) (by decide))
    (by rw [hlength]; decide)
  have hcompile : Permalink.compile config.format = .error .tooLarge :=
    (Config.IsLoaded.new _ _ hnew).compile_eq_error_iff.2 ⟨rfl, hoversized⟩
  have hsound := (holds_ofConfig config).isSound
  refine ⟨config, hnew, ?_, fun content => ?_, fun stores rawPath => ?_⟩
  · exact (permalink_eq_error_iff hsound).2 hcompile
  · exact (urlFor_eq_error_iff hsound content).2 hcompile
  · exact (resolve_eq_error_iff hsound stores rawPath).2 hcompile

end Site

end BlogRouting
