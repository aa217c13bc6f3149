import BlogRouting.Proofs.Routing.Canonical
import BlogRouting.Proofs.Routing.Sharing
import BlogRouting.Site.Basic

/-!
# Histories of a site

A site keeps its format in one place and the permalinks compiled for it in another. What a call
does is told once for each: it changes the configuration only if it saves a format
(`config_perform`), and to the cache it is some calls, with a rebuild among them only if it saves a
format (`exists_cache_perform`). Whatever calls have been made, the two belong together: the format
is that of the last save that succeeded, and every entry of the cache is the permalink of its own
format (`Holds.after`). So a site answers as if it had compiled its formats for the call and had no
cache at all (`resolve_after`).
-/

namespace BlogRouting.Site

/-- What a site can be asked to do. -/
inductive Call where
  | save (format : String)
  | permalink
  | urlFor (content : Content)
  | resolve (stores : Stores) (rawPath : String)

/-- The site after a call. -/
def perform (site : Site) : Call → Site
  | .save format => (site.save format).2
  | .permalink => site.permalink.2
  | .urlFor content => (site.urlFor content).2
  | .resolve stores rawPath => (site.resolve stores rawPath).2

/-- The site after some calls, one after another. -/
def after (site : Site) (calls : List Call) : Site :=
  calls.foldl perform site

/-- The format of a call that saves one and succeeds. -/
def saved? (site : Site) : Call → Option String
  | .save format => (site.save format).1.toOption.map fun _ => format
  | _ => none

/-- The format of the last save that succeeds. -/
def lastSaved? (site : Site) : List Call → Option String
  | [] => none
  | call :: rest => ((site.perform call).lastSaved? rest).or (site.saved? call)

variable {site : Site} {baseUrl : Url} {format : String} {permalink legacy : Permalink}
  {e : CompileError}

theorem after_cons (site : Site) (call : Call) (calls : List Call) :
    site.after (call :: calls) = (site.perform call).after calls :=
  List.foldl_cons ..

theorem after_append (site : Site) (before calls : List Call) :
    site.after (before ++ calls) = (site.after before).after calls :=
  List.foldl_append

/-- What was saved last was saved by the later calls, or by the earlier ones if the later have saved
nothing. -/
theorem lastSaved?_append (site : Site) (before calls : List Call) :
    site.lastSaved? (before ++ calls)
      = ((site.after before).lastSaved? calls).or (site.lastSaved? before) := by
  induction before generalizing site with
  | nil => simp [lastSaved?, after]
  | cons call before ih =>
    rw [List.cons_append, lastSaved?, ih, after_cons, lastSaved?, Option.or_assoc]

/-! ## What calls do -/

/-- A format that makes no permalink is refused, and nothing changes. -/
theorem save_of_compile_error (h : Permalink.compile format = .error e) (site : Site) :
    site.save format = (.error e, site) := by
  rw [save, h]

/-- A format that makes a permalink takes the place of the old one, and the cache is emptied. -/
theorem save_of_compile_ok (h : Permalink.compile format = .ok permalink) (site : Site) :
    site.save format = (.ok (), ⟨{ site.config with format }, site.cache.rebuild⟩) := by
  rw [save, h]

theorem saved?_of_compile_error (h : Permalink.compile format = .error e) (site : Site) :
    site.saved? (.save format) = none := by
  rw [saved?, save_of_compile_error h]
  rfl

theorem saved?_of_compile_ok (h : Permalink.compile format = .ok permalink) (site : Site) :
    site.saved? (.save format) = some format := by
  rw [saved?, save_of_compile_ok h]
  rfl

theorem config_resolve (site : Site) (stores : Stores) (rawPath : String) :
    (site.resolve stores rawPath).2.config = site.config := by
  unfold Site.resolve
  split
  · rfl
  · split <;> rfl

/-- A call changes the configuration only if it saves a format. -/
theorem config_perform (site : Site) (call : Call) :
    (site.perform call).config
      = { site.config with format := (site.saved? call).getD site.config.format } := by
  cases call with
  | save new =>
    show (site.save new).2.config = _
    cases hcompile : Permalink.compile new with
    | error e =>
      rw [save_of_compile_error hcompile, saved?_of_compile_error hcompile]
      rfl
    | ok permalink =>
      rw [save_of_compile_ok hcompile, saved?_of_compile_ok hcompile]
      rfl
  | permalink => rfl
  | urlFor content => rfl
  | resolve stores rawPath => exact config_resolve site stores rawPath

/-- To the cache, resolving is asking for one permalink or two. -/
theorem exists_cache_resolve (site : Site) (stores : Stores) (rawPath : String) :
    ∃ asked, (site.resolve stores rawPath).2.cache = site.cache.after asked ∧
      .rebuild ∉ asked := by
  unfold Site.resolve
  rcases hcurrent : site.cache.get site.config.format with ⟨_ | current, cache⟩
  · exact ⟨[.get site.config.format], (congrArg Prod.snd hcurrent).symm, by simp⟩
  · -- the legacy permalink is asked for only if there is a current one
    refine ⟨[.get site.config.format, .legacy], ?_, by simp⟩
    have hcache : site.cache.after [.get site.config.format, .legacy] = cache.legacy.2 :=
      congrArg (·.2.legacy.2) hcurrent
    rw [hcache]
    dsimp only
    rcases cache.legacy with ⟨_ | legacy, last⟩ <;> rfl

/-- To the cache, a call is some calls, with a rebuild among them if the call saves a format. -/
theorem exists_cache_perform (site : Site) (call : Call) :
    ∃ asked, (site.perform call).cache = site.cache.after asked ∧
      (.rebuild ∈ asked ↔ (site.saved? call).isSome) := by
  cases call with
  | save new =>
    show ∃ asked, (site.save new).2.cache = _ ∧ _
    cases hcompile : Permalink.compile new with
    | error e =>
      rw [save_of_compile_error hcompile, saved?_of_compile_error hcompile]
      exact ⟨[], rfl, by simp⟩
    | ok permalink =>
      rw [save_of_compile_ok hcompile, saved?_of_compile_ok hcompile]
      exact ⟨[.rebuild], rfl, by simp⟩
  | permalink => exact ⟨[.get site.config.format], rfl, by simp [saved?]⟩
  | urlFor content => exact ⟨[.get site.config.format], rfl, by simp [saved?]⟩
  | resolve stores rawPath =>
    obtain ⟨asked, hcache, hrebuild⟩ := exists_cache_resolve site stores rawPath
    exact ⟨asked, hcache, by simp [saved?, hrebuild]⟩

/-- To the cache, a history of the site is some calls of its own, with a rebuild among them exactly
if a format was saved. -/
theorem exists_cache_after (site : Site) (calls : List Call) :
    ∃ asked, (site.after calls).cache = site.cache.after asked ∧
      (.rebuild ∈ asked ↔ (site.lastSaved? calls).isSome) := by
  induction calls generalizing site with
  | nil => exact ⟨[], rfl, by simp [lastSaved?]⟩
  | cons call calls ih =>
    obtain ⟨first, hfirst, hrebuild⟩ := exists_cache_perform site call
    obtain ⟨rest, hrest, hrebuilds⟩ := ih (site.perform call)
    refine ⟨first ++ rest, ?_, ?_⟩
    · rw [after_cons, hrest, hfirst, PermalinkCache.after_append]
    · rw [List.mem_append, hrebuild, hrebuilds, lastSaved?, Option.isSome_or, Bool.or_eq_true,
        or_comm]

/-! ## What calls keep -/

/-- What is known of a site at any time. -/
structure Holds (site : Site) (baseUrl : Url) (format : String) : Prop where
  baseUrl_eq : site.config.baseUrl = baseUrl
  format_eq : site.config.format = format
  isSound : site.cache.IsSound

theorem holds_ofConfig (config : Config) :
    (ofConfig config).Holds config.baseUrl config.format := by
  refine ⟨rfl, rfl, ?_⟩
  intro key shared hmem
  exact absurd hmem (by simp [ofConfig])

theorem Holds.config_eq (h : site.Holds baseUrl format) : site.config = ⟨baseUrl, format⟩ := by
  rw [← h.baseUrl_eq, ← h.format_eq]

/-- A call changes what is held only if it saves a format. -/
theorem Holds.perform (h : site.Holds baseUrl format) (call : Call) :
    (site.perform call).Holds baseUrl ((site.saved? call).getD format) := by
  obtain ⟨asked, hcache, -⟩ := exists_cache_perform site call
  refine ⟨?_, ?_, ?_⟩
  · rw [config_perform]
    exact h.baseUrl_eq
  · rw [config_perform, h.format_eq]
  · rw [hcache]
    exact h.isSound.after asked

/-- After a history, the site holds its base URL and the format that was saved last. -/
theorem Holds.after (h : site.Holds baseUrl format) (calls : List Call) :
    (site.after calls).Holds baseUrl ((site.lastSaved? calls).getD format) := by
  induction calls generalizing site format with
  | nil => exact h
  | cons call rest ih =>
    have hrest := ih (h.perform call)
    rw [after_cons, lastSaved?]
    -- a later save counts, and the call itself if there is none
    cases hlast : (site.perform call).lastSaved? rest with
    | none => simpa [hlast] using hrest
    | some last => simpa [hlast] using hrest

/-! ## What calls answer -/

/-- A site gives the permalink of its format, as if it were compiled each time. -/
theorem permalink_eq (h : site.cache.IsSound) :
    site.permalink.1.map (·.permalink) = Permalink.compile site.config.format :=
  h.get_fst _

/-- The URL of content is made by the format of the site, as if it were compiled each time. -/
theorem urlFor_eq (h : site.cache.IsSound) (content : Content) :
    (site.urlFor content).1 = (Permalink.compile site.config.format).map fun permalink =>
      absolute site.config.baseUrl (permalink.template.generate content) := by
  rw [← permalink_eq h]
  unfold urlFor
  rcases site.permalink with ⟨_ | shared, _⟩ <;> rfl

/-- A site answers as a router does whose permalinks have just been compiled. -/
theorem resolve_eq (h : site.cache.IsSound) (hlegacy : Permalink.default = .ok legacy)
    (stores : Stores) (rawPath : String) :
    (site.resolve stores rawPath).1 =
      match Permalink.compile site.config.format with
      | .error e => .error (.compile e)
      | .ok permalink =>
        (Router.resolve ⟨permalink, legacy, site.config.baseUrl, stores⟩ rawPath).mapError
          .resolve := by
  have hcurrent := h.get_fst site.config.format
  have hsound := h.get_snd site.config.format
  unfold Site.resolve
  rcases hget : site.cache.get site.config.format with ⟨_ | current, cache⟩
  · rw [← hcurrent, hget]
    rfl
  · rw [hget] at hsound
    -- the permalink of old links comes from the cache that the current one has left
    have hfresh : cache.legacy.1.map (·.permalink) = .ok legacy := by
      rw [← hlegacy]
      exact hsound.get_fst Template.defaultFormat
    rw [← hcurrent, hget]
    dsimp only
    rcases hlast : cache.legacy with ⟨_ | shared, last⟩
    · simp [hlast, Except.map] at hfresh
    · obtain rfl : shared.permalink = legacy := by simpa [hlast, Except.map] using hfresh
      simp only [Except.map]

/-- Whatever has been asked of a site, it answers like a router whose permalinks have just been
compiled, with the format of the last save that succeeded and the base URL it was made with. Where
that format does not compile, the answer is why. -/
theorem resolve_after (config : Config) (calls : List Call) :
    let site := (ofConfig config).after calls
    let format := ((ofConfig config).lastSaved? calls).getD config.format
    (∀ permalink, Permalink.compile format = .ok permalink →
      (∃ legacy, Permalink.default = .ok legacy ∧ ∀ stores rawPath,
        (site.resolve stores rawPath).1 =
          (Router.resolve ⟨permalink, legacy, config.baseUrl, stores⟩ rawPath).mapError .resolve) ∧
      ∀ content, (site.urlFor content).1 =
        .ok (absolute config.baseUrl (permalink.template.generate content))) ∧
    (∀ e, Permalink.compile format = .error e →
      (∀ stores rawPath, (site.resolve stores rawPath).1 = .error (.compile e)) ∧
      ∀ content, (site.urlFor content).1 = .error e) ∧
    ∀ key shared, (key, shared) ∈ site.cache.entries →
      Permalink.compile key = .ok shared.permalink := by
  intro site format
  obtain ⟨hbaseUrl, hformat, hsound⟩ := (holds_ofConfig config).after calls
  obtain ⟨legacy, hlegacy⟩ := Permalink.exists_default
  have hresolve := resolve_eq hsound hlegacy
  have hurl := urlFor_eq hsound
  rw [hbaseUrl, hformat] at hresolve hurl
  refine ⟨fun permalink hcompile => ⟨⟨legacy, hlegacy, fun stores rawPath => ?_⟩,
    fun content => ?_⟩, fun e hcompile => ⟨fun stores rawPath => ?_, fun content => ?_⟩, hsound⟩
  · rw [hresolve, hcompile]
  · rw [hurl, hcompile]
    rfl
  · rw [hresolve, hcompile]
  · rw [hurl, hcompile]
    rfl

/-- What was cached for the first format is no answer once another one is saved, and a format that
cannot be saved is none either. -/
theorem resolve_after_saves :
    let stores : Stores := ⟨ContentStore.answer ⟨[.hello]⟩, RedirectTable.empty.answer⟩
    let site := (ofConfig ⟨.blog, "/%year%/%title%"⟩).after
      [.resolve stores "/blog/2004/hello", .save "/%title%/", .save "/%year%/"]
    (site.resolve stores "/blog/2004/4/1/hello").1
        = .ok (.permanentRedirect "http://myblog.net/blog/hello/") ∧
      (site.urlFor .hello).1 = .ok (absolute .blog "hello/") := by
  intro stores site
  have hcompile : Permalink.compile "/%title%/"
      = .ok ⟨"/%title%/", [.placeholder .title, .literal "/"]⟩ :=
    eq_ok_of_toOption (by decide +kernel)
  have hdefault : Permalink.default = .ok ⟨Template.defaultFormat,
      [.placeholder .year, .literal "/", .placeholder .month, .literal "/", .placeholder .day,
        .literal "/", .placeholder .title]⟩ :=
    eq_ok_of_toOption (by decide +kernel)
  have hformat : ((ofConfig ⟨.blog, "/%year%/%title%"⟩).lastSaved?
      [.resolve stores "/blog/2004/hello", .save "/%title%/", .save "/%year%/"]).getD
        "/%year%/%title%" = "/%title%/" := by decide +kernel
  obtain ⟨hanswers, -, -⟩ := resolve_after ⟨.blog, "/%year%/%title%"⟩
    [.resolve stores "/blog/2004/hello", .save "/%title%/", .save "/%year%/"]
  obtain ⟨⟨legacy, hlegacy, hresolve⟩, hurl⟩ := hanswers _ (by rw [hformat, hcompile])
  obtain rfl := Except.ok.inj (hdefault.symm.trans hlegacy)
  have hgenerate : Template.generate ⟨"/%title%/", [.placeholder .title, .literal "/"]⟩ .hello
      = "hello/" := by decide +kernel
  refine ⟨?_, ?_⟩
  · rw [hresolve]
    exact eq_ok_of_toOption (by decide +kernel)
  · rw [hurl, hgenerate]

end BlogRouting.Site
