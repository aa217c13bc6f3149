import BlogRouting.Proofs.Routing.Sharing
import BlogRouting.Proofs.Site.Histories

/-!
# Saving a format

To save a format is to change the configuration and to empty the cache, and both happen only once
the format has been compiled. So a save is all or nothing (`save_takes_effect_at_once`). To the
cache, a history of the site is a run in which it is rebuilt exactly where a save succeeds. So a
permalink that the site has handed out is handed out again until then
(`serial_eq_iff_lastSaved?`) and never after (`serial_ne_of_save`).
-/

namespace BlogRouting.Site

variable {site : Site} {config : Config} {calls : List Call} {format : String} {baseUrl : Url}
  {permalink : Permalink} {e : CompileError} {held shared : SharedPermalink}

/-! ## One save -/

/-- A save fails exactly if the format makes no permalink. -/
theorem save_eq_error_iff :
    (site.save format).1 = .error e ↔ Permalink.compile format = .error e := by
  cases h : Permalink.compile format with
  | error cause => simp [save_of_compile_error h]
  | ok permalink => simp [save_of_compile_ok h]

theorem exists_permalink_of_save (h : (site.save format).1 = .ok ()) :
    ∃ permalink, Permalink.compile format = .ok permalink := by
  cases hcompile : Permalink.compile format with
  | error e => exact absurd h (by simp [save_of_compile_error hcompile])
  | ok permalink => exact ⟨permalink, rfl⟩

/-! ## Permalinks that have been handed out -/

/-- The cache of a site numbers its entries, whatever has been asked of the site. -/
theorem isNumbered_after (config : Config) (calls : List Call) :
    ((ofConfig config).after calls).cache.IsNumbered 0 := by
  obtain ⟨asked, hcache, -⟩ := exists_cache_after (ofConfig config) calls
  rw [hcache]
  exact PermalinkCache.isNumbered_empty.after asked

/-- A site hands out the same instance again exactly as long as no format is saved. -/
theorem serial_eq_iff_lastSaved? (h : site.Holds baseUrl format)
    (hnumbered : site.cache.IsNumbered 0) (hheld : site.permalink.1 = .ok held)
    (hshared : ((site.perform .permalink).after calls).permalink.1 = .ok shared) :
    held.serial = shared.serial ↔ (site.perform .permalink).lastSaved? calls = none := by
  obtain ⟨asked, hcache, hrebuild⟩ := exists_cache_after (site.perform .permalink) calls
  have hafter := (h.perform .permalink).after calls
  obtain rfl := h.format_eq
  -- both calls ask the cache, each for the format of its time
  replace hheld : (site.cache.get site.config.format).1 = .ok held := hheld
  replace hshared : (((site.perform .permalink).after calls).cache.get
    ((site.perform .permalink).after calls).config.format).1 = .ok shared := hshared
  rw [hcache, hafter.format_eq] at hshared
  rw [PermalinkCache.serial_eq_iff hnumbered hheld hshared, hrebuild, Bool.not_eq_true,
    Option.isSome_eq_false_iff, Option.isNone_iff_eq_none]
  refine ⟨And.right, fun hnone => ⟨?_, hnone⟩⟩
  rw [hnone]
  rfl

/-- Once a format is saved, what was handed out before is not handed out again, even if the format
is the same. -/
theorem serial_ne_of_save (h : site.Holds baseUrl format) (hnumbered : site.cache.IsNumbered 0)
    (hheld : site.permalink.1 = .ok held) {behind later : List Call} {new : String}
    (hsave : (((site.perform .permalink).after behind).save new).1 = .ok ())
    (hshared : ((((site.perform .permalink).after behind).perform (.save new)).after
      later).permalink.1 = .ok shared) : held.serial ≠ shared.serial := by
  obtain ⟨permalink, hcompile⟩ := exists_permalink_of_save hsave
  rw [← after_cons, ← after_append] at hshared
  rw [ne_eq, serial_eq_iff_lastSaved? h hnumbered hheld hshared, lastSaved?_append, lastSaved?,
    saved?_of_compile_ok hcompile]
  simp

/-! ## The format that counts -/

/-- All answers are by one permalink. -/
structure Serves (site : Site) (baseUrl : Url) (permalink legacy : Permalink) : Prop where
  permalink_eq : ∃ shared, site.permalink.1 = .ok shared ∧ shared.permalink = permalink
  urlFor_eq : ∀ content, (site.urlFor content).1 =
    .ok (absolute baseUrl (permalink.template.generate content))
  resolve_eq : ∀ stores rawPath, (site.resolve stores rawPath).1 =
    (Router.resolve ⟨permalink, legacy, baseUrl, stores⟩ rawPath).mapError .resolve

/-- A site that holds a format serves by the permalink of the format. -/
theorem Holds.serves (h : site.Holds baseUrl format) {legacy : Permalink}
    (hcompile : Permalink.compile format = .ok permalink)
    (hlegacy : Permalink.default = .ok legacy) :
    site.Serves baseUrl permalink legacy := by
  rw [← h.format_eq] at hcompile
  refine ⟨?_, fun content => ?_, fun stores rawPath => ?_⟩
  · have hpermalink := permalink_eq h.isSound
    rw [hcompile] at hpermalink
    cases hcall : site.permalink.1 with
    | error e => exact absurd hpermalink (by simp [hcall, Except.map])
    | ok shared => exact ⟨shared, rfl, by simpa [hcall, Except.map] using hpermalink⟩
  · rw [urlFor_eq h.isSound, hcompile, h.baseUrl_eq]
    rfl
  · rw [resolve_eq h.isSound hlegacy, hcompile, h.baseUrl_eq]

/-- A save changes the format that the site holds and nothing else. -/
theorem Holds.save {old : String} (h : site.Holds baseUrl old)
    (hcompile : Permalink.compile format = .ok permalink) :
    (site.save format).2.Holds baseUrl format := by
  have hholds := h.perform (.save format)
  rwa [saved?_of_compile_ok hcompile] at hholds

/-- As long as no other format is saved, the site has the one that it has. -/
theorem Holds.after_of_lastSaved? (h : site.Holds baseUrl format)
    (hnone : site.lastSaved? calls = none) : (site.after calls).Holds baseUrl format := by
  have hafter := h.after calls
  rwa [hnone, Option.getD_none] at hafter

/-- Saving a format is all or nothing, whatever has been asked of the site. It fails exactly if the
format makes no permalink. Then the site is what it was, and a permalink that was handed out just
before is handed out again. Else the configuration has the new format and the same base URL, no
entry of the cache is left, and until another format is saved, all answers are by the new one.
Permalinks that were handed out before match paths as their own format does, and none of them is
handed out again. -/
theorem save_takes_effect_at_once (config : Config) (calls : List Call) (format : String) :
    let site := (ofConfig config).after calls
    let saved := (site.save format).2
    (∀ e, (site.save format).1 = .error e ↔ Permalink.compile format = .error e) ∧
    (∀ e, (site.save format).1 = .error e → saved = site ∧
      ∀ held, site.permalink.1 = .ok held →
        (site.permalink.2.save format).1 = .error e ∧
          (site.permalink.2.save format).2.permalink.1 = .ok held) ∧
    ((site.save format).1 = .ok () →
      saved.config = { baseUrl := config.baseUrl, format } ∧ saved.cache.entries = [] ∧
      ∃ permalink legacy, Permalink.compile format = .ok permalink ∧
        Permalink.default = .ok legacy ∧
        ∀ later, saved.lastSaved? later = none →
          (saved.after later).config = saved.config ∧
            (saved.after later).Serves config.baseUrl permalink legacy) ∧
    ∀ before behind held, calls = before ++ .permalink :: behind →
      ((ofConfig config).after before).permalink.1 = .ok held →
        (∃ old, Permalink.compile ((ofConfig config).after before).config.format = .ok old ∧
          ∀ path, held.permalink.match? path = old.match? path) ∧
        ((site.save format).1 = .ok () → ∀ later shared,
          (saved.after later).permalink.1 = .ok shared → held.serial ≠ shared.serial) := by
  intro site saved
  have hsite := (holds_ofConfig config).after calls
  refine ⟨fun e => save_eq_error_iff, fun e herror => ?_, fun hsave => ?_, ?_⟩
  · have hcompile := save_eq_error_iff.1 herror
    refine ⟨congrArg Prod.snd (save_of_compile_error hcompile site), fun held hheld => ?_⟩
    rw [save_of_compile_error hcompile]
    exact ⟨rfl, PermalinkCache.get_after_get hheld List.not_mem_nil⟩
  · obtain ⟨permalink, hcompile⟩ := exists_permalink_of_save hsave
    obtain ⟨legacy, hlegacy⟩ := Permalink.exists_default
    have hsaved : saved.Holds config.baseUrl format := hsite.save hcompile
    refine ⟨hsaved.config_eq, ?_, permalink, legacy, hcompile, hlegacy, fun later hnone => ?_⟩
    · show (site.save format).2.cache.entries = []
      rw [save_of_compile_ok hcompile]
      rfl
    · have hlater := hsaved.after_of_lastSaved? hnone
      exact ⟨hlater.config_eq.trans hsaved.config_eq.symm, hlater.serves hcompile hlegacy⟩
  · rintro before behind held rfl hheld
    have hbefore := (holds_ofConfig config).after before
    have hmatch := permalink_eq hbefore.isSound
    rw [hheld] at hmatch
    refine ⟨⟨held.permalink, hmatch.symm, fun path => rfl⟩, fun hsave later shared hshared => ?_⟩
    -- the instance is from before the save, which forgets all of them
    have hcalls : site = (((ofConfig config).after before).perform .permalink).after behind := by
      show (ofConfig config).after (before ++ .permalink :: behind) = _
      rw [after_append, after_cons]
    replace hshared : ((site.perform (.save format)).after later).permalink.1 = .ok shared :=
      hshared
    rw [hcalls] at hsave hshared
    exact serial_ne_of_save hbefore (isNumbered_after config before) hheld hsave hshared

/-- A format without a title is refused and leaves everything in place. Another one is taken, and
what was handed out for the first one goes on matching its paths. -/
theorem save_takes_effect_at_once_twice :
    let site := (ofConfig ⟨.blog, "/%year%/%title%"⟩).after [.permalink]
    let saved := (site.save "/%title%/").2
    let held : SharedPermalink := ⟨0, .yearTitle⟩
    (site.permalink.1 = .ok held ∧ (site.save "/%year%/").1 = .error .missingTitle ∧
      (site.save "/%year%/").2 = site ∧
      (site.permalink.2.save "/%year%/").2.permalink.1 = .ok held) ∧
    ((site.save "/%title%/").1 = .ok () ∧ saved.config = ⟨.blog, "/%title%/"⟩ ∧
      saved.lastSaved? [.save "/%year%/"] = none ∧
      ((saved.after [.save "/%year%/"]).urlFor .hello).1 = .ok (absolute .blog "hello/")) ∧
    (ofConfig ⟨.blog, "/%year%/%title%"⟩).permalink.1 = .ok held ∧
      (saved.after []).permalink.1
        = .ok ⟨1, ⟨"/%title%/", [.placeholder .title, .literal "/"]⟩⟩ ∧ held.serial ≠ 1 := by
  intro site saved held
  have hheld : (ofConfig ⟨.blog, "/%year%/%title%"⟩).permalink.1 = .ok held := by decide +kernel
  have hagain : site.permalink.1 = .ok held := by decide +kernel
  have hrefused : (site.save "/%year%/").1 = .error .missingTitle := by decide +kernel
  have hsave : (site.save "/%title%/").1 = .ok () := by decide +kernel
  have hnone : saved.lastSaved? [.save "/%year%/"] = none := by decide +kernel
  have hnew : (saved.after []).permalink.1
      = .ok ⟨1, ⟨"/%title%/", [.placeholder .title, .literal "/"]⟩⟩ := by decide +kernel
  have hcompile : Permalink.compile "/%title%/"
      = .ok ⟨"/%title%/", [.placeholder .title, .literal "/"]⟩ := by decide +kernel
  have hgenerate : Template.generate ⟨"/%title%/", [.placeholder .title, .literal "/"]⟩ .hello
      = "hello/" := by decide +kernel
  obtain ⟨-, hfails, -, -⟩ :=
    save_takes_effect_at_once ⟨.blog, "/%year%/%title%"⟩ [.permalink] "/%year%/"
  obtain ⟨-, -, hsucceeds, hbefore⟩ :=
    save_takes_effect_at_once ⟨.blog, "/%year%/%title%"⟩ [.permalink] "/%title%/"
  obtain ⟨hsite, hkept⟩ := hfails _ hrefused
  obtain ⟨hconfig, -, permalink, legacy, hpermalink, -, hlater⟩ := hsucceeds hsave
  obtain rfl := Except.ok.inj (hcompile.symm.trans hpermalink)
  have hurl := (hlater _ hnone).2.urlFor_eq .hello
  rw [hgenerate] at hurl
  exact ⟨⟨hagain, hrefused, hsite, (hkept held hagain).2⟩, ⟨hsave, hconfig, hnone, hurl⟩, hheld,
    hnew, (hbefore [] [] held rfl hheld).2 hsave [] _ hnew⟩

end BlogRouting.Site
