import BlogRouting.Proofs.Template.Accepted
import BlogRouting.Routing.Cache

/-!
# What a cache hands out

The permalink that a cache hands out for a format is the one that compiling the format gives,
however long ago it was compiled (`IsSound.get_fst`): an entry stands under the format that it was
compiled from, and getting a permalink keeps it so (`IsSound.get_snd`).
-/

namespace BlogRouting

/-- The default format is small enough, so there always is a legacy permalink. -/
theorem Permalink.exists_default : ∃ permalink, Permalink.default = .ok permalink := by
  have hsome : Permalink.default.toOption.isSome = true := by decide +kernel
  obtain ⟨permalink, hpermalink⟩ := Option.isSome_iff_exists.1 hsome
  exact ⟨permalink, eq_ok_of_toOption hpermalink⟩

namespace PermalinkCache

variable {cache : PermalinkCache}

/-- Getting finds an entry, makes one, or fails and leaves no trace. -/
theorem get_cases (cache : PermalinkCache) (format : String) :
    (∃ shared, cache.entries.lookup format = some shared ∧
      cache.get format = (.ok shared, cache)) ∨
    (∃ permalink, cache.entries.lookup format = none ∧ Permalink.compile format = .ok permalink ∧
      cache.get format = (.ok ⟨cache.made, permalink⟩,
        ⟨(format, ⟨cache.made, permalink⟩) :: cache.entries, cache.made + 1⟩)) ∨
    ∃ e, cache.entries.lookup format = none ∧ Permalink.compile format = .error e ∧
      cache.get format = (.error e, cache) := by
  unfold get
  cases hlookup : cache.entries.lookup format with
  | some shared => exact .inl ⟨shared, rfl, rfl⟩
  | none =>
    cases hcompile : Permalink.compile format with
    | ok permalink => exact .inr (.inl ⟨permalink, rfl, rfl, rfl⟩)
    | error e => exact .inr (.inr ⟨e, rfl, rfl, rfl⟩)

/-- Every entry is the permalink of the format that it stands under. -/
def IsSound (cache : PermalinkCache) : Prop :=
  ∀ format shared, (format, shared) ∈ cache.entries →
    Permalink.compile format = .ok shared.permalink

theorem isSound_rebuild (cache : PermalinkCache) : cache.rebuild.IsSound := by
  intro format shared hmem
  exact absurd hmem (by simp [rebuild])

/-- What a sound cache has for a format is what compiling it would give. -/
theorem IsSound.of_lookup (h : cache.IsSound) {format : String} {shared : SharedPermalink}
    (hlookup : cache.entries.lookup format = some shared) :
    Permalink.compile format = .ok shared.permalink := by
  obtain ⟨before, after, hentries, -⟩ := List.lookup_eq_some_iff.1 hlookup
  exact h format shared (by simp [hentries])

/-- A sound cache gives for a format what compiling it gives, errors included. -/
theorem IsSound.get_fst (h : cache.IsSound) (format : String) :
    (cache.get format).1.map (·.permalink) = Permalink.compile format := by
  obtain ⟨shared, hlookup, hget⟩ | ⟨permalink, -, hcompile, hget⟩ | ⟨e, -, hcompile, hget⟩ :=
    cache.get_cases format
  · rw [hget, h.of_lookup hlookup]
    rfl
  · rw [hget, hcompile]
    rfl
  · rw [hget, hcompile]
    rfl

/-- What is put into the cache has just been compiled, so the cache stays sound. -/
theorem IsSound.get_snd (h : cache.IsSound) (format : String) : (cache.get format).2.IsSound := by
  obtain ⟨shared, -, hget⟩ | ⟨permalink, -, hcompile, hget⟩ | ⟨e, -, -, hget⟩ :=
    cache.get_cases format
  · rwa [hget]
  · -- the one entry that is new has just been compiled
    rw [hget]
    intro key entry hmem
    rcases List.mem_cons.1 hmem with hnew | hold
    · cases hnew
      exact hcompile
    · exact h key entry hold
  · rwa [hget]

end PermalinkCache

end BlogRouting
