import BlogRouting.Proofs.Routing.Caching
import Mathlib.Data.List.Induction
import Mathlib.Data.List.Nodup

/-!
# Who shares an instance

Two callers of a cache share an instance exactly if they asked for the same format and the cache was
not rebuilt in between, whatever else it was asked for (`serial_eq_iff`). Two invariants carry this:

* an entry stays until the cache is rebuilt (`lookup_after`), so whoever asks for its format again
  gets the instance again;
* the entries are numbered (`IsNumbered`): different entries have different instances, and all of
  them were made since some instance that the invariant remembers. That one is the first that was
  made after the cache was rebuilt, so what was handed out before is never handed out again.

The entries also tell which formats have been obtained (`mem_formats_after_iff`).
-/

namespace BlogRouting.PermalinkCache

/-- What a cache can be asked to do. -/
inductive Call where
  | get (format : String)
  | legacy
  | rebuild
  deriving DecidableEq, Repr

/-- The format that is asked for. -/
def Call.format? : Call → Option String
  | get format => some format
  | legacy => some Template.defaultFormat
  | rebuild => none

/-- The cache after a call. -/
def perform (cache : PermalinkCache) : Call → PermalinkCache
  | .get format => (cache.get format).2
  | .legacy => cache.legacy.2
  | .rebuild => cache.rebuild

/-- The answer to a call for a permalink. -/
def answer? (cache : PermalinkCache) : Call → Option (Except CompileError SharedPermalink)
  | .get format => some (cache.get format).1
  | .legacy => some cache.legacy.1
  | .rebuild => none

/-- The cache after some calls, one after another. -/
def after (cache : PermalinkCache) (calls : List Call) : PermalinkCache :=
  calls.foldl perform cache

/-- The formats that there are entries for. -/
def formats (cache : PermalinkCache) : List String :=
  cache.entries.map (·.1)

variable {cache : PermalinkCache} {call first second : Call} {calls before between : List Call}
  {format other : String} {shared a b : SharedPermalink} {e : CompileError} {floor : Nat}

/-! ## Calls for a format

The default format is asked for like any other. -/

/-- A call that asks for a format leaves the cache that the request for it leaves. -/
theorem perform_of_format? (h : call.format? = some format) :
    cache.perform call = (cache.get format).2 := by
  cases call <;> cases h <;> rfl

/-- A call that asks for a format is answered with what the request for it gives. -/
theorem answer?_of_format? (h : call.format? = some format) :
    cache.answer? call = some (cache.get format).1 := by
  cases call <;> cases h <;> rfl

/-- Only calls that ask for a format are answered. -/
theorem exists_format_of_answer? {answer : Except CompileError SharedPermalink}
    (h : cache.answer? call = some answer) :
    ∃ format, call.format? = some format ∧ (cache.get format).1 = answer := by
  cases call with
  | get format => exact ⟨format, rfl, Option.some.inj h⟩
  | legacy => exact ⟨Template.defaultFormat, rfl, Option.some.inj h⟩
  | rebuild => exact absurd h (by simp [answer?])

theorem after_cons (cache : PermalinkCache) (call : Call) (calls : List Call) :
    cache.after (call :: calls) = (cache.perform call).after calls :=
  List.foldl_cons ..

/-- A run of calls goes on from where the calls in front have led. -/
theorem after_append (cache : PermalinkCache) (before calls : List Call) :
    cache.after (before ++ calls) = (cache.after before).after calls :=
  List.foldl_append

/-- The last call is performed on what the calls in front have left. -/
theorem after_concat (cache : PermalinkCache) (calls : List Call) (call : Call) :
    cache.after (calls ++ [call]) = (cache.after calls).perform call :=
  after_append cache calls [call]

/-! ## What is kept -/

/-- A permalink that is held is given out as it is. -/
theorem get_of_lookup (h : cache.entries.lookup format = some shared) :
    cache.get format = (.ok shared, cache) := by
  obtain ⟨found, hlookup, hget⟩ | ⟨_, hnone, -⟩ | ⟨_, hnone, -⟩ := cache.get_cases format
  · rw [hget, Option.some.inj (h.symm.trans hlookup)]
  · exact absurd (h.symm.trans hnone) (by simp)
  · exact absurd (h.symm.trans hnone) (by simp)

/-- A format that does not compile leaves nothing in the cache. -/
theorem get_snd_of_error (h : (cache.get format).1 = .error e) : (cache.get format).2 = cache := by
  obtain ⟨shared, -, hget⟩ | ⟨permalink, -, -, hget⟩ | ⟨_, -, -, hget⟩ := cache.get_cases format
  · exact absurd h (by simp [hget])
  · exact absurd h (by simp [hget])
  · rw [hget]

/-- What is handed out is kept. -/
theorem lookup_get_self (h : (cache.get format).1 = .ok shared) :
    (cache.get format).2.entries.lookup format = some shared := by
  obtain ⟨found, hlookup, hget⟩ | ⟨permalink, -, -, hget⟩ | ⟨_, -, -, hget⟩ :=
    cache.get_cases format
  · rw [hget] at h ⊢
    rwa [← Except.ok.inj h]
  · rw [hget] at h ⊢
    rw [← Except.ok.inj h]
    exact List.lookup_cons_self
  · exact absurd h (by simp [hget])

/-- A request takes nothing out of the cache and replaces nothing in it. -/
theorem lookup_get (h : cache.entries.lookup format = some shared) (other : String) :
    (cache.get other).2.entries.lookup format = some shared := by
  obtain ⟨_, -, hget⟩ | ⟨permalink, hnone, -, hget⟩ | ⟨_, -, -, hget⟩ := cache.get_cases other
  · rwa [hget]
  · -- an entry is made only where there was none
    have hne : (format == other) = false := by
      rw [beq_eq_false_iff_ne]
      rintro rfl
      exact absurd (h.symm.trans hnone) (by simp)
    rw [hget, List.lookup_cons, hne]
    exact h
  · rwa [hget]

/-- No call but a rebuild takes anything out of the cache. -/
theorem lookup_perform (h : cache.entries.lookup format = some shared) (hcall : call ≠ .rebuild) :
    (cache.perform call).entries.lookup format = some shared := by
  cases call with
  | get other => exact lookup_get h other
  | legacy => exact lookup_get h Template.defaultFormat
  | rebuild => exact absurd rfl hcall

/-- What is held stays until the next rebuild. -/
theorem lookup_after (h : cache.entries.lookup format = some shared) (hcalls : .rebuild ∉ calls) :
    (cache.after calls).entries.lookup format = some shared := by
  induction calls generalizing cache with
  | nil => exact h
  | cons call calls ih =>
    obtain ⟨hcall, hrest⟩ : .rebuild ≠ call ∧ .rebuild ∉ calls := by simpa using hcalls
    rw [after_cons]
    exact ih (lookup_perform h (Ne.symm hcall)) hrest

theorem IsSound.perform (h : cache.IsSound) (call : Call) : (cache.perform call).IsSound := by
  cases call with
  | get format => exact h.get_snd format
  | legacy => exact h.get_snd Template.defaultFormat
  | rebuild => exact isSound_rebuild cache

theorem IsSound.after (h : cache.IsSound) (calls : List Call) : (cache.after calls).IsSound := by
  induction calls generalizing cache with
  | nil => exact h
  | cons call calls ih => exact ih (h.perform call)

theorem isSound_empty : empty.IsSound :=
  isSound_rebuild empty

/-- Whether getting fails depends on the format only. -/
theorem IsSound.get_eq_error_iff (h : cache.IsSound) :
    (cache.get format).1 = .error e ↔ Permalink.compile format = .error e := by
  rw [← h.get_fst format]
  cases (cache.get format).1 <;> simp [Except.map]

/-! ## Numbers -/

/-- No two entries have the same format or the same instance. All instances have been made, and the
one with the number `floor` was not made before any of them. -/
structure IsNumbered (cache : PermalinkCache) (floor : Nat) : Prop where
  floor_le : floor ≤ cache.made
  bounds : ∀ format shared, (format, shared) ∈ cache.entries →
    floor ≤ shared.serial ∧ shared.serial < cache.made
  nodup_formats : cache.formats.Nodup
  nodup_serials : (cache.entries.map (·.2.serial)).Nodup

/-- A rebuild keeps the count, so what is made later is numbered behind all that was made before. -/
theorem isNumbered_rebuild (h : floor ≤ cache.made) : cache.rebuild.IsNumbered floor :=
  ⟨h, fun _ _ hmem => absurd hmem (by simp [rebuild]), List.nodup_nil, List.nodup_nil⟩

theorem isNumbered_empty : empty.IsNumbered 0 := by
  show empty.rebuild.IsNumbered 0
  exact isNumbered_rebuild (Nat.zero_le _)

theorem mem_of_lookup (h : cache.entries.lookup format = some shared) :
    (format, shared) ∈ cache.entries := by
  obtain ⟨front, back, hentries, -⟩ := List.lookup_eq_some_iff.1 h
  rw [hentries]
  simp

theorem mem_formats_of_lookup (h : cache.entries.lookup format = some shared) :
    format ∈ cache.formats :=
  List.mem_map_of_mem (mem_of_lookup h)

/-- A format under which nothing is held is none of them. -/
theorem not_mem_formats_of_lookup (h : cache.entries.lookup format = none) :
    format ∉ cache.formats := by
  intro hmem
  obtain ⟨entry, hentry, rfl⟩ := List.mem_map.1 hmem
  simpa using List.lookup_eq_none_iff.1 h entry hentry

/-- The instance that is made has a number that no other one has. -/
theorem IsNumbered.get (h : cache.IsNumbered floor) (format : String) :
    (cache.get format).2.IsNumbered floor := by
  obtain ⟨_, -, hget⟩ | ⟨permalink, hnone, -, hget⟩ | ⟨_, -, -, hget⟩ := cache.get_cases format
  · rwa [hget]
  · rw [hget]
    have hbounds := h.bounds
    have hfloor := h.floor_le
    -- the new instance gets a number that is greater than all before
    refine ⟨Nat.le_succ_of_le hfloor, ?_, ?_, ?_⟩
    · intro key entry hmem
      show floor ≤ entry.serial ∧ entry.serial < cache.made + 1
      rcases List.mem_cons.1 hmem with hnew | hold
      · cases hnew
        exact ⟨hfloor, Nat.lt_succ_self _⟩
      · have := hbounds key entry hold
        omega
    · exact List.nodup_cons.2 ⟨not_mem_formats_of_lookup hnone, h.nodup_formats⟩
    · refine List.nodup_cons.2 ⟨?_, h.nodup_serials⟩
      intro hmem
      obtain ⟨⟨key, entry⟩, hentry, hserial⟩ := List.mem_map.1 hmem
      have hlt := (hbounds key entry hentry).2
      replace hserial : entry.serial = cache.made := hserial
      omega
  · rwa [hget]

/-- A call keeps the numbers apart, since what it makes gets the next one. -/
theorem IsNumbered.perform (h : cache.IsNumbered floor) (call : Call) :
    (cache.perform call).IsNumbered floor := by
  cases call with
  | get format => exact h.get format
  | legacy => exact h.get Template.defaultFormat
  | rebuild => exact isNumbered_rebuild h.floor_le

theorem IsNumbered.after (h : cache.IsNumbered floor) (calls : List Call) :
    (cache.after calls).IsNumbered floor := by
  induction calls generalizing cache with
  | nil => exact h
  | cons call calls ih => exact ih (h.perform call)

/-- What is given out has been made since the rebuild, and by now. -/
theorem IsNumbered.bounds_of_get (h : cache.IsNumbered floor)
    (hget : (cache.get format).1 = .ok shared) :
    floor ≤ shared.serial ∧ shared.serial < (cache.get format).2.made :=
  (h.get format).bounds format shared (mem_of_lookup (lookup_get_self hget))

/-- Two formats never share an instance. -/
theorem IsNumbered.format_eq (h : cache.IsNumbered floor)
    (ha : cache.entries.lookup format = some a) (hb : cache.entries.lookup other = some b)
    (hserial : a.serial = b.serial) : format = other :=
  congrArg Prod.fst
    (List.inj_on_of_nodup_map h.nodup_serials (mem_of_lookup ha) (mem_of_lookup hb) hserial)

/-- Calls only count upwards. -/
theorem made_le_perform (cache : PermalinkCache) (call : Call) :
    cache.made ≤ (cache.perform call).made := by
  have hget (format : String) : cache.made ≤ (cache.get format).2.made := by
    obtain ⟨_, -, hget⟩ | ⟨_, -, -, hget⟩ | ⟨_, -, -, hget⟩ := cache.get_cases format <;>
      simp [hget]
  cases call with
  | get format => exact hget format
  | legacy => exact hget Template.defaultFormat
  | rebuild => exact le_rfl

theorem made_le_after (cache : PermalinkCache) (calls : List Call) :
    cache.made ≤ (cache.after calls).made := by
  induction calls generalizing cache with
  | nil => exact le_rfl
  | cons call calls ih => exact (made_le_perform cache call).trans (ih (cache.perform call))

/-- Whatever is handed out after the cache was rebuilt has been made after all that was made
before. -/
theorem made_le_serial_of_rebuild (cache : PermalinkCache) (hcalls : .rebuild ∈ calls)
    (hget : ((cache.after calls).get format).1 = .ok shared) : cache.made ≤ shared.serial := by
  obtain ⟨front, back, rfl⟩ := List.append_of_mem hcalls
  have hmade := made_le_after cache front
  have hnumbered : (cache.after (front ++ .rebuild :: back)).IsNumbered cache.made := by
    rw [after_append, after_cons]
    exact (isNumbered_rebuild hmade).after back
  exact (hnumbered.bounds_of_get hget).1

/-! ## Sharing -/

/-- As long as the cache is not rebuilt, a format keeps its instance. -/
theorem get_after_get (ha : (cache.get format).1 = .ok a) (hbetween : .rebuild ∉ between) :
    (((cache.get format).2.after between).get format).1 = .ok a := by
  rw [get_of_lookup (lookup_after (lookup_get_self ha) hbetween)]

/-- Two calls are given the same instance exactly if they ask for the same format and the cache is
not rebuilt between them. -/
theorem serial_eq_iff (h : cache.IsNumbered floor) (ha : (cache.get format).1 = .ok a)
    (hb : (((cache.get format).2.after between).get other).1 = .ok b) :
    a.serial = b.serial ↔ format = other ∧ .rebuild ∉ between := by
  refine ⟨?_, ?_⟩
  · intro hserial
    have hbetween : .rebuild ∉ between := by
      intro hmem
      have hlt := (h.bounds_of_get ha).2
      have hle := made_le_serial_of_rebuild _ hmem hb
      omega
    -- both entries are there when the second call is over
    have hlookup := lookup_get (lookup_after (lookup_get_self ha) hbetween) other
    have hnumbered := ((h.get format).after between).get other
    exact ⟨hnumbered.format_eq hlookup (lookup_get_self hb) hserial, hbetween⟩
  · rintro ⟨rfl, hbetween⟩
    rw [Except.ok.inj ((get_after_get ha hbetween).symm.trans hb)]

/-! ## Formats that have been obtained -/

/-- A permalink for the format has been handed out since the cache was last rebuilt. -/
def Obtained (calls : List Call) (format : String) : Prop :=
  ∃ before call since shared, calls = before ++ call :: since ∧ .rebuild ∉ since ∧
    call.format? = some format ∧ (empty.after before).answer? call = some (.ok shared)

/-- What has been obtained since the rebuild is still so after a call that is no rebuild. -/
theorem Obtained.concat (h : Obtained calls format) (hcall : call ≠ .rebuild) :
    Obtained (calls ++ [call]) format := by
  obtain ⟨before, earlier, since, shared, rfl, hsince, hformat, hanswer⟩ := h
  refine ⟨before, earlier, since ++ [call], shared, by simp, ?_, hformat, hanswer⟩
  rw [List.mem_append, List.mem_singleton]
  rintro (hmem | hmem)
  · exact hsince hmem
  · exact hcall hmem.symm

/-- A format that has been obtained since the last rebuild is held. -/
theorem mem_formats_after_of_obtained (h : Obtained calls format) :
    format ∈ (empty.after calls).formats := by
  obtain ⟨before, call, since, shared, rfl, hsince, hformat, hanswer⟩ := h
  rw [answer?_of_format? hformat] at hanswer
  have hlookup := lookup_get_self (Option.some.inj hanswer)
  rw [after_append, after_cons, perform_of_format? hformat]
  exact mem_formats_of_lookup (lookup_after hlookup hsince)

/-- An entry that was not there before is for the format that is asked for. -/
theorem mem_formats_get (h : format ∈ (cache.get other).2.formats) :
    format ∈ cache.formats ∨ format = other ∧ ∃ shared, (cache.get other).1 = .ok shared := by
  obtain ⟨_, -, hget⟩ | ⟨permalink, -, -, hget⟩ | ⟨_, -, -, hget⟩ := cache.get_cases other
  · rw [hget] at h
    exact .inl h
  · rw [hget] at h ⊢
    rcases List.mem_cons.1 h with hnew | hold
    · exact .inr ⟨hnew, _, rfl⟩
    · exact .inl hold
  · rw [hget] at h
    exact .inl h

/-- There is an entry for exactly those formats that have been obtained. -/
theorem mem_formats_after_iff :
    format ∈ (empty.after calls).formats ↔ Obtained calls format := by
  refine ⟨?_, mem_formats_after_of_obtained⟩
  intro h
  induction calls using List.reverseRecOn with
  | nil => exact absurd h (by simp [after, empty, formats])
  | append_singleton calls call ih =>
    rw [after_concat] at h
    cases hformat : call.format? with
    | none =>
      -- only rebuilding asks for no format, and it leaves no entry
      cases call with
      | rebuild => exact absurd h (by simp [perform, rebuild, formats])
      | _ => exact absurd hformat (by simp [Call.format?])
    | some asked =>
      have hcall : call ≠ .rebuild := by
        rintro rfl
        exact absurd hformat (by simp [Call.format?])
      rw [perform_of_format? hformat] at h
      rcases mem_formats_get h with hold | ⟨rfl, shared, hget⟩
      · exact (ih hold).concat hcall
      · refine ⟨calls, call, [], shared, rfl, by simp, hformat, ?_⟩
        rw [answer?_of_format? hformat, hget]

/-- Whatever a cache has been asked for, two calls that were given permalinks were given the same
instance exactly if they asked for the same format, by name or as the default one, and the cache was
not rebuilt in between. A call that fails leaves the cache as it is and fails at any later time. The
cache is as large as there are formats that have been obtained since it was last rebuilt. -/
theorem after_empty_shares_instances (calls : List Call) :
    let cache := empty.after calls
    (∀ before first between, calls = before ++ first :: between → ∀ second a b,
      (empty.after before).answer? first = some (.ok a) → cache.answer? second = some (.ok b) →
        (a.serial = b.serial ↔ first.format? = second.format? ∧ .rebuild ∉ between) ∧
          (a.serial = b.serial → a = b)) ∧
    (∀ call e, cache.answer? call = some (.error e) → cache.perform call = cache ∧
      ∀ later, (cache.after later).answer? call = some (.error e)) ∧
    ∃ formats : List String, formats.Nodup ∧ cache.size = formats.length ∧
      ∀ format, format ∈ formats ↔ Obtained calls format := by
  intro cache
  refine ⟨?_, ?_, ?_⟩
  · rintro before first between rfl second a b ha hb
    obtain ⟨format, hfirst, ha⟩ := exists_format_of_answer? ha
    obtain ⟨other, hsecond, hb⟩ := exists_format_of_answer? hb
    -- the second instance comes from the cache that the first call has left
    have hcache : cache = ((empty.after before).get format).2.after between := by
      show empty.after (before ++ first :: between) = _
      rw [after_append, after_cons, perform_of_format? hfirst]
    rw [hcache] at hb
    have hiff := serial_eq_iff (isNumbered_empty.after before) ha hb
    rw [hfirst, hsecond, Option.some_inj]
    refine ⟨hiff, fun hserial => ?_⟩
    obtain ⟨rfl, hbetween⟩ := hiff.1 hserial
    exact Except.ok.inj ((get_after_get ha hbetween).symm.trans hb)
  · intro call e hanswer
    obtain ⟨format, hformat, herror⟩ := exists_format_of_answer? hanswer
    have hsound : cache.IsSound := isSound_empty.after calls
    refine ⟨?_, fun later => ?_⟩
    · rw [perform_of_format? hformat, get_snd_of_error herror]
    · rw [answer?_of_format? hformat,
        (hsound.after later).get_eq_error_iff.2 (hsound.get_eq_error_iff.1 herror)]
  · exact ⟨cache.formats, (isNumbered_empty.after calls).nodup_formats, (List.length_map _).symm,
      fun format => mem_formats_after_iff⟩

/-- The default format has one instance under either name, and another one once the cache has been
rebuilt. A format without a title is refused again and again. -/
theorem after_empty_shares_instances_default :
    let calls : List Call :=
      [.get Template.defaultFormat, .rebuild, .get Template.defaultFormat, .get "/%year%/"]
    let cache := empty.after calls
    ∃ old new legacy, empty.answer? (.get Template.defaultFormat) = some (.ok old) ∧
      (empty.after (calls.take 2)).answer? (.get Template.defaultFormat) = some (.ok new) ∧
      cache.answer? .legacy = some (.ok legacy) ∧ old.serial ≠ legacy.serial ∧ new = legacy ∧
      cache.answer? (.get "/%year%/") = some (.error .missingTitle) ∧
      (cache.perform (.get "/%year%/") = cache ∧
        ∀ later, (cache.after later).answer? (.get "/%year%/") = some (.error .missingTitle)) ∧
      cache.size = 1 := by
  intro calls cache
  let permalink : Permalink := ⟨Template.defaultFormat, [.placeholder .year, .literal "/",
    .placeholder .month, .literal "/", .placeholder .day, .literal "/", .placeholder .title]⟩
  have hold : empty.answer? (.get Template.defaultFormat) = some (.ok ⟨0, permalink⟩) := by
    decide +kernel
  have hnew : (empty.after (calls.take 2)).answer? (.get Template.defaultFormat)
      = some (.ok ⟨1, permalink⟩) := by
    decide +kernel
  have hlegacy : cache.answer? .legacy = some (.ok ⟨1, permalink⟩) := by decide +kernel
  have hrefused : cache.answer? (.get "/%year%/") = some (.error .missingTitle) := by
    decide +kernel
  obtain ⟨hshares, hfails, -⟩ := after_empty_shares_instances calls
  have hrebuilt := (hshares [] _ _ rfl .legacy _ _ hold hlegacy).1
  have hsame := hshares (calls.take 2) _ _ rfl .legacy _ _ hnew hlegacy
  exact ⟨_, _, _, hold, hnew, hlegacy, fun h => (hrebuilt.1 h).2 (by simp),
    hsame.2 (hsame.1.2 ⟨rfl, by simp⟩), hrefused, hfails _ _ hrefused, by decide +kernel⟩

end BlogRouting.PermalinkCache
