import BlogRouting.Proofs.Redirect.ShortCodes
import BlogRouting.Proofs.Template.Accepted
import BlogRouting.Redirect.Reading
import Mathlib.Data.List.Forall2
import Mathlib.Data.List.Nodup
import Mathlib.Order.Bounds.Basic

/-!
# Redirect tables

A table keeps one redirect from each path. An insertion either finds the path taken and leaves the
table alone, or puts the redirect behind the others (`insert_eq_error_iff`, `insert_eq_ok_iff`),
under a path that none of them has (`fromPath_settle_not_mem`). So every table that insertions lead
to is sound (`IsSound.after`), and a path that is found in it leads to one redirect only
(`get?_eq_some_iff`).
-/

namespace BlogRouting.RedirectTable

/-- The paths that the redirects of the table come from. -/
def paths (table : RedirectTable) : List String :=
  table.records.map (·.fromPath)

/-- The form in which the table keeps the redirect. -/
def settle (table : RedirectTable) (redirect : Redirect) : Redirect :=
  { redirect with
    fromPath :=
      if storedPath redirect.fromPath = "" then table.nextShortCode
      else storedPath redirect.fromPath }

@[simp] theorem toPath_settle (table : RedirectTable) (redirect : Redirect) :
    (table.settle redirect).toPath = redirect.toPath := by
  unfold settle
  rfl

/-- The redirect has a path, and it is taken. -/
def IsTaken (table : RedirectTable) (redirect : Redirect) : Prop :=
  storedPath redirect.fromPath ≠ "" ∧ storedPath redirect.fromPath ∈ table.paths

variable {table next : RedirectTable} {redirect stored : Redirect} {calls : List Redirect}
  {path : String} {e : DuplicateFromPath}

/-! ## One insertion -/

theorem isSome_get?_iff : (table.get? path).isSome ↔ path ∈ table.paths := by
  simp [get?, paths]

/-- A second redirect of a path is refused, and the error names the path. -/
theorem insert_of_isTaken (h : table.IsTaken redirect) :
    table.insert redirect = .error ⟨storedPath redirect.fromPath⟩ := by
  have hfound : storedPath redirect.fromPath ≠ "" ∧
      (table.get? (storedPath redirect.fromPath)).isSome := ⟨h.1, isSome_get?_iff.2 h.2⟩
  unfold insert
  dsimp only
  rw [if_pos hfound]

/-- Every other redirect is put behind those that are there. -/
theorem insert_of_not_isTaken (h : ¬ table.IsTaken redirect) :
    table.insert redirect =
      .ok (table.settle redirect, ⟨table.records ++ [table.settle redirect]⟩) := by
  have hfound : ¬ (storedPath redirect.fromPath ≠ "" ∧
      (table.get? (storedPath redirect.fromPath)).isSome) :=
    fun hboth => h ⟨hboth.1, isSome_get?_iff.1 hboth.2⟩
  unfold insert
  dsimp only
  rw [if_neg hfound]
  rfl

/-- An insertion fails for no other reason than a path that is taken. -/
theorem insert_eq_error_iff :
    table.insert redirect = .error e ↔
      table.IsTaken redirect ∧ e = ⟨storedPath redirect.fromPath⟩ := by
  by_cases h : table.IsTaken redirect
  · simp [insert_of_isTaken h, h, eq_comm]
  · simp [insert_of_not_isTaken h, h]

/-- An insertion that succeeds puts the redirect, as it is stored, behind the others. -/
theorem insert_eq_ok_iff :
    table.insert redirect = .ok (stored, next) ↔
      ¬ table.IsTaken redirect ∧ stored = table.settle redirect ∧
        next = ⟨table.records ++ [table.settle redirect]⟩ := by
  by_cases h : table.IsTaken redirect
  · simp [insert_of_isTaken h, h]
  · simp [insert_of_not_isTaken h, h, eq_comm]

/-- A path that is made up is the code of a number beyond the size of the table. -/
theorem exists_nextShortCode (table : RedirectTable) :
    ∃ n, table.size < n ∧ table.nextShortCode = ShortCode.render n ∧
      table.nextShortCode ∉ table.paths := by
  obtain ⟨n, hn, hcode, hunused, -⟩ := ShortCode.exists_firstUnused table.paths (table.size + 1)
  refine ⟨n, hn, hcode, ?_⟩
  rw [nextShortCode, ← paths, hcode]
  exact hunused

/-- The path that is made up is the code of the least number beyond the size of the table whose code
is no path of the table yet. Trying one number after another finds it, and does so after one try
more than there are redirects, or sooner. -/
theorem nextShortCode_isLeast (table : RedirectTable) :
    ∃ n, table.nextShortCode = ShortCode.render n ∧
      IsLeast {m | table.size + 1 ≤ m ∧ ShortCode.render m ∉ table.paths} n ∧
      n ≤ 2 * table.size + 1 ∧
      ∃ tries ≤ table.size + 1, ∀ count code,
        ShortCode.EndsAfter table.paths (table.size + 1) count code ↔
          count = tries ∧ code = table.nextShortCode := by
  obtain ⟨n, hn, hcode, hunused, hbelow⟩ :=
    ShortCode.exists_firstUnused table.paths (table.size + 1)
  replace hcode : table.nextShortCode = ShortCode.render n := hcode
  have hbound : n ≤ table.size + 1 + table.size := by
    have hlength : table.paths.length = table.size := List.length_map _
    have hle := ShortCode.le_add_length_of_used hbelow
    rwa [hlength] at hle
  have hends := ShortCode.endsAfter_of_unused hn hunused hbelow
  refine ⟨n, hcode, ⟨⟨hn, hunused⟩, fun m hm => ?_⟩, by omega, n + 1 - (table.size + 1), by omega,
    fun count code => ⟨fun h => ?_, ?_⟩⟩
  · -- a smaller number beyond the size of the table would have a used code
    by_contra hlt
    exact hm.2 (hbelow m hm.1 (Nat.lt_of_not_le hlt))
  · rw [hcode]
    exact h.unique hends
  · rintro ⟨rfl, rfl⟩
    rwa [hcode]

theorem nextShortCode_ne_empty (table : RedirectTable) : table.nextShortCode ≠ "" := by
  obtain ⟨n, -, hcode, -⟩ := table.exists_nextShortCode
  rw [hcode]
  exact ShortCode.render_ne_empty n

/-- A redirect with a path is stored under the path that requests for it are matched as. -/
theorem fromPath_settle_of_ne_empty (h : storedPath redirect.fromPath ≠ "") :
    (table.settle redirect).fromPath = storedPath redirect.fromPath := by
  simp only [settle, if_neg h]

/-- A redirect without a path is stored under the next code. -/
theorem fromPath_settle_of_eq_empty (h : storedPath redirect.fromPath = "") :
    (table.settle redirect).fromPath = table.nextShortCode := by
  simp only [settle, if_pos h]

/-- What can be inserted is stored under a path that no other redirect has. -/
theorem fromPath_settle_not_mem (h : ¬ table.IsTaken redirect) :
    (table.settle redirect).fromPath ∉ table.paths := by
  by_cases hpath : storedPath redirect.fromPath = ""
  · obtain ⟨n, -, -, hunused⟩ := table.exists_nextShortCode
    rwa [fromPath_settle_of_eq_empty hpath]
  · rw [fromPath_settle_of_ne_empty hpath]
    exact fun hmem => h ⟨hpath, hmem⟩

theorem fromPath_settle_ne_empty (table : RedirectTable) (redirect : Redirect) :
    (table.settle redirect).fromPath ≠ "" := by
  by_cases hpath : storedPath redirect.fromPath = ""
  · rw [fromPath_settle_of_eq_empty hpath]
    exact table.nextShortCode_ne_empty
  · rwa [fromPath_settle_of_ne_empty hpath]

/-! ## Runs of insertions -/

/-- The table after an insertion, which may have failed. -/
def perform (table : RedirectTable) (redirect : Redirect) : RedirectTable :=
  match table.insert redirect with
  | .ok (_, next) => next
  | .error _ => table

/-- The table after some insertions, one after another. -/
def after (table : RedirectTable) (calls : List Redirect) : RedirectTable :=
  calls.foldl perform table

/-- What the insertions give, one after another. -/
def answers (table : RedirectTable) : List Redirect → List (Except DuplicateFromPath Redirect)
  | [] => []
  | redirect :: rest =>
    (table.insert redirect).map (·.1) :: (table.perform redirect).answers rest

/-- Every redirect has a path, and no two have the same one. -/
structure IsSound (table : RedirectTable) : Prop where
  ne_empty : "" ∉ table.paths
  nodup : table.paths.Nodup

theorem after_cons (table : RedirectTable) (redirect : Redirect) (rest : List Redirect) :
    table.after (redirect :: rest) = (table.perform redirect).after rest :=
  List.foldl_cons ..

/-- A run of calls goes on from where the calls in front have led. -/
theorem after_append (table : RedirectTable) (before behind : List Redirect) :
    table.after (before ++ behind) = (table.after before).after behind :=
  List.foldl_append

theorem perform_of_isTaken (h : table.IsTaken redirect) : table.perform redirect = table := by
  unfold perform
  rw [insert_of_isTaken h]

theorem perform_of_not_isTaken (h : ¬ table.IsTaken redirect) :
    table.perform redirect = ⟨table.records ++ [table.settle redirect]⟩ := by
  unfold perform
  rw [insert_of_not_isTaken h]

theorem isSound_empty : empty.IsSound :=
  ⟨by simp [empty, paths], List.nodup_nil⟩

/-- A call keeps paths apart and leaves none empty. -/
theorem IsSound.perform (h : table.IsSound) (redirect : Redirect) :
    (table.perform redirect).IsSound := by
  by_cases htaken : table.IsTaken redirect
  · rwa [perform_of_isTaken htaken]
  · -- one path more, which is not empty and differs from the others
    have hpaths : (table.perform redirect).paths
        = table.paths ++ [(table.settle redirect).fromPath] := by
      simp [paths, perform_of_not_isTaken htaken]
    refine ⟨?_, ?_⟩
    · rw [hpaths, List.mem_append, List.mem_singleton]
      rintro (hempty | hempty)
      · exact h.ne_empty hempty
      · exact table.fromPath_settle_ne_empty redirect hempty.symm
    · rw [hpaths, ← List.concat_eq_append]
      exact h.nodup.concat (fromPath_settle_not_mem htaken)

theorem IsSound.after (h : table.IsSound) (calls : List Redirect) :
    (table.after calls).IsSound := by
  induction calls generalizing table with
  | nil => exact h
  | cons redirect rest ih =>
    rw [after_cons]
    exact ih (h.perform redirect)

/-- Insertions leave what is there as it is, and put what they give behind it. -/
theorem records_after (table : RedirectTable) (calls : List Redirect) :
    (table.after calls).records
      = table.records ++ (table.answers calls).filterMap Except.toOption := by
  induction calls generalizing table with
  | nil => simp [after, answers]
  | cons redirect rest ih =>
    rw [after_cons, ih, answers]
    by_cases h : table.IsTaken redirect
    · simp [perform_of_isTaken h, insert_of_isTaken h, List.filterMap_cons, Except.map,
        Except.toOption]
    · simp [perform_of_not_isTaken h, insert_of_not_isTaken h, Except.map, Except.toOption]

/-- What is in a table stays there. -/
theorem mem_records_after (h : redirect ∈ table.records) (calls : List Redirect) :
    redirect ∈ (table.after calls).records := by
  rw [records_after]
  exact List.mem_append_left _ h

/-- A redirect that is put in the table leads where it was to lead. -/
theorem forall₂_answers (table : RedirectTable) (calls : List Redirect) :
    List.Forall₂ (fun call answer => ∀ stored, answer = .ok stored → stored.toPath = call.toPath)
      calls (table.answers calls) := by
  induction calls generalizing table with
  | nil => exact .nil
  | cons call rest ih =>
    refine .cons ?_ (ih _)
    intro stored hstored
    by_cases h : table.IsTaken call
    · simp [insert_of_isTaken h, Except.map] at hstored
    · obtain rfl : table.settle call = stored := by
        simpa [insert_of_not_isTaken h, Except.map] using hstored
      exact table.toPath_settle call

/-- Inserting a list succeeds if no insertion fails. -/
theorem insertAll_eq_ok_iff {redirects : List Redirect} :
    table.insertAll redirects = .ok next ↔
      (∀ answer ∈ table.answers redirects, ∃ stored, answer = .ok stored) ∧
        next = table.after redirects := by
  induction redirects generalizing table with
  | nil => simp [insertAll, answers, after, eq_comm]
  | cons redirect rest ih =>
    cases hinsert : table.insert redirect with
    | error e => simp [insertAll, answers, hinsert, bind, Except.bind, Except.map]
    | ok result =>
      have hperform : table.perform redirect = result.2 := by
        unfold perform
        rw [hinsert]
      simp [insertAll, answers, after_cons, hinsert, hperform, bind, Except.bind, Except.map, ih]

/-- A file is loaded if it lists redirects of which each can be inserted, and gives the table that
these insertions make. -/
theorem ofYaml_eq_ok_iff {text : String} :
    ofYaml text = .ok next ↔ ∃ redirects, Redirect.listOfYaml? text = some redirects ∧
      (∀ answer ∈ empty.answers redirects, ∃ stored, answer = .ok stored) ∧
        next = empty.after redirects := by
  unfold ofYaml
  cases Redirect.listOfYaml? text with
  | none => simp
  | some redirects => simp [mapError_eq_ok_iff, insertAll_eq_ok_iff]

/-- In a sound table a path leads to one redirect at most. -/
theorem IsSound.get?_eq_some_iff (h : table.IsSound) :
    table.get? path = some redirect ↔ redirect ∈ table.records ∧ redirect.fromPath = path := by
  refine ⟨?_, ?_⟩
  · intro hget
    exact ⟨List.mem_of_find?_eq_some hget, of_decide_eq_true (List.find?_some hget :)⟩
  · rintro ⟨hmem, rfl⟩
    have hsome : (table.get? redirect.fromPath).isSome :=
      isSome_get?_iff.2 (List.mem_map_of_mem hmem)
    obtain ⟨found, hfound⟩ := Option.isSome_iff_exists.1 hsome
    -- whatever is found first has the same path, so it is the same redirect
    have hpath : found.fromPath = redirect.fromPath :=
      of_decide_eq_true (List.find?_some hfound :)
    rw [hfound, List.inj_on_of_nodup_map h.nodup (List.mem_of_find?_eq_some hfound) hmem hpath]

/-- What a run of insertions leaves behind: the redirects that could be inserted, in order, each
from a path of its own. One more insertion fails exactly if its path is there already, and then
changes nothing; else it adds one redirect, from its path or from a code that no other one has. A
list in a text is loaded exactly if none of its insertions fails. -/
theorem after_empty_keeps_paths_apart :
    (∀ calls : List Redirect,
      let table := empty.after calls
      ("" ∉ table.paths ∧ table.paths.Nodup) ∧
      (table.records = (empty.answers calls).filterMap Except.toOption ∧
        List.Forall₂
          (fun call answer => ∀ stored, answer = .ok stored → stored.toPath = call.toPath)
          calls (empty.answers calls)) ∧
      (∀ redirect,
        (∀ e, table.insert redirect = .error e ↔
          table.IsTaken redirect ∧ e = ⟨storedPath redirect.fromPath⟩) ∧
        (table.IsTaken redirect → table.perform redirect = table) ∧
        (¬ table.IsTaken redirect → ∃ stored,
          table.insert redirect = .ok (stored, table.perform redirect) ∧
          (table.perform redirect).records = table.records ++ [stored] ∧
          stored.toPath = redirect.toPath ∧
          (storedPath redirect.fromPath ≠ "" → stored.fromPath = storedPath redirect.fromPath) ∧
          (storedPath redirect.fromPath = "" →
            (∃ n, table.size < n ∧ stored.fromPath = ShortCode.render n) ∧
              stored.fromPath ∉ table.paths))) ∧
      ∀ path redirect,
        table.get? path = some redirect ↔ redirect ∈ table.records ∧ redirect.fromPath = path) ∧
    ∀ text table, ofYaml text = .ok table ↔
      ∃ redirects, Redirect.listOfYaml? text = some redirects ∧
        (∀ answer ∈ empty.answers redirects, ∃ stored, answer = .ok stored) ∧
        table = empty.after redirects := by
  refine ⟨?_, fun text table => ofYaml_eq_ok_iff⟩
  intro calls table
  have hsound : table.IsSound := isSound_empty.after calls
  refine ⟨⟨hsound.ne_empty, hsound.nodup⟩, ⟨records_after empty calls, empty.forall₂_answers calls⟩,
    ?_, fun path redirect => hsound.get?_eq_some_iff⟩
  intro redirect
  refine ⟨fun e => insert_eq_error_iff, perform_of_isTaken, ?_⟩
  intro h
  refine ⟨table.settle redirect, ?_, congrArg records (perform_of_not_isTaken h),
    table.toPath_settle redirect, ?_, ?_⟩
  · exact insert_eq_ok_iff.2 ⟨h, rfl, perform_of_not_isTaken h⟩
  · exact fromPath_settle_of_ne_empty
  · intro hpath
    -- without a path the code is stored, which is free since the insertion does not fail
    obtain ⟨n, hn, hcode, -⟩ := table.exists_nextShortCode
    exact ⟨⟨n, hn, (fromPath_settle_of_eq_empty hpath).trans hcode⟩, fromPath_settle_not_mem h⟩

/-- The made up path goes past the one that is taken, and a path that is spelled otherwise is the
same path. -/
theorem after_empty_keeps_paths_apart_spelled :
    let table := empty.after [⟨"2", "/taken"⟩, ⟨"/", "/a"⟩]
    table.records = [⟨"2", "/taken"⟩, ⟨"3", "/a"⟩] ∧
      table.insert ⟨" //%33?page=2", "/b"⟩ = .error ⟨"3"⟩ ∧
      table.get? "3" = some ⟨"3", "/a"⟩ := by
  intro table
  have hrecords : table.records = [⟨"2", "/taken"⟩, ⟨"3", "/a"⟩] := by decide +kernel
  have hpath : storedPath " //%33?page=2" = "3" := by decide +kernel
  obtain ⟨-, -, hinsert, hget⟩ :=
    after_empty_keeps_paths_apart.1 [⟨"2", "/taken"⟩, ⟨"/", "/a"⟩]
  have htaken : table.IsTaken ⟨" //%33?page=2", "/b"⟩ := by
    unfold IsTaken
    rw [hpath, paths, hrecords]
    decide
  refine ⟨hrecords, ((hinsert _).1 _).2 ⟨htaken, by rw [hpath]⟩, (hget _ _).2 ⟨?_, rfl⟩⟩
  rw [hrecords]
  decide

end BlogRouting.RedirectTable
