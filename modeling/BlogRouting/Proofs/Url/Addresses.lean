import BlogRouting.Link
import BlogRouting.Proofs.Text.SingleSlashes
import BlogRouting.Proofs.Url.WebPath
import BlogRouting.Text.Leading
import Mathlib.Data.List.TakeWhile

/-!
# Addresses that lead back

A path that is made absolute and then requested is matched as what it was (`normalize_absolute`).
The base URL ends in its root path (`exists_root`); joining escapes the path behind it and changes
nothing else (`text_absolute`), and a request drops the root path and reads the escapes.
-/

namespace BlogRouting

/-- A character that a URL does not read as something else: no part of an escape, no backslash, no
space and no control character. -/
def IsOrdinary (c : Char) : Prop :=
  c ≠ '%' ∧ c ≠ '\\' ∧ c ≠ ' ' ∧ 0x20 ≤ c.toNat ∧ c.toNat ≠ 0x7F

/-- A path from the root of a site that a URL can hold: its slashes are in order, no segment is
dots, and all its characters are ordinary. -/
structure IsRelative (path : List Char) : Prop where
  single : Slashes.AreSingle path
  head_ne : path.head? ≠ some '/'
  ordinary : ∀ c ∈ path, IsOrdinary c
  no_dots : ∀ piece ∈ path.splitOn '/', piece ≠ ['.'] ∧ piece ≠ ['.', '.']

namespace Url

/-! ## Plain paths -/

/-- Only what is not small changes when it is written small. -/
theorem eq_of_toLower_eq {c d : Char} (h : c.toLower = d) (hd : d.isLower = false) : c = d := by
  unfold Char.toLower at h
  split at h
  · rename_i hupper
    subst h
    obtain ⟨hlow, hhigh⟩ := hupper
    -- the small letter would be one
    replace hd : (decide ('a'.val ≤ c.val + ('a'.val - 'A'.val)) &&
        decide (c.val + ('a'.val - 'A'.val) ≤ 'z'.val)) = false := hd
    simp only [ge_iff_le, Bool.and_eq_false_iff, decide_eq_false_iff_not,
      UInt32.le_iff_toNat_le, UInt32.toNat_add] at hd hlow hhigh
    simp only [Char.reduceVal, UInt32.reduceToNat, UInt32.reduceSub] at hd hlow hhigh
    omega
  · exact h

/-- Without escapes only dots are read as dots. -/
theorem not_mem_dotWords {piece : List Char} (hescape : '%' ∉ piece)
    (hdots : piece ≠ ['.'] ∧ piece ≠ ['.', '.']) : piece.map Char.toLower ∉ dotWords := by
  intro h
  have hescape' : '%' ∉ piece.map Char.toLower := by
    intro hmem
    obtain ⟨c, hc, hlower⟩ := List.mem_map.1 hmem
    exact hescape (eq_of_toLower_eq hlower (by decide) ▸ hc)
  -- without an escape, the dots are plain
  have hword : piece.map Char.toLower = ['.'] ∨ piece.map Char.toLower = ['.', '.'] := by
    have hwords : ∀ word ∈ dotWords, '%' ∉ word → word = ['.'] ∨ word = ['.', '.'] := by decide
    exact hwords _ h hescape'
  have hdot {c : Char} (hc : c.toLower = '.') : c = '.' := eq_of_toLower_eq hc (by decide)
  rcases hword with hword | hword
  · obtain ⟨a, rest, rfl, ha, hrest⟩ := List.map_eq_cons_iff.1 hword
    cases List.map_eq_nil_iff.1 hrest
    exact hdots.1 (by rw [hdot ha])
  · obtain ⟨a, rest, rfl, ha, hrest⟩ := List.map_eq_cons_iff.1 hword
    obtain ⟨b, rest, rfl, hb, hrest⟩ := List.map_eq_cons_iff.1 hrest
    cases List.map_eq_nil_iff.1 hrest
    exact hdots.2 (by rw [hdot ha, hdot hb])

/-- A URL reads such a path as it stands. -/
theorem isPlain_of_isRelative {path : List Char} (h : IsRelative path) : IsPlain path := by
  refine ⟨fun c hc => ?_, fun piece hpiece => ?_⟩
  · obtain ⟨-, hbackslash, -, hcontrol, -⟩ := h.ordinary c hc
    refine ⟨?_, hbackslash⟩
    by_contra hignored
    simp only [isIgnored, Bool.not_eq_false, Bool.or_eq_true, decide_eq_true_eq] at hignored
    rcases hignored with (rfl | rfl) | rfl <;> exact absurd hcontrol (by decide)
  · have hescape : '%' ∉ piece := fun hc => (h.ordinary _ (mem_of_mem_splitOn hpiece hc).1).1 rfl
    have hword := not_mem_dotWords hescape (h.no_dots piece hpiece)
    simp only [dotWords, List.map_cons, List.map_nil, List.mem_cons, not_or] at hword
    simp only [isDot, isDoubleDot, decide_eq_false_iff_not, List.map_cons, List.map_nil,
      List.mem_cons, not_or]
    tauto

/-- Two texts with a slash between them read as they stand if both do. -/
theorem isPlain_append_slash {a b : List Char} :
    IsPlain (a ++ '/' :: b) ↔ IsPlain a ∧ IsPlain b := by
  have hslash : isIgnored '/' = false ∧ '/' ≠ '\\' := by decide
  refine ⟨?_, ?_⟩
  · intro h
    obtain ⟨hkept, hdots⟩ := h
    rw [List.splitOn_append_cons_self] at hdots
    exact ⟨⟨fun c hc => hkept c (by simp [hc]), fun p hp => hdots p (by simp [hp])⟩,
      ⟨fun c hc => hkept c (by simp [hc]), fun p hp => hdots p (by simp [hp])⟩⟩
  · intro h
    obtain ⟨ha, hb⟩ := h
    refine ⟨fun c hc => ?_, fun piece hpiece => ?_⟩
    · rcases List.mem_append.1 hc with hc | hc
      · exact ha.kept c hc
      · rcases List.mem_cons.1 hc with rfl | hc
        · exact hslash
        · exact hb.kept c hc
    · rw [List.splitOn_append_cons_self, List.mem_append] at hpiece
      exact hpiece.elim (ha.no_dots piece) (hb.no_dots piece)

/-! ## Slashes of spelled paths -/

theorem not_mem_encodeChar {c : Char} (h : escapedInPath c = true) :
    '/' ∉ Percent.encodeChar escapedInPath c := by
  intro hmem
  unfold Percent.encodeChar at hmem
  rw [if_pos h] at hmem
  obtain ⟨b, -, hb⟩ := List.mem_flatMap.1 hmem
  exact (escapedInPath_encodeByte hb).2.2 rfl

theorem spelled_cons (c : Char) (path : List Char) :
    spelled (c :: path) = Percent.encodeChar escapedInPath c ++ spelled path :=
  List.flatMap_cons

theorem encodeChar_ne_nil (escaped : Char → Bool) (c : Char) :
    Percent.encodeChar escaped c ≠ [] := by
  unfold Percent.encodeChar
  split
  · obtain ⟨b, bytes, hbytes⟩ := List.exists_cons_of_ne_nil (String.utf8EncodeChar_ne_nil (c := c))
    simp [hbytes, Percent.encodeByte]
  · simp

/-- A path is spelled with a slash in front only if it has one there. -/
theorem head?_spelled {path : List Char} (h : path.head? ≠ some '/') :
    (spelled path).head? ≠ some '/' := by
  cases path with
  | nil => exact h
  | cons c path =>
    rw [spelled_cons, List.head?_append_of_ne_nil _ (encodeChar_ne_nil _ c)]
    by_cases hc : escapedInPath c = true
    · exact fun hhead => not_mem_encodeChar hc (List.mem_of_head? hhead)
    · simpa [Percent.encodeChar, hc] using h

/-- Spelling a path puts no slashes together. -/
theorem areSingle_spelled {path : List Char} (h : Slashes.AreSingle path) :
    Slashes.AreSingle (spelled path) := by
  induction path with
  | nil => exact h
  | cons c path ih =>
    obtain ⟨hc, hpath⟩ := Slashes.areSingle_cons.1 h
    by_cases hescaped : escapedInPath c = true
    · rw [spelled_cons, Slashes.areSingle_append]
      have hslash := not_mem_encodeChar hescaped
      exact ⟨Slashes.areSingle_of_not_mem hslash, ih hpath,
        fun hends => hslash (List.mem_of_getLast? hends.1)⟩
    · rw [spelled_cons_of_not_escaped (by simpa using hescaped), Slashes.areSingle_cons]
      refine ⟨fun hslashes => hc ⟨hslashes.1, ?_⟩, ih hpath⟩
      by_contra hhead
      exact head?_spelled hhead hslashes.2

/-! ## Root paths -/

/-- What joining puts in front of a path. -/
def under (root : List Char) : List Char :=
  if root = [] then [] else root ++ ['/']

/-- A path with single slashes is its root path, maybe with a slash behind. -/
theorem exists_trim {path : List Char} (h : Slashes.AreSingle ('/' :: path)) :
    ∃ root, Slashes.trim ('/' :: path) = root ∧ root.head? ≠ some '/' ∧
      root.getLast? ≠ some '/' ∧ (path = root ∨ root ≠ [] ∧ path = root ++ ['/']) := by
  obtain ⟨hhead, hpath⟩ := Slashes.areSingle_cons.1 h
  replace hhead : path.head? ≠ some '/' := fun hslash => hhead ⟨rfl, hslash⟩
  have htrim : Slashes.trimLeading ('/' :: path) = path := by
    rw [Slashes.trimLeading_slash, Slashes.trimLeading_eq_self hhead]
  unfold Slashes.trim
  rw [htrim]
  -- no more than one slash is at the end
  by_cases hlast : path.getLast? = some '/'
  · obtain ⟨root, rfl⟩ := List.getLast?_eq_some_iff.1 hlast
    have hne : root ≠ [] := by
      rintro rfl
      exact hhead rfl
    have hlast' : root.getLast? ≠ some '/' := fun e =>
      (Slashes.areSingle_append.1 hpath).2.2 ⟨e, rfl⟩
    have hrev : root.reverse.head? ≠ some '/' := by rwa [List.head?_reverse]
    refine ⟨root, ?_, ?_, hlast', .inr ⟨hne, rfl⟩⟩
    · rw [List.reverse_append, List.reverse_singleton, List.singleton_append,
        Slashes.trimLeading_slash, Slashes.trimLeading_eq_self hrev, List.reverse_reverse]
    · rwa [List.head?_append_of_ne_nil _ hne] at hhead
  · have hrev : path.reverse.head? ≠ some '/' := by rwa [List.head?_reverse]
    exact ⟨path, by rw [Slashes.trimLeading_eq_self hrev, List.reverse_reverse], hhead, hlast,
      .inl rfl⟩

/-- A root path as the base URL has it: in its final spelling and without slashes at its ends. -/
structure IsRoot (root : List Char) : Prop where
  head_ne : root.head? ≠ some '/'
  plain : IsPlain root
  spelled : ∀ c ∈ root, escapedInPath c = false
  single : Slashes.AreSingle ('/' :: under root)

/-- Nothing of what joining puts in front has to be escaped. -/
theorem IsRoot.spelled_under {root : List Char} (h : IsRoot root) {c : Char} (hc : c ∈ under root) :
    escapedInPath c = false := by
  unfold under at hc
  split at hc
  · exact absurd hc (by simp)
  · rcases List.mem_append.1 hc with hc | hc
    · exact h.spelled c hc
    · rw [List.mem_singleton.1 hc]
      decide

/-- A base URL ends in its root path, and joining puts a slash behind it if there is none. -/
theorem IsBase.exists_root {base : Url} (h : base.IsBase) :
    IsRoot base.rootPath.toList ∧
      base.path.text.toList ++ (if base.path.text.toList.getLast? = some '/' then [] else ['/'])
        = '/' :: under base.rootPath.toList := by
  obtain ⟨pathText, hpath⟩ := h.made.exists_path h.web
  obtain ⟨path, htext, hplain, hspelled⟩ :=
    exists_isPlain_text_segmentsOf h.web.isSpecial h.web.ne_file pathText
  rw [← hpath] at htext
  have hsingle := Slashes.areSingle_iff.2 h.single
  rw [htext] at hsingle
  obtain ⟨root, htrim, hhead, hlast, hroot⟩ := exists_trim hsingle
  unfold rootPath
  rw [String.toList_ofList, htext, htrim]
  rcases hroot with rfl | ⟨hne, rfl⟩
  · -- nothing behind the root path
    by_cases hnil : path = []
    · subst hnil
      exact ⟨⟨hhead, hplain, hspelled, hsingle⟩, rfl⟩
    · have hlast' : ('/' :: path).getLast? = path.getLast? :=
        List.getLast?_append_of_ne_nil ['/'] hnil
      rw [hlast', if_neg hlast, under, if_neg hnil]
      refine ⟨⟨hhead, hplain, hspelled, ?_⟩, rfl⟩
      unfold under
      rw [if_neg hnil, ← List.cons_append, Slashes.areSingle_append]
      exact ⟨hsingle, Slashes.areSingle_cons.2 ⟨by simp, .nil⟩,
        fun hends => hlast (hlast' ▸ hends.1)⟩
  · -- a slash behind the root path
    have hlast' : ('/' :: (root ++ ['/'])).getLast? = some '/' :=
      List.getLast?_eq_some_iff.2 ⟨'/' :: root, rfl⟩
    rw [hlast', if_pos rfl, List.append_nil, under, if_neg hne]
    have hplain' := (isPlain_append_slash.1 hplain).1
    refine ⟨⟨hhead, hplain', fun c hc => hspelled c (by simp [hc]), ?_⟩, rfl⟩
    rwa [under, if_neg hne]

variable {base : Url} {path : String}

/-- Joining reads the path anew and drops the query and the fragment. -/
theorem IsBase.absolute_eq (h : base.IsBase) (hpath : IsRelative path.toList) :
    absolute base path = { base with
      path := .segments
        (segmentsOf base.scheme ('/' :: (under base.rootPath.toList ++ path.toList)))
      query := none
      fragment := none } := by
  obtain ⟨pathText, hsegments⟩ := h.made.exists_path h.web
  have hjoin := h.exists_root.2
  simp only [absolute, Slashes.trimLeading_eq_self hpath.head_ne]
  rw [hjoin, withPath, hsegments, Path.replace, withQuery, trimPlainPath_of_segments rfl,
    withFragment, trimPlainPath_of_segments rfl]
  simp

/-- The path of a joined URL is the root path, a slash and the path as it is spelled. -/
theorem IsBase.text_path_absolute (h : base.IsBase) (hpath : IsRelative path.toList) :
    (absolute base path).path.text.toList
      = '/' :: under base.rootPath.toList ++ spelled path.toList := by
  have hroot := h.exists_root.1
  have hplain : IsPlain (under base.rootPath.toList ++ path.toList) := by
    unfold under
    split
    · exact isPlain_of_isRelative hpath
    · rw [List.append_assoc]
      exact isPlain_append_slash.2 ⟨hroot.plain, isPlain_of_isRelative hpath⟩
  have hspelled : spelled (under base.rootPath.toList) = under base.rootPath.toList :=
    spelled_eq_self fun c hc => hroot.spelled_under hc
  rw [h.absolute_eq hpath, text_segmentsOf h.web.isSpecial h.web.ne_file hplain, spelled_append,
    hspelled]
  rfl

/-- What stands in front of the path of a URL. -/
def origin (url : Url) : String :=
  url.scheme ++ ":" ++ url.front.text

/-- The address of a path of the site is the path of the URL behind the site's origin. -/
theorem IsBase.text_absolute (h : base.IsBase) (hpath : IsRelative path.toList) :
    (absolute base path).text = base.origin ++ (absolute base path).path.text := by
  simp [h.absolute_eq hpath, text, origin]

end Url

/-! ## Requests -/

section Requests

open Url

/-- A path without characters to escape has no query and no fragment to cut off. -/
theorem pathOnly_eq_self {path : List Char} (h : ∀ c ∈ path, escapedInPath c = false) :
    pathOnly path = path := by
  refine List.takeWhile_eq_self_iff.2 fun c hc => ?_
  by_contra hend
  simp only [Bool.and_eq_true, decide_eq_true_eq, not_and_or, not_not] at hend
  have := h c hc
  rcases hend with rfl | rfl <;> exact absurd this (by decide)

/-- A path is beneath a root exactly if it is the root or goes on with a slash behind it. -/
theorem beneath?_eq_some_iff {root path rest : List Char} :
    beneath? root path = some rest ↔
      root ≠ [] ∧ (path = root ∧ rest = [] ∨ path = root ++ '/' :: rest) := by
  unfold beneath?
  refine ⟨?_, ?_⟩
  · intro h
    split_ifs at h with hroot
    refine ⟨hroot, ?_⟩
    split at h
    · rename_i hbehind
      cases h
      exact .inl ⟨by simpa using isPrefixOf?_eq_some_iff.1 hbehind, rfl⟩
    · rename_i hbehind
      cases h
      exact .inr (isPrefixOf?_eq_some_iff.1 hbehind)
    · exact absurd h (by simp)
  · rintro ⟨hroot, ⟨rfl, rfl⟩ | rfl⟩
    · have hbehind : path.isPrefixOf? path = some [] :=
        isPrefixOf?_eq_some_iff.2 (List.append_nil path).symm
      simp [hroot, hbehind]
    · have hbehind : root.isPrefixOf? (root ++ '/' :: rest) = some ('/' :: rest) :=
        isPrefixOf?_eq_some_iff.2 rfl
      simp [hroot, hbehind]

/-- Nothing counts as beneath the root of a site that has no root path. -/
theorem beneath?_nil (path : List Char) : beneath? [] path = none :=
  if_pos rfl

/-- What joining puts in front is taken off again. -/
theorem beneath?_under (root path : List Char) :
    (beneath? root (under root ++ path)).getD (under root ++ path) = path := by
  by_cases hroot : root = []
  · rw [hroot, beneath?_nil]
    rfl
  · have hpath : under root ++ path = root ++ '/' :: path := by simp [under, hroot]
    rw [beneath?_eq_some_iff.2 ⟨hroot, .inr hpath⟩, Option.getD_some]

/-- The path of a URL is requested as it is spelled. -/
theorem trimLeading_collapse_spelled {path : List Char} (h : Slashes.AreSingle ('/' :: path)) :
    Slashes.trimLeading (Slashes.collapse (pathOnly ('/' :: spelled path))) = spelled path := by
  have hhead : path.head? ≠ some '/' := fun hslash =>
    (Slashes.areSingle_cons.1 h).1 ⟨rfl, hslash⟩
  have hspelled : '/' :: spelled path = spelled ('/' :: path) :=
    (spelled_cons_of_not_escaped (by decide) path).symm
  rw [hspelled, pathOnly_eq_self fun c => escapedInPath_of_mem_spelled,
    Slashes.collapse_eq_self (areSingle_spelled h), ← hspelled, Slashes.trimLeading_slash,
    Slashes.trimLeading_eq_self (head?_spelled hhead)]

/-- Reading the path of a joined URL gives the path that was joined. -/
theorem normalize_absolute {base : Url} {path : String} (h : base.IsBase)
    (hpath : IsRelative path.toList) :
    normalize (absolute base path).path.text base = path := by
  have hroot := h.exists_root.1
  have hspelled : under base.rootPath.toList ++ spelled path.toList
      = spelled (under base.rootPath.toList ++ path.toList) := by
    rw [spelled_append, spelled_eq_self fun c => hroot.spelled_under]
  -- the URL's path ends in a slash before the joined path begins, and that begins with none
  have hsingle : Slashes.AreSingle ('/' :: (under base.rootPath.toList ++ path.toList)) := by
    rw [← List.cons_append, Slashes.areSingle_append]
    exact ⟨hroot.single, hpath.single, fun hends => hpath.head_ne hends.2⟩
  rw [normalize, normalizeUnder, h.text_path_absolute hpath, List.cons_append, hspelled,
    trimLeading_collapse_spelled hsingle, ← hspelled, beneath?_under,
    Percent.decodeOnce_encode _ fun hc => (hpath.ordinary _ hc).1 rfl, String.ofList_toList]

end Requests

end BlogRouting
