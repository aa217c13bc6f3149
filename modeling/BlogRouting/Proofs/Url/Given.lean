import BlogRouting.Proofs.Text.SingleSlashes
import BlogRouting.Proofs.Url.WebPath
import BlogRouting.Site.Config
import Mathlib.Data.List.TakeWhile

/-!
# URLs that a site is given

A site can be given any URL for its base, of whatever scheme. Reading a URL cuts off the query and
the fragment before it looks at the path, and then escapes what could begin one of them in a
segment. So no query and no fragment begins in the path (`IsGiven.isWhole_path`), and none begins in
the root path either, which is the path without the slashes at its ends.

Only a path without segments that was set to another text could hold such a sign. That is the one
way in which a URL can be made and not be given (`isGiven_iff`).
-/

namespace BlogRouting.Url

/-- No query and no fragment begins in the text. -/
def IsWhole (text : List Char) : Prop :=
  ∀ c ∈ text, c ≠ '?' ∧ c ≠ '#'

/-- A URL that a site can have for its base: one that is read from a text and then changed any
number of times. A path without segments is not set to a text in which a query or a fragment begins,
since no URL is read with such a path. -/
inductive IsGiven : Url → Prop where
  | parse {text : String} {url : Url} (h : parse text = .ok url) : IsGiven url
  | withPath {url : Url} (h : IsGiven url) {text : String}
      (hwhole : ∀ content, url.path = .plain content → IsWhole text.toList) :
      IsGiven (url.withPath text)
  | withQuery {url : Url} (h : IsGiven url) (query : Option String) : IsGiven (url.withQuery query)
  | withFragment {url : Url} (h : IsGiven url) (fragment : Option String) :
      IsGiven (url.withFragment fragment)

variable {text : List Char} {url : Url}

theorem isWhole_append {a b : List Char} : IsWhole (a ++ b) ↔ IsWhole a ∧ IsWhole b :=
  List.forall_mem_append

/-- The signs that begin a query and a fragment are escaped in a segment. -/
theorem isWhole_of_not_escaped (h : ∀ c ∈ text, escapedInPath c = false) : IsWhole text := by
  intro c hc
  have hplain := h c hc
  refine ⟨?_, ?_⟩ <;> rintro rfl <;> exact absurd hplain (by decide)

/-! ## Segments -/

/-- So no query and no fragment begins in a path of segments. -/
theorem isWhole_text_segmentsOf (scheme : String) (text : List Char) :
    IsWhole (Path.segments (segmentsOf scheme text)).text.toList := by
  rw [toList_text_segments]
  refine isWhole_of_not_escaped fun c hc => ?_
  obtain ⟨segment, hsegment, hc⟩ := List.mem_flatMap.1 hc
  rcases List.mem_cons.1 hc with rfl | hc
  · decide
  · exact ((areRead_segmentsOf scheme text).spelled segment hsegment c hc).1

/-! ## Paths without segments -/

section

variable {c : Char} (hc : c = '?' ∨ c = '#')

include hc

/-- Where it is not escaped for a segment, such a sign is not escaped at all. -/
theorem mem_encode_iff : c ∈ Percent.encode escapedAnywhere text ↔ c ∈ text := by
  refine ⟨fun h => ?_, fun h => List.mem_flatMap.2 ⟨c, h, ?_⟩⟩
  · rcases Percent.mem_encode h with ⟨hmem, -⟩ | ⟨b, hb⟩
    · exact hmem
    · have hplain := (escapedInPath_encodeByte hb).1
      rcases hc with rfl | rfl <;> exact absurd hplain (by decide)
  · rcases hc with rfl | rfl <;> simp [Percent.encodeChar, escapedAnywhere]

/-- Such a sign is not left out when a text is read. -/
theorem mem_dropIgnored_iff : c ∈ dropIgnored text ↔ c ∈ text := by
  rcases hc with rfl | rfl <;> simp [dropIgnored, isIgnored]

/-- Such a sign stays in a path without segments. -/
theorem mem_plainOf_iff : c ∈ plainOf text ↔ c ∈ text := by
  unfold plainOf
  split
  · rename_i rest
    rw [List.mem_append, List.mem_cons, mem_encode_iff hc, mem_dropIgnored_iff hc]
    rcases hc with rfl | rfl <;> simp
  · rw [mem_encode_iff hc, mem_dropIgnored_iff hc]

end

/-- Only whether the two signs occur in a text counts. -/
theorem isWhole_congr {a b : List Char} (h : ∀ c, c = '?' ∨ c = '#' → (c ∈ a ↔ c ∈ b)) :
    IsWhole a ↔ IsWhole b := by
  have hiff (text : List Char) : IsWhole text ↔ '?' ∉ text ∧ '#' ∉ text := by
    simp only [IsWhole, forall_and, List.forall_mem_ne']
  rw [hiff, hiff, h '?' (.inl rfl), h '#' (.inr rfl)]

theorem isWhole_dropIgnored_iff : IsWhole (dropIgnored text) ↔ IsWhole text :=
  isWhole_congr fun _ => mem_dropIgnored_iff

theorem isWhole_plainOf_iff : IsWhole (plainOf text) ↔ IsWhole text :=
  isWhole_congr fun _ => mem_plainOf_iff

/-- Only spaces are trimmed. -/
theorem isWhole_trimPlainPath_iff (url : Url) :
    IsWhole (trimPlainPath url).path.text.toList ↔ IsWhole url.path.text.toList := by
  unfold trimPlainPath
  split
  · rename_i content hpath _ _
    have hspaces : IsWhole (content.toList.reverse.takeWhile (· = ' ')) := by
      intro c hc
      obtain rfl : c = ' ' := by simpa using List.mem_takeWhile_imp hc
      decide
    have hsplit := isWhole_append (a := content.toList.reverse.takeWhile (· = ' '))
      (b := content.toList.reverse.dropWhile (· = ' '))
    rw [List.takeWhile_append_dropWhile, and_iff_right hspaces] at hsplit
    rw [hpath, Path.text, Path.text, String.toList_ofList]
    refine Iff.trans (isWhole_congr fun c _ => List.mem_reverse) (hsplit.symm.trans ?_)
    exact isWhole_congr fun c _ => List.mem_reverse
  · exact Iff.rfl

/-- What is in front of the fragment and of the query holds no sign of either. -/
theorem isWhole_cutAt (text : List Char) : IsWhole (cutAt '?' (cutAt '#' text).1).1 := by
  intro c hc
  have hquery : c ≠ '?' := by simpa using List.mem_takeWhile_imp hc
  have hfragment : c ≠ '#' := by
    simpa using List.mem_takeWhile_imp ((List.takeWhile_sublist _).subset hc)
  exact ⟨hquery, hfragment⟩

/-! ## Base URLs -/

/-- No query and no fragment begins in the path of a URL that is given. -/
theorem IsGiven.isWhole_path (h : url.IsGiven) : IsWhole url.path.text.toList := by
  induction h with
  | parse h =>
    rcases path_of_parse h with ⟨pathText, hpath⟩ | ⟨-, rest, hpath⟩
    · rw [hpath]
      exact isWhole_text_segmentsOf _ _
    · rw [hpath, Path.text, String.toList_ofList]
      exact isWhole_plainOf_iff.2 (isWhole_dropIgnored_iff.2 (isWhole_cutAt rest))
  | @withPath url h text hwhole _ =>
    rw [Url.withPath]
    cases hpath : url.path with
    | segments list => exact isWhole_text_segmentsOf _ _
    | plain content =>
      rw [Path.replace, Path.text, String.toList_ofList]
      exact isWhole_plainOf_iff.2 (hwhole content hpath)
  | withQuery _ _ ih => exact (isWhole_trimPlainPath_iff _).2 ih
  | withFragment _ _ ih => exact (isWhole_trimPlainPath_iff _).2 ih

/-! ## Given and made -/

/-- The slash that the configuration puts behind the path begins nothing. -/
theorem IsGiven.closeWithSlash (h : url.IsGiven) : (Config.closeWithSlash url).IsGiven := by
  unfold Config.closeWithSlash
  dsimp only
  split
  · exact h
  · refine h.withPath fun content _ => ?_
    rw [String.toList_append]
    exact isWhole_append.2 ⟨h.isWhole_path, by simp [IsWhole]⟩

theorem IsGiven.isMade (h : url.IsGiven) : url.IsMade := by
  induction h with
  | parse h => exact .parse h
  | withPath _ _ ih => exact ih.withPath _
  | withQuery _ query ih => exact ih.withQuery query
  | withFragment _ fragment ih => exact ih.withFragment fragment

/-- The paths are the same, or neither has segments and a query or a fragment begins in `path'`. -/
def Path.AreSameButSign (path path' : Path) : Prop :=
  path' = path ∨ ∃ a b, path = .plain a ∧ path' = .plain b ∧ ¬ IsWhole b.toList

/-- Setting the path forgets the text in which they differ. -/
theorem Path.AreSameButSign.replace_eq {path path' : Path} (h : path.AreSameButSign path')
    (scheme text : String) : path'.replace scheme text = path.replace scheme text := by
  rcases h with rfl | ⟨a, b, rfl, rfl, -⟩ <;> rfl

theorem trimPlainPath_eq (url : Url) :
    trimPlainPath url = { url with path := (trimPlainPath url).path } := by
  unfold trimPlainPath
  split <;> rfl

/-- A path without segments is one still when it is trimmed. -/
theorem exists_path_trimPlainPath {url : Url} {content : String} (h : url.path = .plain content) :
    ∃ trimmed, (trimPlainPath url).path = .plain trimmed := by
  unfold trimPlainPath
  split
  · exact ⟨_, rfl⟩
  · exact ⟨content, h⟩

/-- Trimming does not take the sign away by which the paths differ. -/
theorem Path.AreSameButSign.trimPlainPath {path : Path} (h : url.path.AreSameButSign path) :
    (trimPlainPath url).path.AreSameButSign (Url.trimPlainPath { url with path }).path := by
  rcases h with rfl | ⟨a, b, ha, rfl, hsign⟩
  · exact .inl rfl
  · obtain ⟨a', ha'⟩ := exists_path_trimPlainPath ha
    obtain ⟨b', hb'⟩ : ∃ trimmed, (Url.trimPlainPath { url with path := .plain b }).path
        = .plain trimmed := exists_path_trimPlainPath rfl
    have htrim := isWhole_trimPlainPath_iff { url with path := .plain b }
    rw [hb'] at htrim
    exact .inr ⟨a', b', ha', hb', fun hwhole => hsign (htrim.1 hwhole)⟩

/-- A URL that can be made is given, or it would be but for a path in which a query or a fragment
begins. -/
theorem IsMade.exists_isGiven (h : url.IsMade) :
    ∃ (given : Url) (path : Path), given.IsGiven ∧ url = { given with path } ∧
      given.path.AreSameButSign path := by
  induction h with
  | parse h => exact ⟨_, _, .parse h, rfl, .inl rfl⟩
  | withPath _ text ih =>
    obtain ⟨given, path, hgiven, rfl, hpath⟩ := ih
    have hreplace := hpath.replace_eq given.scheme text
    by_cases hwhole : ∀ content, given.path = .plain content → IsWhole text.toList
    · exact ⟨_, _, hgiven.withPath hwhole, by rw [Url.withPath, hreplace]; rfl, .inl rfl⟩
    · -- the path is set to a text that no URL is read with
      push Not at hwhole
      obtain ⟨content, hcontent, hsign⟩ := hwhole
      rw [hcontent, Path.replace] at hreplace
      refine ⟨given, _, hgiven, rfl, .inr ⟨content, _, hcontent, hreplace, ?_⟩⟩
      rwa [String.toList_ofList, isWhole_plainOf_iff]
  | withQuery _ query ih =>
    obtain ⟨given, path, hgiven, rfl, hpath⟩ := ih
    refine ⟨_, _, hgiven.withQuery query, ?_, Path.AreSameButSign.trimPlainPath hpath⟩
    rw [Url.withQuery, Url.withQuery, trimPlainPath_eq, trimPlainPath_eq { given with query := _ }]
  | withFragment _ fragment ih =>
    obtain ⟨given, path, hgiven, rfl, hpath⟩ := ih
    refine ⟨_, _, hgiven.withFragment fragment, ?_, Path.AreSameButSign.trimPlainPath hpath⟩
    rw [Url.withFragment, Url.withFragment, trimPlainPath_eq,
      trimPlainPath_eq { given with fragment := _ }]

/-- Of the URLs that can be made, only those are left out in whose path a query or a fragment
begins. -/
theorem isGiven_iff : url.IsGiven ↔ url.IsMade ∧ IsWhole url.path.text.toList := by
  refine ⟨fun h => ⟨h.isMade, h.isWhole_path⟩, ?_⟩
  rintro ⟨hmade, hwhole⟩
  obtain ⟨given, path, hgiven, rfl, rfl | ⟨a, b, -, rfl, hsign⟩⟩ := hmade.exists_isGiven
  · exact hgiven
  · exact absurd hwhole hsign

/-- So no URL of the web is left out. -/
theorem IsMade.isGiven (h : url.IsMade) (hweb : url.IsWeb) : url.IsGiven := by
  obtain ⟨pathText, hpath⟩ := h.exists_path hweb
  refine isGiven_iff.2 ⟨h, ?_⟩
  rw [hpath]
  exact isWhole_text_segmentsOf _ _

end BlogRouting.Url
