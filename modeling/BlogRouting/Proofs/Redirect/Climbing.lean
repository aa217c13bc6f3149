import BlogRouting.Proofs.Redirect.Targets
import BlogRouting.Proofs.Routing.Beneath

/-!
# Links that climb out

Links are put beneath the path of the site as text, and the URL that takes the text resolves its
dots afterwards. So a link leaves the site when its dots climb above the place where it was put
(`climbsOut`), however they are written: escaped, with tabs in between, behind a backslash.

* **`resolvePieces_append`**: pieces that do not climb out are resolved above any other segments as
  they are on their own, and leave those alone.
* **`isBeneath_iff`**: as the segments of a path have no slashes, the path is beneath a root path
  exactly if its segments begin with those of the root path.
* **`links_stay_beneath`**: when the path of a redirect is beneath the root path. Climbing out and
  naming the root path again comes back.
-/

namespace BlogRouting

namespace Url

/-! ## Dots above other segments -/

/-- Whether two dots find nothing to drop when the pieces are resolved behind the segments
`before`, which are listed last first. -/
def climbsOut (before : List String) : List (List Char) → Bool
  | [] => false
  | piece :: pieces =>
    (before.isEmpty && isDoubleDot (dropIgnored piece))
      || climbsOut (resolvePiece false pieces.isEmpty before piece) pieces

variable {upper : List String} {pieces : List (List Char)}

/-- Two dots drop the segment on top and see nothing of what lies below it. -/
theorem shorten_append (h : upper ≠ []) (lower : List String) :
    shorten (upper ++ lower) = shorten upper ++ lower := by
  obtain ⟨segment, upper, rfl⟩ := List.exists_cons_of_ne_nil h
  rw [List.cons_append, shorten, shorten]
  split <;> rfl

/-- One more piece does not reach what is below, unless it drops a segment and there is none. -/
theorem resolvePiece_append {isLast : Bool} {piece : List Char}
    (h : upper = [] → isDoubleDot (dropIgnored piece) = false) (lower : List String) :
    resolvePiece false isLast (upper ++ lower) piece
      = resolvePiece false isLast upper piece ++ lower := by
  have hclose (others : List String) : (if isLast then "" :: (others ++ lower) else others ++ lower)
      = (if isLast then "" :: others else others) ++ lower := by
    split <;> rfl
  unfold resolvePiece
  by_cases hdouble : isDoubleDot (dropIgnored piece) = true
  · -- two dots take away the segment on top, which is not one of the lower ones
    have hne : upper ≠ [] := fun hnil => by simp [h hnil] at hdouble
    rw [if_pos hdouble, if_pos hdouble, shorten_append hne]
    exact hclose _
  · rw [if_neg hdouble, if_neg hdouble]
    split
    · exact hclose _
    · rfl

/-- Pieces that do not climb out leave alone the segments that they begin above. -/
theorem resolvePieces_append (h : climbsOut upper pieces = false) (lower : List String) :
    resolvePieces false (upper ++ lower) pieces
      = lower.reverse ++ resolvePieces false upper pieces := by
  -- `upper` is what the pieces so far have left above `lower`
  induction pieces generalizing upper with
  | nil => exact List.reverse_append
  | cons piece pieces ih =>
    simp only [climbsOut, Bool.or_eq_false_iff, Bool.and_eq_false_imp] at h
    have hpiece : upper = [] → isDoubleDot (dropIgnored piece) = false := fun hnil =>
      h.1 (List.isEmpty_iff.2 hnil)
    rw [resolvePieces, resolvePieces, resolvePiece_append hpiece, ih h.2]

/-! ## Paths beneath a path -/

/-- The segments of a path in its final spelling, without the slash in front. -/
def segmentsIn (path : List Char) : List String :=
  (path.splitOn '/').map String.ofList

/-- The path is the root path or stands beneath it. -/
def IsBeneath (root path : List Char) : Prop :=
  path = '/' :: root ∨ '/' :: root ++ ['/'] <+: path

instance (root path : List Char) : Decidable (IsBeneath root path) :=
  inferInstanceAs (Decidable (_ ∨ _))

theorem segmentsIn_ne_nil (path : List Char) : segmentsIn path ≠ [] := by
  simp [segmentsIn, List.splitOn_ne_nil]

/-- The segments of a path spell it, whatever segments come behind them. -/
theorem text_segmentsIn_append (path : List Char) (more : List String) :
    (Path.segments (segmentsIn path ++ more)).text.toList
      = '/' :: path ++ (Path.segments more).text.toList := by
  have hpath : (segmentsIn path).flatMap (fun segment => '/' :: segment.toList) = '/' :: path := by
    have hjoin := flatMap_slash_cons (List.splitOn_ne_nil '/' path)
    rw [List.intercalate_splitOn] at hjoin
    rw [← hjoin, segmentsIn, List.flatMap_map]
    simp
  rw [toList_text_segments, toList_text_segments, List.flatMap_append, hpath]

theorem text_segmentsIn (path : List Char) :
    (Path.segments (segmentsIn path)).text.toList = '/' :: path := by
  have htext := text_segmentsIn_append path []
  rwa [List.append_nil, toList_text_segments [], List.flatMap_nil, List.append_nil] at htext

/-- An empty segment at the end means that the path ends in a slash. -/
theorem getLast?_of_segmentsIn {path : List Char} {front : List String} (hne : path ≠ [])
    (h : segmentsIn path = front ++ [""]) : path.getLast? = some '/' := by
  have htext := text_segmentsIn path
  rw [h, toList_text_segments, List.flatMap_append] at htext
  have hend : ('/' :: path).getLast? = some '/' := by
    rw [← htext]
    exact List.getLast?_concat
  rwa [List.getLast?_cons_of_ne_nil hne] at hend

/-- Segments without slashes are those of some path. -/
theorem exists_eq_segmentsIn {segments : List String} (hne : segments ≠ [])
    (h : ∀ segment ∈ segments, '/' ∉ segment.toList) : ∃ path, segments = segmentsIn path := by
  have hsplit : (['/'].intercalate (segments.map String.toList)).splitOn '/'
      = segments.map String.toList :=
    List.splitOn_intercalate '/' (by simpa using h) (by simpa using hne)
  refine ⟨['/'].intercalate (segments.map String.toList), ?_⟩
  rw [segmentsIn, hsplit, List.map_map]
  simp [Function.comp_def]

/-- A path is beneath another one as text exactly if it is beneath it segment by segment. -/
theorem isBeneath_iff {root : List Char} {segments : List String}
    (h : ∀ segment ∈ segments, '/' ∉ segment.toList) :
    IsBeneath root (Path.segments segments).text.toList ↔ segmentsIn root <+: segments := by
  refine ⟨fun hbeneath => ?_, ?_⟩
  · -- the text of a path without segments does not even have the slash in front
    by_cases hnil : segments = []
    · rw [hnil] at hbeneath
      simp [IsBeneath, toList_text_segments] at hbeneath
    obtain ⟨path, rfl⟩ := exists_eq_segmentsIn hnil h
    rw [text_segmentsIn] at hbeneath
    rcases hbeneath with hpath | ⟨behind, hpath⟩
    · rw [(List.cons.inj hpath).2]
    · have hpath' : path = root ++ '/' :: behind := by simpa using hpath.symm
      rw [hpath', segmentsIn, segmentsIn, List.splitOn_append_cons_self, List.map_append]
      exact List.prefix_append _ _
  · rintro ⟨more, rfl⟩
    rw [text_segmentsIn_append]
    cases more with
    | nil => exact .inl (by rw [toList_text_segments, List.flatMap_nil, List.append_nil])
    | cons segment more =>
      refine .inr ⟨segment.toList ++ (Path.segments more).text.toList, ?_⟩
      rw [toList_text_segments, toList_text_segments, List.flatMap_cons]
      simp

/-! ## Reading what is put beneath a path -/

section Reading

variable {scheme : String} {front : List Char}

/-- A path without dots that needs no escapes is put on the stack as it stands. -/
theorem resolvePieces_segmentsIn (hplain : IsPlain front)
    (hspelled : ∀ c ∈ front, escapedInPath c = false) (pieces : List (List Char)) :
    resolvePieces false [] (front.splitOn '/' ++ pieces)
      = resolvePieces false (segmentsIn front).reverse pieces := by
  have hsegments : (front.splitOn '/').map (fun piece => String.ofList (spelled piece))
      = segmentsIn front := by
    refine List.map_congr_left fun piece hpiece => ?_
    rw [spelled_eq_self fun c hc => hspelled c (mem_of_mem_splitOn hpiece hc).1]
  rw [resolvePieces_append_of_plain [] pieces (by simp) (fun _ => hplain.dropIgnored_eq)
    hplain.no_dots, hsegments, List.append_nil]

/-- Such a path is read as its own segments. -/
theorem segmentsOf_plain (hspecial : isSpecial scheme = true) (hfile : scheme ≠ "file")
    (hplain : IsPlain front) (hspelled : ∀ c ∈ front, escapedInPath c = false) :
    segmentsOf scheme ('/' :: front) = segmentsIn front := by
  have hbackslash : '\\' ∉ front := fun hmem => (hplain.kept _ hmem).2 rfl
  rw [segmentsOf_eq hspecial hfile, piecesOf_slash_cons fun _ => hbackslash,
    ← List.append_nil (front.splitOn '/'), resolvePieces_segmentsIn hplain hspelled]
  exact List.reverse_reverse _

/-- The path in front is read as it is, and the dots behind it come upon its segments. -/
theorem segmentsOf_append (hspecial : isSpecial scheme = true) (hfile : scheme ≠ "file")
    (hplain : IsPlain front) (hspelled : ∀ c ∈ front, escapedInPath c = false)
    (rest : List Char) :
    segmentsOf scheme ('/' :: (front ++ '/' :: rest))
      = resolvePieces false (segmentsIn front).reverse (piecesOf true ('/' :: rest)) := by
  have hbackslash : '\\' ∉ front := fun hmem => (hplain.kept _ hmem).2 rfl
  have hpieces : piecesOf true ('/' :: (front ++ '/' :: rest))
      = front.splitOn '/' ++ piecesOf true ('/' :: rest) := by
    rw [piecesOf_slash, piecesOf_slash, List.map_append, map_slash_eq_self hbackslash,
      List.map_cons, ← List.splitOn_append_cons_self]
    rfl
  rw [segmentsOf_eq hspecial hfile, hpieces, resolvePieces_segmentsIn hplain hspelled]

/-- What does not climb out is read as it is on its own. -/
theorem text_segmentsOf_append (hspecial : isSpecial scheme = true) (hfile : scheme ≠ "file")
    (hplain : IsPlain front) (hspelled : ∀ c ∈ front, escapedInPath c = false)
    {rest : List Char} (hclimbs : climbsOut [] (piecesOf true ('/' :: rest)) = false) :
    (Path.segments (segmentsOf scheme ('/' :: (front ++ '/' :: rest)))).text.toList
      = '/' :: front ++ (Path.segments (segmentsOf scheme ('/' :: rest))).text.toList := by
  have happend := resolvePieces_append hclimbs (segmentsIn front).reverse
  rw [List.nil_append, List.reverse_reverse] at happend
  rw [segmentsOf_append hspecial hfile hplain hspelled, happend, text_segmentsIn_append,
    segmentsOf_eq hspecial hfile]

end Reading

/-! ## Root paths -/

/-- To trim slashes makes no dots of other pieces. -/
theorem IsPlain.trim {text : List Char} (h : IsPlain text) : IsPlain (Slashes.trim text) := by
  obtain ⟨m, n, htext⟩ := Slashes.exists_replicate_trim text
  rw [htext] at h
  generalize Slashes.trim text = root at h
  have hfront : IsPlain (root ++ List.replicate n '/') := by
    clear htext
    induction m with
    | zero => exact h
    | succ m ih => exact ih (isPlain_append_slash (a := []).1 h).2
  cases n with
  | zero => rwa [List.replicate_zero, List.append_nil] at hfront
  | succ n => exact (isPlain_append_slash.1 hfront).1

variable {base : Url}

/-- The root path has no dots left in it and needs no more escapes. -/
theorem IsMade.isPlain_rootPath (h : base.IsMade) (hweb : base.IsWeb) :
    IsPlain base.rootPath.toList ∧ ∀ c ∈ base.rootPath.toList, escapedInPath c = false := by
  obtain ⟨rest, htext, hplain, hspelled⟩ := h.exists_text_path hweb
  have hslash : IsPlain ('/' :: rest) := (isPlain_append_slash (a := [])).2 ⟨isPlain_nil, hplain⟩
  rw [toList_rootPath, htext]
  refine ⟨hslash.trim, fun c hc => ?_⟩
  rcases List.mem_cons.1 (Slashes.mem_of_mem_trim hc) with rfl | hc
  · decide
  · exact hspelled c hc

end Url

/-! ## Redirects -/

section Redirects

open Url

/-- The pieces of a target's path that stand behind the root path. -/
def piecesBehind (root path : List Char) : List (List Char) :=
  if path = root then [] else piecesOf true ('/' :: (beneath? root path).getD path)

variable {base : Url}

/-- The pieces of a redirect are resolved on top of the segments of the root path, like a path that
was written there. -/
theorem Url.IsMade.segments_targetUrl (h : base.IsMade) (hweb : base.IsWeb)
    (hroot : base.rootPath.toList ≠ []) (target : String) :
    (targetUrl base target).path = .segments
      (resolvePieces false (segmentsIn base.rootPath.toList).reverse
        (piecesBehind base.rootPath.toList (namedPath target))) := by
  obtain ⟨hplain, hspelled⟩ := h.isPlain_rootPath hweb
  rw [h.path_targetUrl hweb]
  generalize base.rootPath.toList = root at hroot hplain hspelled
  generalize namedPath target = path
  congr 1
  cases hpath : beneath? root path with
  | none =>
    have hne : path ≠ root := by
      rintro rfl
      exact absurd hpath (by simp [beneath?_eq_some_iff.2 ⟨hroot, .inl ⟨rfl, rfl⟩⟩])
    -- the root path is put in front of the whole path
    have hneither : ¬ (root = [] ∨ (beneath? root path).isSome) := by simp [hroot, hpath]
    rw [rooted, if_neg hneither, piecesBehind, if_neg hne, hpath, Option.getD_none,
      segmentsOf_append hweb.isSpecial hweb.ne_file hplain hspelled]
  | some rest =>
    -- the path begins with the root path, or is the root path
    rw [rooted, if_pos (.inr (by rw [hpath]; rfl))]
    obtain ⟨-, ⟨rfl, rfl⟩ | rfl⟩ := beneath?_eq_some_iff.1 hpath
    · rw [piecesBehind, if_pos rfl, segmentsOf_plain hweb.isSpecial hweb.ne_file hplain hspelled]
      exact (List.reverse_reverse _).symm
    · have hne : root ++ '/' :: rest ≠ root := by simp
      rw [piecesBehind, if_neg hne, hpath, Option.getD_some,
        segmentsOf_append hweb.isSpecial hweb.ne_file hplain hspelled]

/-- Two dots are no path beneath the root, so they are put behind it. -/
theorem piecesBehind_dots {root : List Char} (hplain : IsPlain root) :
    piecesBehind root ['.', '.'] = [['.', '.']] := by
  have hne : ['.', '.'] ≠ root := by
    rintro rfl
    exact absurd (hplain.no_dots ['.', '.'] (by decide)).2 (by decide)
  have hnone : beneath? root ['.', '.'] = none := by
    refine Option.eq_none_iff_forall_ne_some.2 fun rest hrest => ?_
    obtain ⟨-, ⟨heq, -⟩ | heq⟩ := beneath?_eq_some_iff.1 hrest
    · exact hne heq
    · have hslash : '/' ∈ ['.', '.'] := heq ▸ List.mem_append_right _ List.mem_cons_self
      exact absurd hslash (by decide)
  rw [piecesBehind, if_neg hne, hnone]
  decide

/-- Two dots drop the last segment of the root path, and nothing brings it back. -/
theorem Url.IsMade.not_prefix_dots (h : base.IsMade) (hweb : base.IsWeb)
    (hroot : base.rootPath.toList ≠ [])
    (hdrive : ∀ last, (segmentsIn base.rootPath.toList).getLast? = some last →
      looksLikeDrive last = false) :
    ¬ segmentsIn base.rootPath.toList <+:
      resolvePieces false (segmentsIn base.rootPath.toList).reverse
        (piecesBehind base.rootPath.toList ['.', '.']) := by
  have hlast : base.rootPath.toList.getLast? ≠ some '/' := by
    rw [toList_rootPath]
    exact Slashes.getLast?_trim _
  rw [piecesBehind_dots (h.isPlain_rootPath hweb).1]
  generalize base.rootPath.toList = root at hroot hdrive hlast
  obtain hnil | ⟨front, last, hsegments⟩ := List.eq_nil_or_concat' (segmentsIn root)
  · exact absurd hnil (segmentsIn_ne_nil root)
  have hresolved : resolvePieces false (segmentsIn root).reverse [['.', '.']] = front ++ [""] := by
    have hkept := hdrive last (by rw [hsegments, List.getLast?_concat])
    have hdouble : isDoubleDot (dropIgnored ['.', '.']) = true := by decide
    rw [hsegments, List.reverse_append, List.reverse_singleton, List.singleton_append]
    simp [resolvePieces, resolvePiece, hdouble, shorten, hkept]
  rw [hresolved, hsegments]
  intro hprefix
  -- both are of the same length, so the root path would have to end in a slash
  have hempty : last = "" := by
    have heq := hprefix.eq_of_length (by simp)
    exact (List.cons.inj (List.append_cancel_left heq)).1
  exact hlast (getLast?_of_segmentsIn hroot (hempty ▸ hsegments))

/-! ## Addresses -/

/-- An absolute path is read from the path of the base URL with the other path behind it. -/
theorem Url.IsMade.path_absolute (h : base.IsMade) (hweb : base.IsWeb) (path : String) :
    (absolute base path).path = .segments (segmentsOf base.scheme (base.path.text.toList ++
      (if base.path.text.toList.getLast? = some '/' then [] else ['/'])
        ++ Slashes.trimLeading path.toList)) := by
  obtain ⟨pathText, hsegments⟩ := h.exists_path hweb
  simp only [absolute]
  rw [Url.withPath, hsegments, Path.replace, Url.withQuery, trimPlainPath_of_segments rfl,
    Url.withFragment, trimPlainPath_of_segments rfl, String.toList_ofList]

/-- A path that does not climb out, or one that finds nothing to climb out of, stays beneath the
path of the base URL. -/
theorem Url.IsMade.prefix_absolute (h : base.IsMade) (hweb : base.IsWeb) {path : String}
    (hclimbs : base.path.text = "/" ∨
      climbsOut [] (piecesOf true ('/' :: Slashes.trimLeading path.toList)) = false) :
    base.path.text.toList <+: (absolute base path).path.text.toList := by
  obtain ⟨rest, htext, hplain, hspelled⟩ := h.exists_text_path hweb
  have hread := exists_isPlain_text_segmentsOf hweb.isSpecial hweb.ne_file
  rw [h.path_absolute hweb]
  by_cases hnil : rest = []
  · -- every path begins with a slash
    rw [htext, hnil]
    obtain ⟨behind, hbehind, -⟩ := hread (['/'] ++ (if ['/'].getLast? = some '/' then [] else ['/'])
      ++ Slashes.trimLeading path.toList)
    exact ⟨behind, hbehind.symm⟩
  have hclimbs : climbsOut [] (piecesOf true ('/' :: Slashes.trimLeading path.toList)) = false := by
    refine hclimbs.resolve_left fun hslash => hnil ?_
    rw [hslash] at htext
    exact (List.cons.inj htext).2.symm
  rw [htext, List.getLast?_cons_of_ne_nil hnil]
  split
  · -- the base path ends in a slash, which the path then stands behind
    rename_i hlast
    obtain ⟨front, rfl⟩ := List.getLast?_eq_some_iff.1 hlast
    obtain ⟨behind, hbehind, -⟩ := hread ('/' :: Slashes.trimLeading path.toList)
    have hjoined : '/' :: (front ++ ['/']) ++ [] ++ Slashes.trimLeading path.toList
        = '/' :: (front ++ '/' :: Slashes.trimLeading path.toList) := by simp
    rw [hjoined, text_segmentsOf_append hweb.isSpecial hweb.ne_file
      (isPlain_append_slash.1 hplain).1 (fun c hc => hspelled c (List.mem_append_left _ hc))
      hclimbs,
      hbehind]
    exact ⟨behind, by simp⟩
  · have hjoined : '/' :: rest ++ ['/'] ++ Slashes.trimLeading path.toList
        = '/' :: (rest ++ '/' :: Slashes.trimLeading path.toList) := by simp
    rw [hjoined, text_segmentsOf_append hweb.isSpecial hweb.ne_file hplain hspelled hclimbs]
    exact List.prefix_append _ _

/-- The path of a redirect is beneath the root path exactly if resolving what stands behind the
root path leaves the segments of the root path in front. It does if nothing climbs out, and then
addresses begin with the base path, too. Two dots alone climb out of every root path whose last
segment does not look like a drive. -/
theorem links_stay_beneath (hmade : base.IsMade) (hweb : base.IsWeb) :
    let root := base.rootPath.toList
    (root ≠ [] → ∀ target, Url.parse target = .error .relativeWithoutBase →
      let path := (targetUrl base target).path.text.toList
      let pieces := piecesBehind root (namedPath target)
      redirectTarget base target = (targetUrl base target).text ∧
      (IsBeneath root path ↔
        segmentsIn root <+: resolvePieces false (segmentsIn root).reverse pieces) ∧
      (climbsOut [] pieces = false → IsBeneath root path)) ∧
    (∀ path : String, (base.path.text = "/" ∨
        climbsOut [] (piecesOf true ('/' :: Slashes.trimLeading path.toList)) = false) →
      base.path.text.toList <+: (absolute base path).path.text.toList) ∧
    (root ≠ [] →
      (∀ last, (segmentsIn root).getLast? = some last → looksLikeDrive last = false) →
      ¬ IsBeneath root (targetUrl base "..").path.text.toList) := by
  intro root
  have hbeneath (hroot : root ≠ []) (target : String) :
      IsBeneath root (targetUrl base target).path.text.toList ↔ segmentsIn root <+:
        resolvePieces false (segmentsIn root).reverse (piecesBehind root (namedPath target)) := by
    have hsegments := hmade.segments_targetUrl hweb hroot target
    rw [hsegments]
    refine isBeneath_iff fun segment hsegment => ?_
    -- a segment of the URL has been read from a text, and none of those has slashes
    rw [hmade.path_targetUrl hweb, Path.segments.injEq] at hsegments
    have hsettled := isSettled_of_mem_segmentsOf hweb.isSpecial hweb.ne_file (hsegments ▸ hsegment)
    exact fun hslash => (hsettled.kept _ hslash).2.2 rfl
  refine ⟨fun hroot target htarget => ?_, fun path => hmade.prefix_absolute hweb, ?_⟩
  · refine ⟨redirectTarget_eq_text base htarget, hbeneath hroot target, fun hclimbs => ?_⟩
    rw [hbeneath hroot target]
    have happend := resolvePieces_append hclimbs (segmentsIn root).reverse
    rw [List.nil_append, List.reverse_reverse] at happend
    rw [happend]
    exact List.prefix_append _ _
  · intro hroot hdrive
    have hpath : namedPath ".." = ['.', '.'] := by decide
    rw [hbeneath hroot, hpath]
    exact hmade.not_prefix_dots hweb hroot hdrive

/-- Dots, escaped or not, that drop only what the link brought along. -/
theorem links_stay_beneath_dots :
    redirectTarget .blog "/posts/.%2E/x" = "http://myblog.net/blog/x" ∧
      IsBeneath "blog".toList (targetUrl .blog "/posts/.%2E/x").path.text.toList ∧
      "/blog/".toList <+: (absolute .blog "a/../b").path.text.toList ∧
      ¬ IsBeneath "blog".toList (targetUrl .blog "..").path.text.toList := by
  have htarget : Url.parse "/posts/.%2E/x" = .error .relativeWithoutBase := by decide +kernel
  have hroot : Url.blog.rootPath.toList = "blog".toList := by decide +kernel
  have hbase : Url.blog.path.text.toList = "/blog/".toList := by decide +kernel
  have htext : (targetUrl .blog "/posts/.%2E/x").text = "http://myblog.net/blog/x" := by
    decide +kernel
  have hlaws := links_stay_beneath isBase_blog.made isBase_blog.web
  dsimp only at hlaws
  rw [hroot, hbase] at hlaws
  obtain ⟨hredirect, habsolute, hdots⟩ := hlaws
  obtain ⟨hlocation, -, hbeneath⟩ := hredirect (by decide) _ htarget
  exact ⟨hlocation.trans htext, hbeneath (by decide +kernel),
    habsolute "a/../b" (.inr (by decide +kernel)),
    hdots (by decide) fun last hlast => by
      obtain rfl := Option.some.inj hlast
      decide +kernel⟩

/-- A redirect and the address of a path that lead beside the site. -/
theorem links_leave_root :
    Url.parse "http://myblog.net/blog/" = .ok .blog ∧ Url.blog.rootPath = "blog" ∧
      Url.parse "../x" = .error .relativeWithoutBase ∧
      redirectTarget .blog "../x" = "http://myblog.net/x" ∧
      ¬ IsBeneath "blog".toList (targetUrl .blog "../x").path.text.toList ∧
      absolute .blog "../x" = targetUrl .blog "../x" ∧
      ¬ Url.blog.path.text.toList <+: (absolute .blog "../x").path.text.toList := by
  have htarget : Url.parse "../x" = .error .relativeWithoutBase := by decide +kernel
  have htext : (targetUrl .blog "../x").text = "http://myblog.net/x" := by decide +kernel
  exact ⟨parse_blog, by decide +kernel, htarget, (redirectTarget_eq_text _ htarget).trans htext,
    by decide +kernel, by decide +kernel, by decide +kernel⟩

end Redirects

end BlogRouting
