import BlogRouting.Proofs.Url.Segments

/-!
# Paths of web URLs

The path of an `http` or `https` URL is what some text has been read as (`IsMade.exists_path`), and
so it is in its final spelling.

* **`text_segmentsOf`**: a text whose pieces are no dots reads as itself, but for escapes.
* **`exists_isPlain_text_segmentsOf`**: what a text has been read as is such a text and needs no
  escapes, because all its segments are settled (`isSettled_of_mem_segmentsOf`).
-/

namespace BlogRouting.Url

/-- A URL as one comes by it: read from a text, and changed any number of times. -/
inductive IsMade : Url → Prop where
  | parse {text : String} {url : Url} (h : parse text = .ok url) : IsMade url
  | withPath {url : Url} (h : IsMade url) (text : String) : IsMade (url.withPath text)
  | withQuery {url : Url} (h : IsMade url) (query : Option String) : IsMade (url.withQuery query)
  | withFragment {url : Url} (h : IsMade url) (fragment : Option String) :
      IsMade (url.withFragment fragment)

/-- The URL is one of a site on the web. -/
def IsWeb (url : Url) : Prop :=
  url.scheme = "http" ∨ url.scheme = "https"

/-- A URL that a site can be based on: one of the web whose path has no two slashes in a row. -/
structure IsBase (url : Url) : Prop where
  made : url.IsMade
  web : url.IsWeb
  single : ¬ ['/', '/'] <:+: url.path.text.toList

/-! ## Where the path comes from -/

theorem IsWeb.isSpecial {url : Url} (h : url.IsWeb) : Url.isSpecial url.scheme = true := by
  rcases h with h | h <;> rw [h] <;> decide

theorem IsWeb.ne_file {url : Url} (h : url.IsWeb) : url.scheme ≠ "file" := by
  rcases h with h | h <;> rw [h] <;> decide

/-- A file URL has segments. -/
theorem path_of_fileParts? {text : List Char} {parts : Parts} (h : fileParts? text = .ok parts) :
    ∃ pathText, parts.2 = .segments (segmentsOf "file" pathText) := by
  simp only [fileParts?, bind, Except.bind, pure, Except.pure] at h
  split at h
  · cases h
    exact ⟨_, rfl⟩
  · split_ifs at h
    · cases h
      exact ⟨_, rfl⟩
    all_goals
      split at h
      · exact absurd h (by simp)
      · split_ifs at h <;> cases h <;> exact ⟨_, rfl⟩

/-- A URL of the web has segments. -/
theorem path_of_webParts? {scheme : String} {text : List Char} {parts : Parts}
    (h : webParts? scheme text = .ok parts) :
    ∃ pathText, parts.2 = .segments (segmentsOf scheme pathText) := by
  simp only [webParts?, bind, Except.bind] at h
  split at h
  · exact absurd h (by simp)
  · cases h
    exact ⟨_, rfl⟩

/-- Any other URL has segments or a path that is only escaped. -/
theorem path_of_otherParts? {scheme : String} {isWhole : Bool} {text : List Char} {parts : Parts}
    (h : otherParts? scheme isWhole text = .ok parts) :
    (∃ pathText, parts.2 = .segments (segmentsOf scheme pathText)) ∨
      parts.2 = .plain (.ofList (plainOf text)) := by
  unfold otherParts? at h
  split at h
  · simp only [bind, Except.bind, throw, throwThe, MonadExceptOf.throw, pure, Except.pure] at h
    split_ifs at h
    split at h
    · exact absurd h (by simp)
    · cases h
      exact .inl ⟨_, rfl⟩
  · split at h <;> cases h
    · rename_i hsegments
      exact .inl ⟨_, congrArg Path.segments hsegments.symm⟩
    · exact .inl ⟨_, rfl⟩
  · cases h
    exact .inr rfl

/-- Only a scheme that is not special can have a path without segments. -/
theorem path_of_parse {text : String} {url : Url} (h : parse text = .ok url) :
    (∃ pathText, url.path = .segments (segmentsOf url.scheme pathText)) ∨
      isSpecial url.scheme = false ∧ ∃ rest,
        url.path = .plain (.ofList (plainOf (dropIgnored (cutAt '?' (cutAt '#' rest).1).1))) := by
  simp only [parse, bind, Except.bind] at h
  split at h
  case h_2 => exact absurd h (by simp [throw, throwThe, MonadExceptOf.throw])
  case h_1 scheme rest _ =>
  -- each kind of scheme has a reader of its own
  split_ifs at h with hfile hspecial
  · split at h
    · exact absurd h (by simp)
    · rename_i parts hparts
      cases h
      exact .inl (by simpa [hfile] using path_of_fileParts? hparts)
  · split at h
    · exact absurd h (by simp)
    · rename_i parts hparts
      cases h
      exact .inl (path_of_webParts? hparts)
  · split at h
    · exact absurd h (by simp)
    · rename_i parts hparts
      cases h
      exact (path_of_otherParts? hparts).imp_right fun hplain =>
        ⟨by simpa using hspecial, rest, hplain⟩

@[simp] theorem scheme_trimPlainPath (url : Url) : (trimPlainPath url).scheme = url.scheme := by
  unfold trimPlainPath
  split <;> rfl

theorem trimPlainPath_of_segments {url : Url} {segments : List String}
    (h : url.path = .segments segments) : trimPlainPath url = url := by
  simp [trimPlainPath, h]

/-- The path of a URL of the web has been read from some text, however the URL was made. -/
theorem IsMade.exists_path {url : Url} (h : url.IsMade) (hweb : url.IsWeb) :
    ∃ pathText, url.path = .segments (segmentsOf url.scheme pathText) := by
  induction h with
  | parse h =>
    rcases path_of_parse h with hpath | ⟨hspecial, -⟩
    · exact hpath
    · exact absurd hweb.isSpecial (by simp [hspecial])
  | withPath h text ih =>
    obtain ⟨_, hpath⟩ := ih hweb
    exact ⟨text.toList, by simp [Url.withPath, hpath, Path.replace]⟩
  | withQuery h query ih =>
    obtain ⟨pathText, hpath⟩ := ih (by simpa [IsWeb, Url.withQuery] using hweb)
    refine ⟨pathText, ?_⟩
    rw [Url.withQuery, trimPlainPath_of_segments (by exact hpath)]
    exact hpath
  | withFragment h fragment ih =>
    obtain ⟨pathText, hpath⟩ := ih (by simpa [IsWeb, Url.withFragment] using hweb)
    refine ⟨pathText, ?_⟩
    rw [Url.withFragment, trimPlainPath_of_segments (by exact hpath)]
    exact hpath

/-! ## Reading a path -/

/-- The text reads as it stands, but for characters to escape: none of its pieces is dots, and it
has no characters that vanish or that mean slashes. -/
structure IsPlain (text : List Char) : Prop where
  kept : ∀ c ∈ text, isIgnored c = false ∧ c ≠ '\\'
  no_dots : ∀ piece ∈ text.splitOn '/', isDot piece = false ∧ isDoubleDot piece = false

/-- Text behind a path becomes part of its last piece. -/
theorem splitOn_append_of_not_mem (path : List Char) {ending : List Char} (h : '/' ∉ ending) :
    ∃ front last, path.splitOn '/' = front ++ [last] ∧
      (path ++ ending).splitOn '/' = front ++ [last ++ ending] := by
  induction path with
  | nil => exact ⟨[], [], rfl, List.splitOn_eq_singleton h⟩
  | cons c path ih =>
    obtain ⟨front, last, hpath, hboth⟩ := ih
    rw [List.cons_append, List.splitOn_cons_eq_if_modifyHead, List.splitOn_cons_eq_if_modifyHead,
      hpath, hboth]
    split
    · exact ⟨[] :: front, last, rfl, rfl⟩
    · cases front with
      | nil => exact ⟨[], c :: last, rfl, rfl⟩
      | cons first front => exact ⟨(c :: first) :: front, last, rfl, rfl⟩

/-- A path is spelled piece by piece. -/
theorem flatMap_splitOn (text : List Char) :
    ((text.splitOn '/').flatMap fun piece => '/' :: spelled piece) = '/' :: spelled text := by
  induction text with
  | nil => rfl
  | cons c text ih =>
    by_cases hc : c = '/'
    · subst hc
      rw [splitOn_slash_cons, List.flatMap_cons, ih,
        spelled_cons_of_not_escaped (by decide)]
      rfl
    · obtain ⟨piece, pieces, htext, hsplit⟩ := splitOn_cons_of_ne hc text
      rw [htext, List.flatMap_cons, List.cons_append, List.cons.injEq] at ih
      have hcons (text : List Char) : spelled (c :: text) = spelled [c] ++ spelled text :=
        spelled_append [c] text
      rw [hsplit, List.flatMap_cons, hcons piece, hcons text, ← ih.2, List.cons_append,
        List.append_assoc]

/-- Pieces that are no dots are added as they are spelled, whatever is behind them. Only the first
piece of a file path may be a drive. -/
theorem resolvePieces_append_of_plain {file : Bool} {front : List (List Char)}
    (before : List String) (pieces : List (List Char)) (hfile : file = true → before ≠ [])
    (hkept : ∀ piece ∈ front, dropIgnored piece = piece)
    (hdots : ∀ piece ∈ front, isDot piece = false ∧ isDoubleDot piece = false) :
    resolvePieces file before (front ++ pieces) = resolvePieces file
      ((front.map fun piece => .ofList (spelled piece)).reverse ++ before) pieces := by
  induction front generalizing before with
  | nil => rfl
  | cons piece front ih =>
    -- such a piece is added as it is, be it the last one or not
    have hadd (isLast : Bool) : resolvePiece file isLast before piece
        = .ofList (spelled piece) :: before := by
      obtain ⟨hdot, hdouble⟩ := hdots piece List.mem_cons_self
      have hlater : (file && before.isEmpty) = false := by simpa using hfile
      simp [resolvePiece, hkept piece List.mem_cons_self, hdot, hdouble, addSegment, segmentText,
        hlater]
    rw [List.cons_append, resolvePieces, hadd, ih _ (by simp)
      (fun p hp => hkept p (List.mem_cons_of_mem _ hp))
      (fun p hp => hdots p (List.mem_cons_of_mem _ hp))]
    simp

theorem resolvePieces_of_plain {file : Bool} {pieces : List (List Char)} (before : List String)
    (hfile : file = true → before ≠ []) (hkept : ∀ piece ∈ pieces, dropIgnored piece = piece)
    (hdots : ∀ piece ∈ pieces, isDot piece = false ∧ isDoubleDot piece = false) :
    resolvePieces file before pieces
      = before.reverse ++ pieces.map fun piece => .ofList (spelled piece) := by
  have happend := resolvePieces_append_of_plain before [] hfile hkept hdots
  rwa [List.append_nil, resolvePieces, List.reverse_append, List.reverse_reverse] at happend

theorem piecesOf_slash (text : List Char) :
    piecesOf true ('/' :: text) = (text.map fun c => if c = '\\' then '/' else c).splitOn '/' := by
  have hdrop : ('/' :: text).dropWhile isIgnored = '/' :: text :=
    List.dropWhile_cons_of_neg (by decide)
  simp only [piecesOf, hdrop, if_true, List.map_cons]
  rfl

/-- A text without backslashes has no other slashes than its own. -/
theorem map_slash_eq_self {text : List Char} (h : '\\' ∉ text) :
    (text.map fun c => if c = '\\' then '/' else c) = text := by
  have hself (c : Char) (hc : c ∈ text) : (if c = '\\' then '/' else c) = c :=
    if_neg fun (hbackslash : c = '\\') => h (hbackslash ▸ hc)
  rw [List.map_congr_left hself, List.map_id']

/-- A path with a slash in front is cut at its slashes. -/
theorem piecesOf_slash_cons {special : Bool} {text : List Char}
    (h : special = true → '\\' ∉ text) : piecesOf special ('/' :: text) = text.splitOn '/' := by
  cases special with
  | false =>
    have hdrop : ('/' :: text).dropWhile isIgnored = '/' :: text :=
      List.dropWhile_cons_of_neg (by decide)
    rw [piecesOf, hdrop]
    rfl
  | true => rw [piecesOf_slash, map_slash_eq_self (h rfl)]

/-- No character vanishes from a piece of a text that reads as it stands. -/
theorem IsPlain.dropIgnored_eq {text piece : List Char} (h : IsPlain text)
    (hpiece : piece ∈ text.splitOn '/') : dropIgnored piece = piece := by
  refine List.filter_eq_self.2 fun c hc => ?_
  simp [(h.kept c (mem_of_mem_splitOn hpiece hc).1).1]

theorem segmentsOf_eq {scheme : String} (hspecial : isSpecial scheme = true)
    (hfile : scheme ≠ "file") (text : List Char) :
    segmentsOf scheme text = resolvePieces false [] (piecesOf true text) := by
  rw [segmentsOf_of_ne_file hfile, hspecial]

/-- Where nothing has to be resolved, reading a path only escapes it. -/
theorem text_segmentsOf {scheme : String} {text : List Char} (hspecial : isSpecial scheme = true)
    (hfile : scheme ≠ "file") (h : IsPlain text) :
    (Path.segments (segmentsOf scheme ('/' :: text))).text.toList = '/' :: spelled text := by
  have hpieces : piecesOf true ('/' :: text) = text.splitOn '/' :=
    piecesOf_slash_cons fun _ hmem => (h.kept _ hmem).2 rfl
  rw [segmentsOf_eq hspecial hfile, hpieces,
    resolvePieces_of_plain [] (by simp) (fun _ => h.dropIgnored_eq) h.no_dots, toList_text_segments,
    ← flatMap_splitOn]
  simp [List.flatMap_map]

/-! ## Final spelling

Reading a path again must not change it. Every segment that results has only characters that need
no escape, and none is dots. -/

/-- A segment that reads as itself. -/
structure IsSettled (segment : List Char) : Prop where
  kept : ∀ c ∈ segment, escapedInPath c = false ∧ c ≠ '\\' ∧ c ≠ '/'
  not_dots : isDot segment = false ∧ isDoubleDot segment = false

/-- The last piece always leaves a segment. -/
theorem resolvePieces_ne_nil {pieces : List (List Char)} (before : List String)
    (h : pieces ≠ []) : resolvePieces false before pieces ≠ [] := by
  induction pieces generalizing before with
  | nil => exact absurd rfl h
  | cons piece pieces ih =>
    cases pieces with
    | nil =>
      -- the last piece: dots close the path with an empty segment
      rw [resolvePieces, resolvePieces, List.isEmpty_nil, List.reverse_ne_nil_iff]
      simp only [resolvePiece, if_true]
      split_ifs <;> simp [addSegment]
    | cons next pieces => exact ih _ (by simp)

theorem piecesOf_ne_nil (text : List Char) : piecesOf true text ≠ [] := by
  simp only [piecesOf, if_true]
  split <;> simp

/-- Segments with a slash in front of each are segments with slashes between them, and one
in front. -/
theorem flatMap_slash_cons {segments : List (List Char)} (h : segments ≠ []) :
    (segments.flatMap fun segment => '/' :: segment) = '/' :: ['/'].intercalate segments := by
  induction segments with
  | nil => exact absurd rfl h
  | cons segment segments ih =>
    cases segments with
    | nil => simp
    | cons next segments =>
      rw [List.flatMap_cons, ih (by simp), List.intercalate_cons_cons]
      simp

/-- The segments of a path of the web read as themselves. -/
theorem isSettled_of_mem_segmentsOf {scheme : String} (hspecial : isSpecial scheme = true)
    (hfile : scheme ≠ "file") {text : List Char} {segment : String}
    (h : segment ∈ segmentsOf scheme text) : IsSettled segment.toList := by
  have hread := areRead_segmentsOf scheme text
  refine ⟨fun c hc => ?_, ?_⟩
  · obtain ⟨hescaped, hslash, hbackslash⟩ := hread.spelled segment h c hc
    exact ⟨hescaped, hbackslash hspecial, hslash⟩
  · have hdots : ¬ IsDots segment.toList := fun hdots => by
      obtain ⟨front, behind, heq⟩ := List.append_of_mem h
      exact hfile (hread.dots front segment behind heq hdots).1
    simpa [IsDots] using hdots

/-- A path of the web has a segment, be it an empty one. -/
theorem segmentsOf_ne_nil {scheme : String} (hspecial : isSpecial scheme = true)
    (hfile : scheme ≠ "file") (text : List Char) : segmentsOf scheme text ≠ [] := by
  rw [segmentsOf_eq hspecial hfile]
  exact resolvePieces_ne_nil [] (piecesOf_ne_nil text)

/-- What a path has been read as reads as itself, without a character to escape. -/
theorem exists_isPlain_text_segmentsOf {scheme : String} (hspecial : isSpecial scheme = true)
    (hfile : scheme ≠ "file") (text : List Char) :
    ∃ rest, (Path.segments (segmentsOf scheme text)).text.toList = '/' :: rest ∧ IsPlain rest ∧
      ∀ c ∈ rest, escapedInPath c = false := by
  have hsettled : ∀ segment ∈ (segmentsOf scheme text).map String.toList, IsSettled segment := by
    intro segment hsegment
    obtain ⟨s, hs, rfl⟩ := List.mem_map.1 hsegment
    exact isSettled_of_mem_segmentsOf hspecial hfile hs
  have hne : (segmentsOf scheme text).map String.toList ≠ [] := by
    simpa using segmentsOf_ne_nil hspecial hfile text
  have htext : (Path.segments (segmentsOf scheme text)).text.toList
      = ((segmentsOf scheme text).map String.toList).flatMap fun segment => '/' :: segment := by
    rw [toList_text_segments, List.flatMap_map]
  -- from here on, only what is known of the segments counts
  generalize (segmentsOf scheme text).map String.toList = segments at hsettled hne htext
  rw [flatMap_slash_cons hne] at htext
  have hkept : ∀ c ∈ ['/'].intercalate segments, escapedInPath c = false ∧ c ≠ '\\' := by
    intro c hc
    have hmem : c ∈ segments.flatMap fun segment => '/' :: segment := by
      rw [flatMap_slash_cons hne]
      exact List.mem_cons_of_mem _ hc
    obtain ⟨segment, hsegment, hc⟩ := List.mem_flatMap.1 hmem
    rcases List.mem_cons.1 hc with rfl | hc
    · decide
    · exact ⟨((hsettled _ hsegment).kept c hc).1, ((hsettled _ hsegment).kept c hc).2.1⟩
  refine ⟨_, htext, ⟨fun c hc => ⟨isIgnored_of_not_escaped (hkept c hc).1, (hkept c hc).2⟩, ?_⟩,
    fun c hc => (hkept c hc).1⟩
  rw [List.splitOn_intercalate '/' (fun s hs hslash => ((hsettled s hs).kept _ hslash).2.2 rfl) hne]
  exact fun s hs => (hsettled s hs).not_dots

end BlogRouting.Url
