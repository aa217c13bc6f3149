import BlogRouting.Proofs.Url.Rereading
import BlogRouting.Site.Config

/-!
# A slash behind the path

A configuration puts a slash behind the path of its base URL. What comes of it is told once, for
paths of both kinds (`text_path_closeWithSlash`), and three questions are answered by it.

* **`getLast?_closeWithSlash_iff`**: the path ends in a slash then, unless it is no path at all: the
  slash would be the first sign of a path without segments, and there it is escaped.
* **`rootPath_closeWithSlash_iff`**: the root path is the same, unless that happens or reading the
  path again writes it in another way.
* **`closeWithSlash_closeWithSlash_iff`**: nothing is left to do for the next time, unless the slash
  has been escaped.
-/

namespace BlogRouting

namespace Url

variable {scheme : String} {path : Path} {url : Url}

/-- A path as reading a URL leaves it. -/
inductive Path.IsRead (scheme : String) : Path → Prop where
  | segments {list : List String} (h : AreRead scheme list) : IsRead scheme (.segments list)
  | plain {text : List Char} (h : dropIgnored text = text) :
      IsRead scheme (.plain (.ofList (plainOf text)))

/-- Segments that are read from any text make such a path. -/
theorem isRead_segmentsOf (scheme : String) (text : List Char) :
    (Path.segments (segmentsOf scheme text)).IsRead scheme :=
  .segments (areRead_segmentsOf scheme text)

/-- The path of a URL that has been read is as reading leaves it. -/
theorem isRead_of_parse {text : String} (h : parse text = .ok url) :
    url.path.IsRead url.scheme := by
  rcases path_of_parse h with ⟨pathText, hpath⟩ | ⟨-, rest, hpath⟩
  · rw [hpath]
    exact isRead_segmentsOf _ _
  · rw [hpath]
    exact .plain (by simp [dropIgnored])

/-! ## Paths read with a slash -/

/-- The path as it is written when it is read again. -/
def Path.respelled (scheme : String) : Path → Path
  | segments list => segments (Url.respelled scheme list)
  | plain text => plain text

/-- Reading the path of a URL again writes it in another way: it is the path of a file, and either
it begins with a drive that has a bar for its colon or dots stand behind its first segment. -/
def IsRespelled (url : Url) : Prop :=
  url.scheme = "file" ∧ ∃ first rest, url.path = .segments (first :: rest) ∧
    (IsDrive '|' first ∨ ∃ dots more, rest = dots :: more ∧ IsDots dots.toList)

/-- Reading the path again leaves it, unless it is one of those that are read otherwise. -/
theorem respelled_eq_self_iff :
    url.path.respelled url.scheme = url.path ↔ ¬ url.IsRespelled := by
  cases hpath : url.path with
  | plain text => simp [Path.respelled, IsRespelled, hpath]
  | segments list =>
    rw [Path.respelled, Path.segments.injEq]
    cases list with
    | nil => simp [Url.respelled, IsRespelled, hpath]
    | cons first rest =>
      rw [Url.respelled]
      split_ifs with hfile
      · rw [List.cons.injEq, driveOf_eq_self_iff, behindDrive_eq_self_iff, ← not_or]
        simp [IsRespelled, hfile, hpath]
      · simp [IsRespelled, hfile]

theorem replace_plain (scheme old new : String) :
    (Path.plain old).replace scheme new = .plain (.ofList (plainOf new.toList)) :=
  rfl

/-- The path with a slash behind is read as the path is read again, and then the slash. -/
theorem Path.IsRead.text_replace (h : path.IsRead scheme) (hne : path ≠ .plain "")
    (hslash : path.text.toList.getLast? ≠ some '/') :
    (path.replace scheme (path.text ++ "/")).text.toList
      = (path.respelled scheme).text.toList ++ ['/'] := by
  cases h with
  | segments h =>
    rw [Path.replace, String.toList_append]
    show (Path.segments (segmentsOf scheme (_ ++ ['/']))).text.toList = _
    rw [segmentsOf_append_slash h hslash, text_append_slash]
    rfl
  | @plain text h =>
    have htext : plainOf text ≠ [] := fun hempty => hne (by rw [hempty])
    rw [replace_plain, Path.respelled, Path.text, Path.text, String.toList_ofList,
      String.toList_append, String.toList_ofList]
    exact plainOf_append_slash h htext

/-- The slashes at the ends do not hide that a path is written in another way. -/
theorem Path.IsRead.trim_respelled_iff (h : path.IsRead scheme)
    (hslash : path.text.toList.getLast? ≠ some '/') :
    Slashes.trim (path.respelled scheme).text.toList = Slashes.trim path.text.toList ↔
      path.respelled scheme = path := by
  cases h with
  | segments h =>
    rw [Path.respelled, trim_text_respelled_iff h hslash, Path.segments.injEq]
  | plain h => simp [Path.respelled]

/-! ## Closed paths -/

theorem closeWithSlash_of_slash (h : url.path.text.toList.getLast? = some '/') :
    Config.closeWithSlash url = url :=
  if_pos h

theorem closeWithSlash_of_not_slash (h : url.path.text.toList.getLast? ≠ some '/') :
    Config.closeWithSlash url = url.withPath (url.path.text ++ "/") :=
  if_neg h

/-- The slash is escaped where it would be the whole of a path without segments. -/
theorem path_closeWithSlash_of_empty (h : url.path = .plain "") :
    (Config.closeWithSlash url).path = .plain "%2F" := by
  have hslash : url.path.text.toList.getLast? ≠ some '/' := by
    rw [h]
    decide
  rw [closeWithSlash_of_not_slash hslash, withPath, h, replace_plain, Path.plain.injEq]
  decide +kernel

/-- The path is left alone if it ends in a slash, else it is read again. -/
theorem text_path_closeWithSlash (h : url.path.IsRead url.scheme) (hne : url.path ≠ .plain "") :
    (Config.closeWithSlash url).path.text.toList =
      if url.path.text.toList.getLast? = some '/' then url.path.text.toList
      else (url.path.respelled url.scheme).text.toList ++ ['/'] := by
  split_ifs with hslash
  · rw [closeWithSlash_of_slash hslash]
  · rw [closeWithSlash_of_not_slash hslash, withPath, h.text_replace hne hslash]

/-- A closed path ends in a slash, unless it was empty and without segments. -/
theorem getLast?_closeWithSlash_iff (h : url.path.IsRead url.scheme) :
    (Config.closeWithSlash url).path.text.toList.getLast? = some '/' ↔ url.path ≠ .plain "" := by
  refine ⟨fun hclosed hempty => ?_, fun hne => ?_⟩
  · rw [path_closeWithSlash_of_empty hempty] at hclosed
    exact absurd hclosed (by decide)
  · rw [text_path_closeWithSlash h hne]
    split_ifs with hslash
    · exact hslash
    · exact List.getLast?_concat

/-- The root path stays, unless the slash is escaped or the path is read otherwise with it. -/
theorem rootPath_closeWithSlash_iff (h : url.path.IsRead url.scheme) :
    (Config.closeWithSlash url).rootPath = url.rootPath ↔ url.path ≠ .plain "" ∧
      (url.path.text.toList.getLast? = some '/' ∨ ¬ url.IsRespelled) := by
  by_cases hempty : url.path = .plain ""
  · refine iff_of_false ?_ fun h => h.1 hempty
    rw [rootPath, rootPath, path_closeWithSlash_of_empty hempty, hempty]
    decide +kernel
  · -- trimmed, the path with the slash is the path as it is read again
    have hrespelled (hslash : url.path.text.toList.getLast? ≠ some '/') :
        Slashes.trim ((url.path.respelled url.scheme).text.toList ++ ['/'])
          = Slashes.trim url.path.text.toList ↔ ¬ url.IsRespelled := by
      rw [Slashes.trim_append_slash, h.trim_respelled_iff hslash, respelled_eq_self_iff]
    rw [rootPath, rootPath, String.ofList_inj, text_path_closeWithSlash h hempty]
    split_ifs with hslash
    · simp [hempty, hslash]
    · simp [hempty, hslash, hrespelled hslash]

/-- Closing once is enough, unless the slash is escaped. -/
theorem closeWithSlash_closeWithSlash_iff (h : url.path.IsRead url.scheme) :
    Config.closeWithSlash (Config.closeWithSlash url) = Config.closeWithSlash url ↔
      url.path ≠ .plain "" := by
  refine ⟨fun hclosed hempty => ?_, fun hne => ?_⟩
  · have hescaped := path_closeWithSlash_of_empty hempty
    have hslash : (Config.closeWithSlash url).path.text.toList.getLast? ≠ some '/' := by
      rw [hescaped]
      decide
    have hpath := congrArg Url.path hclosed
    rw [closeWithSlash_of_not_slash hslash, withPath, hescaped, replace_plain,
      Path.plain.injEq] at hpath
    exact absurd hpath (by decide +kernel)
  · exact closeWithSlash_of_slash ((getLast?_closeWithSlash_iff h).2 hne)

end Url

/-! ## Configurations -/

/-- A configuration is made exactly if its format compiles, and it has the closed URL and the format
as it was written. -/
theorem Config.new_eq_ok_iff {url : Url} {format : String} {config : Config} :
    Config.new url format = .ok config ↔
      (∃ t, Template.compile format = .ok t) ∧ config = ⟨closeWithSlash url, format⟩ := by
  unfold Config.new
  cases Template.compile format <;> simp [eq_comm]

end BlogRouting
