/-!
# File paths

A relative path is kept as it was written: what it begins with, and the pieces between its slashes.
Empty pieces and single dots name nothing, except a dot that begins the path.
-/

namespace BlogRouting

/-- What a path begins with. -/
inductive FilePath.Lead where
  | none
  /-- A dot in front of a slash or of the end. -/
  | dot
  /-- The slash of an absolute path. -/
  | root
  deriving DecidableEq, Repr

structure FilePath where
  lead : FilePath.Lead
  /-- The pieces after the lead, the last one first. -/
  pieces : List String
  deriving DecidableEq, Repr

namespace FilePath

def Lead.text : Lead → String
  | none => ""
  | dot => "."
  | root => "/"

/-- The pieces of a text, the last one first. -/
def piecesOf (text : List Char) : List String :=
  ((text.splitOn '/').map String.ofList).reverse

def ofString (text : String) : FilePath :=
  match text.toList with
  | '/' :: rest => ⟨.root, piecesOf rest⟩
  | ['.'] => ⟨.dot, piecesOf []⟩
  | '.' :: '/' :: rest => ⟨.dot, piecesOf ('/' :: rest)⟩
  | rest => ⟨.none, piecesOf rest⟩

def toString (path : FilePath) : String :=
  path.lead.text ++ "/".intercalate path.pieces.reverse

/-- Whether the piece names nothing. -/
def isEmptyPiece (piece : String) : Bool :=
  piece = "" || piece = "."

/-- The pieces from the last one that names something on. -/
def trimPieces (pieces : List String) : List String :=
  pieces.dropWhile isEmptyPiece

/-- The path without its last name. -/
def parent? (path : FilePath) : Option FilePath :=
  match trimPieces path.pieces, path.lead with
  | _ :: rest, lead => some ⟨lead, trimPieces rest⟩
  | [], .dot => some ⟨.none, []⟩
  | [], _ => none

/-- The number of steps that are left to climb, and more. -/
def height (path : FilePath) : Nat :=
  path.pieces.length + (if path.lead = .dot then 1 else 0)

/-- A step up leaves less to climb, by a name or by the dot in front. -/
theorem height_of_parent? {path above : FilePath} (h : path.parent? = some above) :
    above.height < path.height := by
  obtain ⟨lead, pieces⟩ := path
  have hTrim := (List.dropWhile_suffix isEmptyPiece (l := pieces)).length_le
  simp only [parent?, trimPieces] at h
  split at h
  · rename_i rest heq
    simp only [Option.some.injEq] at h
    subst h
    have hRest := (List.dropWhile_suffix isEmptyPiece (l := rest)).length_le
    rw [heq] at hTrim
    simp only [List.length_cons] at hTrim
    simp only [height]
    omega
  · simp only [Option.some.injEq] at h
    subst h
    simp [height]
  · simp at h

/-- The path and the paths above it, from the nearest on. -/
def selfAndAbove (path : FilePath) : List FilePath :=
  match _above : path.parent? with
  | none => [path]
  | some above => path :: above.selfAndAbove
  termination_by path.height
  decreasing_by exact height_of_parent? _above

/-- The path of `name` in the directory. -/
def join (path : FilePath) (name : String) : String :=
  let text := path.toString
  if text = "" ∨ text.toList.getLast? = some '/' then text ++ name else text ++ "/" ++ name

end FilePath

end BlogRouting
