/-!
# Files

A program sees one tree of files and directories from one of its directories, the working
directory. A path is followed name by name from there, or from the root if it begins with a slash.
Two dots lead upwards, also out of the working directory, and a symbolic link stands for another
path. The way ends early where the program is not let through.
-/

namespace BlogRouting

inductive FileTree where
  /-- A file. There is no content if reading it fails midway or gives no UTF-8. -/
  | file (content : Option String) (readable : Bool := true)
  /-- A directory with its entries, and with its symbolic links and the paths that they stand
  for. -/
  | directory (entries : List (String × FileTree)) (links : List (String × String) := [])
      (readable : Bool := true) (searchable : Bool := true)

/-- Why a path leads to nothing that can be read. -/
inductive FileError where
  | noSuchFile
  /-- A file stands where the path needs a directory. -/
  | notDirectory
  /-- A directory on the way may not be searched, or what the path leads to may not be read. -/
  | permissionDenied
  /-- The path or a name in it is too long. -/
  | nameTooLong
  /-- The path leads through too many links. -/
  | tooManyLinks
  /-- The path has the character in it that ends a path for the system. -/
  | nulInPath
  deriving DecidableEq, Repr

def FileError.message : FileError → String
  | noSuchFile => "No such file or directory (os error 2)"
  | notDirectory => "Not a directory (os error 20)"
  | permissionDenied => "Permission denied (os error 13)"
  | nameTooLong => "File name too long (os error 36)"
  | tooManyLinks => "Too many levels of symbolic links (os error 40)"
  | nulInPath => "file name contained an unexpected NUL byte"

/-- What reading gives. A directory can be opened, but it has no content. -/
def FileTree.read : FileTree → Except FileError (Option String)
  | file content readable => if readable then .ok content else .error .permissionDenied
  | directory _ _ readable _ => if readable then .ok none else .error .permissionDenied

/-- A file or a directory, and the directories above it from the nearest on. -/
structure Place where
  here : FileTree
  above : List FileTree

namespace Place

/-- The directory above. The root is its own. -/
def up (place : Place) : Place :=
  match place.above with
  | [] => place
  | nearest :: above => ⟨nearest, above⟩

/-- The entry of the given name. -/
def down? (place : Place) (name : String) : Option Place :=
  match place.here with
  | .file .. => none
  | .directory entries .. => (entries.lookup name).map (⟨·, place.here :: place.above⟩)

/-- The entry that names lead to, one after another. -/
def descend? (place : Place) : List String → Option Place
  | [] => some place
  | name :: names => (place.down? name).bind (·.descend? names)

/-- Where names lead to. -/
inductive Walk where
  | arrived (place : Place)
  /-- To a link at the place, which has to be followed before the rest of the names. -/
  | linked (place : Place) (target : String) (names : List String)

/-- The most bytes in a name. -/
def nameLimit : Nat := 255

/-- Follows names up to the first link. An empty name is no step, but it needs a directory to be in
front of it. -/
def walk (place : Place) : List String → Except FileError Walk
  | [] => .ok (.arrived place)
  | name :: names =>
    match place.here with
    | .file .. => .error .notDirectory
    | .directory _ links _ searchable =>
      if name = "" then place.walk names
      else if ¬ searchable then .error .permissionDenied
      else if name = "." then place.walk names
      else if name = ".." then place.up.walk names
      else if nameLimit < name.utf8ByteSize then .error .nameTooLong
      else
        match place.down? name, links.lookup name with
        | some below, _ => below.walk names
        | none, some target => .ok (.linked place target names)
        | none, none => .error .noSuchFile

end Place

structure FileSystem where
  root : FileTree
  /-- The names that lead from the root to the working directory. -/
  workingDirectory : List String
  isSome_descend? : ((Place.mk root []).descend? workingDirectory).isSome

namespace FileSystem

def top (files : FileSystem) : Place := ⟨files.root, []⟩

/-- The working directory. -/
def home (files : FileSystem) : Place :=
  (files.top.descend? files.workingDirectory).get files.isSome_descend?

/-- The first byte too many in a path. -/
def pathLimit : Nat := 4096

/-- The most links that are followed. -/
def linkLimit : Nat := 40

/-- Where a path that is met at a place begins, and the names in it. -/
def start (files : FileSystem) (place : Place) (path : String) :
    Except FileError (Place × List String) :=
  match (path.toList.splitOn '/').map String.ofList with
  | [""] => .error .noSuchFile
  | "" :: names => .ok (files.top, names)
  | names => .ok (place, names)

/-- Follows names, and at most `links` links. -/
def follow (files : FileSystem) (links : Nat) (place : Place) (names : List String) :
    Except FileError Place := do
  match ← place.walk names with
  | .arrived place => return place
  | .linked place target names =>
    match links with
    | 0 => throw .tooManyLinks
    | links + 1 =>
      let (place, first) ← files.start place target
      files.follow links place (first ++ names)

/-- What is at a path. -/
def get (files : FileSystem) (path : String) : Except FileError FileTree := do
  if Char.ofNat 0 ∈ path.toList then throw .nulInPath
  if pathLimit ≤ path.utf8ByteSize then throw .nameTooLong
  let (place, names) ← files.start files.home path
  return (← files.follow linkLimit place names).here

/-- Whether a path leads to a file or a directory, be it readable or not. -/
def contains (files : FileSystem) (path : String) : Bool :=
  (files.get path).isOk

/-- What reading gives at a path. -/
def read (files : FileSystem) (path : String) : Except FileError (Option String) := do
  (← files.get path).read

end FileSystem

end BlogRouting
