import BlogRouting.Proofs.Files.Ascent
import BlogRouting.Proofs.Template.Accepted
import BlogRouting.Site.Config

/-!
# The nearest configuration

A site in a directory is configured by the nearest file: the one in the directory itself, or else in
the directory above it, and so on. Climbing up and looking at each place (`Finds`) ends, and gives
what the first place with a file gives (`finds_iff`). Nothing but what is seen at these places
counts (`ofPlaces_congr`).

To be there, a file need not be readable: whoever may go to it sees it, and reading it is what fails
then (`FileSystem.eq_permissionDenied_of_read`).
-/

namespace BlogRouting

namespace FileSystem

variable {files : FileSystem} {path : String}

/-- What is seen at a path: nothing, or what reading it gives. -/
def sight (files : FileSystem) (path : String) : Option (Except FileError (Option String)) :=
  if files.contains path then some (files.read path) else none

theorem sight_eq_none_iff : files.sight path = none ↔ files.contains path = false := by
  simp [sight]

theorem sight_of_contains (h : files.contains path = true) :
    files.sight path = some (files.read path) :=
  if_pos h

theorem read_of_get {found : FileTree} (h : files.get path = .ok found) :
    files.read path = found.read := by
  rw [read, h]
  rfl

/-- Of what is there, only a missing permission keeps a program from reading it. -/
theorem eq_permissionDenied_of_read {e : FileError} (h : files.contains path = true)
    (hread : files.read path = .error e) : e = .permissionDenied := by
  cases hget : files.get path with
  | error e' => simp [contains, hget, Except.isOk, Except.toBool] at h
  | ok found =>
    rw [read_of_get hget] at hread
    cases found with
    | file content readable => cases readable <;> simp_all [FileTree.read]
    | directory entries links readable searchable =>
      cases readable <;> simp_all [FileTree.read]

end FileSystem

namespace Config

variable {files other : FileSystem} {place text : String} {places nearer : List String}

/-! ## One place -/

/-- A text is no configuration for a reason of its own, not for one that names a file. -/
theorem ofYaml_ne_inFile (text place : String) (e : ConfigError) :
    ofYaml text ≠ .error (.inFile place e) := by
  unfold ofYaml
  split
  · simp
  · unfold Config.new
    split <;> simp

/-! ## One place after another -/

/-- The configuration in the first place that has something. -/
def ofPlaces (files : FileSystem) (places : List String) : Except ConfigError Config :=
  match places.find? files.contains with
  | none => .error .notFound
  | some place => ofFile files place

theorem ofPlaces_cons_of_contains (h : files.contains place = true) (places : List String) :
    ofPlaces files (place :: places) = ofFile files place := by
  rw [ofPlaces, List.find?_cons_of_pos h]

theorem ofPlaces_cons_of_not_contains (h : files.contains place = false) (places : List String) :
    ofPlaces files (place :: places) = ofPlaces files places := by
  rw [ofPlaces, List.find?_cons_of_neg (by simp [h]), ofPlaces]

/-- The places in front of the first where something is are passed by. -/
theorem ofPlaces_append (h : ∀ place ∈ nearer, files.contains place = false)
    (places : List String) : ofPlaces files (nearer ++ places) = ofPlaces files places := by
  induction nearer with
  | nil => rfl
  | cons place nearer ih =>
    rw [List.cons_append, ofPlaces_cons_of_not_contains (h place List.mem_cons_self),
      ih fun other hother => h other (List.mem_cons_of_mem _ hother)]

/-- A file that is there is not taken for one that is not, whatever is wrong with it. -/
theorem ofPlaces_eq_notFound_iff :
    ofPlaces files places = .error .notFound ↔ ∀ place ∈ places, files.contains place = false := by
  refine ⟨fun h => ?_, fun h => ?_⟩
  · unfold ofPlaces at h
    split at h
    · rename_i hnone
      simpa using hnone
    · rename_i place _
      rw [ofFile] at h
      cases hcontent : ofContent (files.read place) <;> simp [hcontent, Except.mapError] at h
  · have hnone := ofPlaces_append h []
    rwa [List.append_nil] at hnone

/-- What is seen at a place decides about the configuration there. -/
theorem ofFile_congr (h : other.sight place = files.sight place)
    (hcontains : files.contains place = true) :
    other.contains place = true ∧ ofFile other place = ofFile files place := by
  have hother : other.contains place = true := by
    rw [← Bool.not_eq_false, ← FileSystem.sight_eq_none_iff, h, FileSystem.sight_eq_none_iff,
      hcontains]
    simp
  rw [FileSystem.sight_of_contains hcontains, FileSystem.sight_of_contains hother] at h
  exact ⟨hother, by rw [ofFile, ofFile, Option.some.inj h]⟩

/-- Only what is seen at the places counts. -/
theorem ofPlaces_congr (h : ∀ place ∈ places, other.sight place = files.sight place) :
    ofPlaces other places = ofPlaces files places := by
  induction places with
  | nil => rfl
  | cons place places ih =>
    have hplace := h place List.mem_cons_self
    cases hcontains : files.contains place with
    | true =>
      obtain ⟨hother, hfile⟩ := ofFile_congr hplace hcontains
      rw [ofPlaces_cons_of_contains hcontains, ofPlaces_cons_of_contains hother, hfile]
    | false =>
      have hother : other.contains place = false := by
        rwa [← FileSystem.sight_eq_none_iff, hplace, FileSystem.sight_eq_none_iff]
      rw [ofPlaces_cons_of_not_contains hcontains, ofPlaces_cons_of_not_contains hother,
        ih fun next hnext => h next (List.mem_cons_of_mem _ hnext)]

/-! ## Upwards -/

/-- Looking at one place after another, from a path upwards, up to the first that has something. -/
inductive Finds (files : FileSystem) : FilePath → Except ConfigError Config → Prop where
  | here {path : FilePath} (h : files.contains (path.join fileName) = true) :
      Finds files path (ofFile files (path.join fileName))
  | above {path above : FilePath} {result : Except ConfigError Config}
      (h : files.contains (path.join fileName) = false) (hparent : path.parent? = some above)
      (rest : Finds files above result) : Finds files path result
  | nowhere {path : FilePath} (h : files.contains (path.join fileName) = false)
      (hparent : path.parent? = none) : Finds files path (.error .notFound)

/-- Climbing comes to an end, with what the first place on the way gives. -/
theorem finds_iff {path : FilePath} {result : Except ConfigError Config} :
    Finds files path result ↔
      result = ofPlaces files (path.selfAndAbove.map (·.join fileName)) := by
  refine ⟨fun h => ?_, ?_⟩
  · induction h with
    | @here path h =>
      obtain ⟨paths, hpaths⟩ := List.head?_eq_some_iff.1 path.head?_selfAndAbove
      rw [hpaths, List.map_cons, ofPlaces_cons_of_contains h]
    | above h hparent _ ih =>
      rw [FilePath.selfAndAbove_of_some hparent, List.map_cons, ofPlaces_cons_of_not_contains h, ih]
    | nowhere h hparent =>
      rw [FilePath.selfAndAbove_of_none hparent, List.map_singleton,
        ofPlaces_cons_of_not_contains h]
      rfl
  · rintro rfl
    fun_induction FilePath.selfAndAbove path with
    | case1 path hparent =>
      rw [List.map_singleton]
      cases h : files.contains (path.join fileName) with
      | true => rw [ofPlaces_cons_of_contains h]; exact .here h
      | false => rw [ofPlaces_cons_of_not_contains h]; exact .nowhere h hparent
    | case2 path above hparent ih =>
      rw [List.map_cons]
      cases h : files.contains (path.join fileName) with
      | true => rw [ofPlaces_cons_of_contains h]; exact .here h
      | false => rw [ofPlaces_cons_of_not_contains h]; exact .above h hparent ih

/-- The configuration of a directory is looked for along the paths that begin with the directory,
climb to the parent each time, and end at the empty path. Looking along them ends, without a
configuration exactly if there is nothing at any of these places. Else the nearest file counts: its
text is read as a configuration, or what is wrong with it or with reading it is reported for this
file, and once only. Nothing but what is seen at these places makes a difference. -/
theorem ofDirectory_nearest {directory : String} (h : directory.toList.head? ≠ some '/') :
    let start := FilePath.ofString directory
    let paths := start.selfAndAbove
    (start.toString = directory ∧ paths.head? = some start ∧
      paths.IsChain (fun path above => path.parent? = some above) ∧
      (∃ last, paths.getLast? = some last ∧ last.toString = "" ∧ last.parent? = none) ∧
      paths.map FilePath.names = start.names.inits.reverse) ∧
    (∀ text place e, ofYaml text ≠ .error (.inFile place e)) ∧
    ∀ files : FileSystem,
      (∀ result, Finds files start result ↔ result = ofDirectory files directory) ∧
      (ofDirectory files directory = .error .notFound ↔
        ∀ path ∈ paths, files.contains (path.join fileName) = false) ∧
      (∀ nearer path farther, paths = nearer ++ path :: farther →
        (∀ near ∈ nearer, files.contains (near.join fileName) = false) →
        let place := path.join fileName
        files.contains place = true →
          (∀ text, files.read place = .ok (some text) →
            ofDirectory files directory = (ofYaml text).mapError (.inFile place)) ∧
          (files.read place = .ok none →
            ofDirectory files directory = .error (.inFile place .malformed)) ∧
          ∀ e, files.read place = .error e → e = .permissionDenied ∧
            ofDirectory files directory = .error (.inFile place (.unreadable e))) ∧
      ∀ other : FileSystem, (∀ path ∈ paths,
          other.sight (path.join fileName) = files.sight (path.join fileName)) →
        ofDirectory other directory = ofDirectory files directory := by
  intro start paths
  obtain ⟨last, hlast, hnone⟩ := start.exists_getLast?_selfAndAbove
  have hempty : last.toString = "" :=
    ((FilePath.isRelative_ofString h).mem_selfAndAbove
      (List.mem_of_getLast? hlast)).toString_eq_empty hnone
  refine ⟨⟨FilePath.toString_ofString directory, start.head?_selfAndAbove,
    start.isChain_selfAndAbove, ⟨last, hlast, hempty, hnone⟩, start.map_names_selfAndAbove⟩,
    ofYaml_ne_inFile, fun files => ⟨fun result => finds_iff, ?_, ?_, ?_⟩⟩
  · exact ofPlaces_eq_notFound_iff.trans List.forall_mem_map
  · intro nearer path farther hpaths hnearer place hplace
    -- the nearer places are passed by
    have hdirectory : ofDirectory files directory = ofFile files place := by
      show ofPlaces files (paths.map (·.join fileName)) = _
      rw [hpaths, List.map_append, ofPlaces_append (List.forall_mem_map.2 hnearer), List.map_cons,
        ofPlaces_cons_of_contains hplace]
    rw [hdirectory, ofFile]
    refine ⟨fun text hread => ?_, fun hread => ?_, fun e hread => ?_⟩
    · rw [hread, ofContent]
    · rw [hread]
      rfl
    · rw [hread]
      exact ⟨FileSystem.eq_permissionDenied_of_read hplace hread, rfl⟩
  · intro other hother
    exact ofPlaces_congr (List.forall_mem_map.2 hother)

/-- The broken file is nearer than the good one, and dots and slashes do not count on the way. From
a directory that is not there, the good one is the nearest. It lies above the working directory,
where two dots lead. A file that may not be read is there all the same. -/
theorem ofDirectory_nearest_broken :
    let blog : FileTree := .directory
      [("posts", .directory [("site.yaml", .file (some "base_url: myblog"))]),
        ("private", .directory [("site.yaml", .file (some "") false)])]
    let files : FileSystem := {
      root := .directory [("srv", .directory
        [("site.yaml", .file (some "base_url: http://myblog.net/")), ("blog", blog)])]
      workingDirectory := ["srv", "blog"]
      isSome_descend? := by decide +kernel }
    "posts/./2004//".toList.head? ≠ some '/' ∧
      ofDirectory files "posts/./2004//" = .error (.inFile "posts/site.yaml" .malformed) ∧
      "../drafts".toList.head? ≠ some '/' ∧
      ofDirectory files "../drafts" = .ok ⟨⟨"http", .authority { host := .name "myblog.net" },
        .segments [""], none, none⟩, Template.defaultFormat⟩ ∧
      "private".toList.head? ≠ some '/' ∧
      ofDirectory files "private"
        = .error (.inFile "private/site.yaml" (.unreadable .permissionDenied)) := by
  intro blog files
  have hbroken : "posts/./2004//".toList.head? ≠ some '/' := by decide
  have hgood : "../drafts".toList.head? ≠ some '/' := by decide
  have hprivate : "private".toList.head? ≠ some '/' := by decide
  obtain ⟨-, -, hposts, -⟩ := (ofDirectory_nearest hbroken).2.2 files
  obtain ⟨-, -, hdrafts, -⟩ := (ofDirectory_nearest hgood).2.2 files
  obtain ⟨-, -, hfiles, -⟩ := (ofDirectory_nearest hprivate).2.2 files
  refine ⟨hbroken, ?_, hgood, ?_, hprivate, ?_⟩
  · have hpaths : (FilePath.ofString "posts/./2004//").selfAndAbove
        = [FilePath.ofString "posts/./2004//"] ++ FilePath.ofString "posts" :: [⟨.none, []⟩] := by
      decide +kernel
    have hplace : (FilePath.ofString "posts").join fileName = "posts/site.yaml" := by
      decide +kernel
    have hread : files.read "posts/site.yaml" = .ok (some "base_url: myblog") :=
      eq_ok_of_toOption (by decide +kernel)
    have hyaml : ofYaml "base_url: myblog" = .error .malformed := by decide +kernel
    have hfound := (hposts _ _ _ hpaths (by decide +kernel) (by decide +kernel)).1 _
      (hplace ▸ hread)
    rwa [hplace, hyaml] at hfound
  · have hpaths : (FilePath.ofString "../drafts").selfAndAbove
        = [FilePath.ofString "../drafts"] ++ FilePath.ofString ".." :: [⟨.none, []⟩] := by
      decide +kernel
    have hplace : (FilePath.ofString "..").join fileName = "../site.yaml" := by decide +kernel
    have hread : files.read "../site.yaml" = .ok (some "base_url: http://myblog.net/") :=
      eq_ok_of_toOption (by decide +kernel)
    have hyaml : ofYaml "base_url: http://myblog.net/"
        = .ok ⟨⟨"http", .authority { host := .name "myblog.net" }, .segments [""], none, none⟩,
          Template.defaultFormat⟩ := by decide +kernel
    have hfound := (hdrafts _ _ _ hpaths (by decide +kernel) (by decide +kernel)).1 _
      (hplace ▸ hread)
    rwa [hplace, hyaml] at hfound
  · have hpaths : (FilePath.ofString "private").selfAndAbove
        = [] ++ FilePath.ofString "private" :: [⟨.none, []⟩] := by decide +kernel
    have hplace : (FilePath.ofString "private").join fileName = "private/site.yaml" := by
      decide +kernel
    have hread : files.read "private/site.yaml" = .error .permissionDenied := by decide +kernel
    have hfound := (hfiles _ _ _ hpaths (by decide +kernel) (by decide +kernel)).2.2 _
      (hplace ▸ hread)
    rw [hplace] at hfound
    exact hfound.2

end Config

end BlogRouting
