import BlogRouting.Datum
import BlogRouting.Files.Path
import BlogRouting.Files.Tree
import BlogRouting.Template.Compile
import BlogRouting.Url.Parse
import BlogRouting.Yaml.Load

/-!
# Configuration

A site is configured by its base URL and its permalink format. The format is compiled as soon as
the configuration is made, so that a bad one is reported then. A configuration file is looked for in
a directory and in those above it, and the nearest one counts, even if it is broken.
-/

namespace BlogRouting

structure Config where
  /-- The URL of the site, whose path ends in a slash where it can. -/
  baseUrl : Url
  format : String
  deriving DecidableEq, Repr

/-- Why there is no configuration. -/
inductive ConfigError where
  | notFound
  | compile (error : CompileError)
  /-- What was read is no configuration. -/
  | malformed
  | unreadable (error : FileError)
  /-- What is wrong with the file at a path. -/
  | inFile (path : String) (error : ConfigError)
  deriving DecidableEq, Repr

namespace Config

/-- The name of a configuration file. -/
def fileName : String := "site.yaml"

end Config

namespace ConfigError

/-- The explanation, except for a malformed text, about which nothing more is known. -/
def message? : ConfigError → Option String
  | notFound => some ("could not find `" ++ Config.fileName ++ "` in any parent directory")
  | compile error => some error.message
  | malformed => none
  | unreadable error => some error.message
  | inFile path error => error.message?.map ("loading `" ++ path ++ "`: " ++ ·)

/-- The explanation of the error underneath, if there is one. -/
def cause? : ConfigError → Option String
  | notFound => none
  | compile error => some error.message
  | malformed => none
  | unreadable error => some error.message
  | inFile _ error => error.message?

end ConfigError

namespace Config

/-- The URL with a slash put at the end of its path unless there is one. -/
def closeWithSlash (url : Url) : Url :=
  let path := url.path.text
  if path.toList.getLast? = some '/' then url else url.withPath (path ++ "/")

/-- The configuration of a site at a URL, if the format compiles. -/
def new (baseUrl : Url) (format : String) : Except ConfigError Config :=
  match Template.compile format with
  | .error e => .error (.compile e)
  | .ok _ => .ok { baseUrl := closeWithSlash baseUrl, format }

def fieldNames : List String := ["base_url", "permalink_format"]

/-- The base URL and the format in a record. A format that is not there is the default one. -/
def fieldsOfDatum? (d : Datum) : Option (Url × String) := do
  let [baseUrl, format] ← d.fields? fieldNames | none
  let baseUrl ← Datum.required? Datum.text? baseUrl
  let format ← Datum.defaulted? Template.defaultFormat Datum.text? format
  return (← (Url.parse baseUrl).toOption, format)

/-- The configuration that a text describes. -/
def ofYaml (text : String) : Except ConfigError Config :=
  match (Yaml.load? text).bind fieldsOfDatum? with
  | none => .error .malformed
  | some (baseUrl, format) => new baseUrl format

/-- The configuration in what reading a file gave. What is no text holds none. -/
def ofContent : Except FileError (Option String) → Except ConfigError Config
  | .error e => .error (.unreadable e)
  | .ok none => .error .malformed
  | .ok (some text) => ofYaml text

/-- The configuration in the file at a path. -/
def ofFile (files : FileSystem) (path : String) : Except ConfigError Config :=
  (ofContent (files.read path)).mapError (.inFile path)

/-- The paths at which the configuration of a directory may be, from the nearest on. -/
def candidates (directory : String) : List String :=
  (FilePath.ofString directory).selfAndAbove.map (·.join fileName)

/-- The configuration in the nearest file for a directory. -/
def ofDirectory (files : FileSystem) (directory : String) : Except ConfigError Config :=
  match (candidates directory).find? files.contains with
  | none => .error .notFound
  | some path => ofFile files path

end Config

end BlogRouting
