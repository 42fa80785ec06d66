import TypeDocs.Command.Failure
import TypeDocs.FileSystem.Basic
import TypeDocs.Json.Reader
import TypeDocs.Settings.Decode
import TypeDocs.Toml.Outline
import TypeDocs.Yaml.Outline

/-!
# Settings in files

Settings are read from the file that is given, which then has to be there and to be read, or else
from the first of the usual places where they can be read.
-/

namespace TypeDocs.Settings

/-- The settings in a file, in the format that its extension tells. -/
def ofFile (fs : FileSystem) (path : String) : Except Failure Settings := do
  let s ← (fs.readText path).mapError fun e => .file e.message
  match Path.extension? path with
  | some "yaml" | some "yml" =>
    (Yaml.readWith (decode Yaml.dialect) s).mapError fun f => .yaml f.message
  | some "json" => (Json.readWith (decode Json.dialect) s).mapError fun f => .json f.message
  | some "toml" => (Toml.readWith (decode Toml.dialect) s).mapError fun f => .toml f.message
  | _ => throw (.unknownExtension path "YAML, JSON or TOML")

/-- The directories of a user. -/
structure Homes where
  home : Option String
  settings : Option String
  deriving DecidableEq, Repr

/-- The places where settings are usually found, in the order in which they are tried. -/
def usualPaths (h : Homes) : List String :=
  [".modeldoc.yaml", ".modeldoc.yml", ".modeldoc.json", ".modeldoc.toml"] ++
    h.settings.toList.flatMap (fun dir =>
      ["config.yaml", "config.json", "config.toml"].map (Path.join (Path.join dir "modeldoc"))) ++
    h.home.toList.flatMap (fun dir =>
      [".modeldoc.yaml", ".modeldoc.json", ".modeldoc.toml"].map (Path.join dir))

/-- The settings of the first path that has any, and the failures met before. -/
def firstOf (fs : FileSystem) : List String → Settings × List (String × Failure)
  | [] => ({}, [])
  | path :: paths =>
    if fs.has path then
      match ofFile fs path with
      | .ok s => (s, [])
      | .error e =>
        let (s, failures) := firstOf fs paths
        (s, (path, e) :: failures)
    else firstOf fs paths

/-- The settings of the file that is given, or the usual ones, and the failures that were passed
over. -/
def load (fs : FileSystem) (h : Homes) (given : Option String) :
    Except Failure (Settings × List (String × Failure)) :=
  match given with
  | some path =>
    if !fs.has path then .error (.missing path)
    else match ofFile fs path with
      | .ok s => .ok (s, [])
      | .error e => .error (.settings (path ++ ": " ++ e.message))
  | none => .ok (firstOf fs (usualPaths h))

end TypeDocs.Settings
