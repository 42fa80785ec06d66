import TypeDocs.Error
import TypeDocs.FileSystem.Basic
import TypeDocs.Json.Reader
import TypeDocs.Manifest.Decode
import TypeDocs.Yaml.Outline

/-!
# Manifests in files

A manifest is written in JSON or in YAML. The extension of a file tells which.
-/

namespace TypeDocs.Manifest

def ofJson (s : String) : Except Fault Manifest := Json.readWith (decode Json.dialect) s

def ofYaml (s : String) : Except Fault Manifest := Yaml.readWith (decode Yaml.dialect) s

/-- Whether a file of this path is read as JSON. -/
def isJsonPath (path : String) : Bool :=
  (Path.extension? path).any (Text.sameLetters · "json")

/-- The manifest in a file. -/
def load (fs : FileSystem) (path : String) : Except DocumentError Manifest := do
  let s ← (fs.readText path).mapError (.file path)
  let read := if isJsonPath path then ofJson else ofYaml
  (read s).mapError fun f => .manifest path (.outline f)

end TypeDocs.Manifest
