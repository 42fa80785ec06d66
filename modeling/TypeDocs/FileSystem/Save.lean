import TypeDocs.FileSystem.Basic
import TypeDocs.Text.Blank

/-!
# Saving documents

Documents are saved into a file of a directory, which is made when it is not there. Each is
followed by a line break.
-/

namespace TypeDocs.FileSystem

/-- The name of the file when none is given. -/
def defaultName : String := "model_documentation.txt"

/-- The path of the file in a directory; a blank name is none. -/
def savePath (directory : String) (name : Option String) : String :=
  Path.join directory ((Text.nonBlank name).getD defaultName)

/-- What saving writes. -/
def lines (documents : List String) : ByteArray :=
  (String.join (documents.map (· ++ "\n"))).toUTF8

/-- Saves documents, behind what the file holds or in place of it. Gives the path of the file, or
the path at which saving fails and why. -/
def save (fs : FileSystem) (directory : String) (documents : List String) (name : Option String)
    (append : Bool) : FileSystem × Except (String × FileFault) String :=
  match fs.makeDirectories directory with
  | (fs, some e) => (fs, .error (directory, e))
  | (fs, none) =>
    let path := savePath directory name
    match fs.write path append (lines documents) with
    | .ok fs => (fs, .ok path)
    | .error e => (fs, .error (path, e))

end TypeDocs.FileSystem
