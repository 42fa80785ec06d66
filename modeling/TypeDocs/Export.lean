import TypeDocs.Descriptor.Controller
import TypeDocs.Descriptor.Model
import TypeDocs.Error
import TypeDocs.FileSystem.Basic
import TypeDocs.Render

/-!
# Exporting types

The types of a list are described and written in one format. Nothing about a type or about the
file with its documentation makes an export fail.
-/

namespace TypeDocs

namespace Documentation

/-- The documentation in a file. -/
def load (fs : FileSystem) (path : String) : Except DocumentError Documentation := do
  let xml ← (fs.readText path).mapError (.file path)
  (parse xml).mapError fun m => .documentation path (.xml m)

/-- The documentation in a file, none when it cannot be read. -/
def loadOrEmpty (fs : FileSystem) (path : String) : Documentation :=
  match load fs path with
  | .ok d => d
  | .error _ => empty

/-- The documentation in a file, if one is given. -/
def fromOption (fs : FileSystem) (path : Option String) : Documentation :=
  match path with
  | some path => loadOrEmpty fs path
  | none => empty

end Documentation

/-- What types are described as. -/
inductive Subject where
  | model
  | controller
  deriving DecidableEq, Repr

namespace Subject

def name : Subject → String
  | .model => "model"
  | .controller => "controller"

def document (s : Subject) (docs : Documentation) (t : TypeDescription) : Document :=
  match s with
  | .model => (t.describeModel docs).document
  | .controller => (t.describeController docs).document

/-- The documents of all types, in order. -/
def exportAll (s : Subject) (fs : FileSystem) (xml : Option String) (f : Format)
    (types : List TypeDescription) : String :=
  f.renderBatch (types.map (s.document (Documentation.fromOption fs xml)))

def exportOne (s : Subject) (fs : FileSystem) (xml : Option String) (f : Format)
    (type : TypeDescription) : String :=
  f.render (s.document (Documentation.fromOption fs xml) type)

end Subject

end TypeDocs
