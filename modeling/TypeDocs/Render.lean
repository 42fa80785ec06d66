import TypeDocs.Render.Structured
import TypeDocs.Render.Text

/-!
# Documents

A document can be written in every format, alone or in a batch with others.
-/

namespace TypeDocs

/-- What is written: lines made from templates, or a tree. -/
structure Document where
  text : TextFormat → String
  tree : Json

def ModelDescriptor.document (m : ModelDescriptor) : Document := ⟨(m.toText ·), m.toTree⟩

def ControllerDescriptor.document (c : ControllerDescriptor) : Document :=
  ⟨(c.toText ·), c.toTree⟩

namespace Format

def separator : Format → String
  | .markdown | .csv => TextFormat.separator
  | .json => Structured.jsonSeparator
  | .yaml => Structured.yamlSeparator

/-- A document in the format. -/
def render (f : Format) (d : Document) : String :=
  match f with
  | .markdown => d.text .markdown
  | .csv => d.text .csv
  | .json => Structured.toJson d.tree
  | .yaml => Structured.toYaml d.tree

/-- Documents in the format, one after the other. -/
def renderBatch (f : Format) (ds : List Document) : String :=
  match f with
  | .markdown => TextFormat.batch (ds.map (·.text .markdown))
  | .csv => TextFormat.batch (ds.map (·.text .csv))
  | .json => Structured.toJsonBatch (ds.map (·.tree))
  | .yaml => Structured.toYamlBatch (ds.map (·.tree))

end Format

end TypeDocs
