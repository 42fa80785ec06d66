import TypeDocs.Render.Template

/-!
# Markdown and CSV documents

A document has no white space at its end, and a blank line stands between two.
-/

namespace TypeDocs

def ModelDescriptor.lines (f : TextFormat) (m : ModelDescriptor) : String :=
  Template.modelHeader m.name f ++ String.join (m.properties.map (Template.propertyRow · f))

/-- The lines of a method, a blank one last. -/
def MethodDescriptor.lines (f : TextFormat) (m : MethodDescriptor) : String :=
  Template.method m f ++
    (match m.parameters with
    | [] => Template.noParameters f
    | ps => Template.parametersHeader f ++ String.join (ps.map (Template.parameterRow · f))) ++
    "\n"

def ControllerDescriptor.lines (f : TextFormat) (c : ControllerDescriptor) : String :=
  Template.controllerHeader c.name f ++ String.join (c.methods.map (MethodDescriptor.lines f))

def ModelDescriptor.toText (f : TextFormat) (m : ModelDescriptor) : String :=
  Text.dropTrailing (m.lines f)

def ControllerDescriptor.toText (f : TextFormat) (c : ControllerDescriptor) : String :=
  Text.dropTrailing (c.lines f)

/-- What stands between two documents. -/
def TextFormat.separator : String := "\n\n"

def TextFormat.batch (texts : List String) : String := TextFormat.separator.intercalate texts

end TypeDocs
