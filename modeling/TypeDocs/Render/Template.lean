import TypeDocs.Descriptor.Basic
import TypeDocs.Format

/-!
# The lines of Markdown and CSV documents

Every template gives whole lines. What stands in a cell is written as it is.
-/

namespace TypeDocs.Template

def row (cells : List String) : TextFormat → String
  | .markdown => "| " ++ " | ".intercalate cells ++ " |\n"
  | .csv => ",".intercalate cells ++ "\n"

def modelHeader (name : String) : TextFormat → String
  | .markdown =>
    "# " ++ name ++ " Model\n\n| Property | Type | Description | Attributes | Value |\n" ++
      "|----------|------|-------------|------------|-------|\n"
  | .csv => name ++ " Model\nProperty,Type,Description,Attributes,Value\n"

def propertyCells (p : PropertyDescriptor) : List String :=
  [p.name, p.type, p.description, p.attributes, p.defaultValue]

def propertyRow (p : PropertyDescriptor) : TextFormat → String := row (propertyCells p)

def controllerHeader (name : String) : TextFormat → String
  | .markdown => "# " ++ name ++ " Controller\n"
  | .csv => name ++ " Controller\n"

def method (m : MethodDescriptor) : TextFormat → String
  | .markdown =>
    "## " ++ m.name ++ "\n- **HTTP Method:** " ++ m.verb ++ "\n- **Route:** `" ++ m.route ++
      "`\n- **Description:** " ++ m.description ++ "\n- **Parameters:**\n"
  | .csv =>
    m.name ++ ",HTTP Method," ++ m.verb ++ ",Route,`" ++ m.route ++ "`,Description," ++
      m.description ++ ",Parameters,\n"

def parametersHeader : TextFormat → String
  | .markdown => "| Name | Type | Required |\n|------|------|----------|\n"
  | .csv => "Name,Type,Required\n"

def parameterCells (p : ParameterDescriptor) : List String :=
  [p.name, p.type, if p.required then "Yes" else "No"]

def parameterRow (p : ParameterDescriptor) : TextFormat → String := row (parameterCells p)

def noParameters : TextFormat → String
  | .markdown => "  - No parameters.\n"
  | .csv => "-\n"

end TypeDocs.Template
