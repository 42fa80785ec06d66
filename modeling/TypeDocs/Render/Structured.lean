import TypeDocs.Descriptor.Basic
import TypeDocs.Json.Printer
import TypeDocs.Json.Recase
import TypeDocs.Yaml.Printer

/-!
# JSON and YAML documents

A descriptor is a tree with its fields in order. In JSON the keys are in Pascal case, in YAML in
camel case.
-/

namespace TypeDocs

def PropertyDescriptor.toTree (p : PropertyDescriptor) : Json :=
  .object [("name", .text p.name), ("type", .text p.type), ("description", .text p.description),
    ("attributes", .text p.attributes), ("default_value", .text p.defaultValue)]

def ModelDescriptor.toTree (m : ModelDescriptor) : Json :=
  .object [("model_name", .text m.name),
    ("properties", .array (m.properties.map PropertyDescriptor.toTree))]

def ParameterDescriptor.toTree (p : ParameterDescriptor) : Json :=
  .object [("name", .text p.name), ("type", .text p.type), ("required", .flag p.required)]

def MethodDescriptor.toTree (m : MethodDescriptor) : Json :=
  .object [("method_name", .text m.name), ("http_verb", .text m.verb), ("route", .text m.route),
    ("description", .text m.description),
    ("parameters", .array (m.parameters.map ParameterDescriptor.toTree))]

def ControllerDescriptor.toTree (c : ControllerDescriptor) : Json :=
  .object [("controller_name", .text c.name), ("route_prefix", .text c.routePrefix),
    ("methods", .array (c.methods.map MethodDescriptor.toTree))]

namespace Structured

def toJson (tree : Json) : String := Json.pretty (Json.recase .pascal tree)

def toYaml (tree : Json) : String := Yaml.render (Json.recase .camel tree)

/-- JSON documents stand on lines of their own. -/
def jsonSeparator : String := "\n"

/-- YAML documents end with a line break, and a line of hyphens parts them. -/
def yamlSeparator : String := "---\n"

def toJsonBatch (trees : List Json) : String := jsonSeparator.intercalate (trees.map toJson)

def toYamlBatch (trees : List Json) : String := yamlSeparator.intercalate (trees.map toYaml)

end Structured

end TypeDocs
