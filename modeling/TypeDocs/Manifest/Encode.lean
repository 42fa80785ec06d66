import TypeDocs.Manifest.Basic

/-!
# Manifests as values

Every field is written, and one that is absent as null.
-/

namespace TypeDocs.Manifest

def optionalText (s : Option String) : Json := (s.map Json.text).getD .null

def encodeArgument (a : Argument) : Json :=
  .object [("name", .text a.name), ("value", optionalText a.value)]

def AttributeEntry.encode : AttributeEntry → Json
  | .bare kind => .text kind
  | .full a => .object [("kind", .text a.kind), ("args", .array (a.arguments.map encodeArgument))]

def encodeAttributes (as : List AttributeEntry) : Json := .array (as.map AttributeEntry.encode)

def ParameterEntry.encode (p : ParameterEntry) : Json :=
  .object [("name", .text p.name), ("type", .text p.type), ("optional", .flag p.optional)]

def MethodEntry.encode (m : MethodEntry) : Json :=
  .object [("name", .text m.name), ("http", optionalText m.http),
    ("attributes", encodeAttributes m.attributes),
    ("parameters", .array (m.parameters.map ParameterEntry.encode)),
    ("public", .flag m.isPublic), ("static", .flag m.isStatic),
    ("inherited", .flag m.isInherited)]

def PropertyEntry.encode (p : PropertyEntry) : Json :=
  .object [("name", .text p.name), ("type", .text p.type),
    ("attributes", encodeAttributes p.attributes), ("default", p.default.getD .null),
    ("public", .flag p.isPublic), ("static", .flag p.isStatic)]

def ModelEntry.encode (m : ModelEntry) : Json :=
  .object [("name", .text m.name), ("full_name", optionalText m.fullName),
    ("constructible", .flag m.constructible), ("attributes", encodeAttributes m.attributes),
    ("properties", .array (m.properties.map PropertyEntry.encode))]

def ControllerEntry.encode (c : ControllerEntry) : Json :=
  .object [("name", .text c.name), ("full_name", optionalText c.fullName),
    ("route", optionalText c.route), ("attributes", encodeAttributes c.attributes),
    ("methods", .array (c.methods.map MethodEntry.encode))]

/-- The manifest as a value. -/
def encode (m : Manifest) : Json :=
  .object [("models", .array (m.models.map ModelEntry.encode)),
    ("controllers", .array (m.controllers.map ControllerEntry.encode))]

end TypeDocs.Manifest
