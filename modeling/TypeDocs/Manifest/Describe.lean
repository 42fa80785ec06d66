import TypeDocs.Manifest.Basic
import TypeDocs.TypeDescription

/-!
# The types of a manifest

The sample of a model holds the declared values under the names of their properties, for each name
the last one.
-/

namespace TypeDocs.Manifest

def AttributeEntry.toAttribute : AttributeEntry → Attribute
  | .bare kind => .bare kind
  | .full a => a

/-- What the samples of models are instances of. -/
def sampleType : String := "Manifest"

def PropertyEntry.describe (p : PropertyEntry) : Property where
  name := p.name
  type := p.type
  attributes := p.attributes.map AttributeEntry.toAttribute
  isPublic := p.isPublic
  isStatic := p.isStatic
  getter := p.default.map fun _ => Getter.field sampleType p.name

/-- The values that the properties declare. -/
def declared (ps : List PropertyEntry) : List (String × SampleValue) :=
  ps.filterMap fun p => p.default.map fun j => (p.name, SampleValue.ofJson j)

def ModelEntry.describe (m : ModelEntry) : TypeDescription where
  name := m.name
  fullName := m.fullName.getD m.name
  attributes := m.attributes.map AttributeEntry.toAttribute
  properties := m.properties.map PropertyEntry.describe
  sample :=
    if m.constructible then some (.ok ⟨sampleType, distinct (declared m.properties)⟩) else none

def ParameterEntry.describe (p : ParameterEntry) : Parameter := ⟨p.name, p.type, p.optional⟩

def MethodEntry.describe (m : MethodEntry) : Method where
  name := m.name
  attributes :=
    (m.http.map Attribute.http).toList ++ m.attributes.map AttributeEntry.toAttribute
  parameters := m.parameters.map ParameterEntry.describe
  isPublic := m.isPublic
  isStatic := m.isStatic
  isInherited := m.isInherited

def ControllerEntry.describe (c : ControllerEntry) : TypeDescription where
  name := c.name
  fullName := c.fullName.getD c.name
  attributes :=
    (c.route.map Attribute.route).toList ++ c.attributes.map AttributeEntry.toAttribute
  methods := c.methods.map MethodEntry.describe

def modelTypes (m : Manifest) : List TypeDescription := m.models.map ModelEntry.describe

def controllerTypes (m : Manifest) : List TypeDescription :=
  m.controllers.map ControllerEntry.describe

end TypeDocs.Manifest
