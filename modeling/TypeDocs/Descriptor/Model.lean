import TypeDocs.Descriptor.Basic
import TypeDocs.Documentation
import TypeDocs.TypeDescription

/-!
# Describing models

Each property is resolved on its own and always to something: what is missing shows as a marker.
-/

namespace TypeDocs

/-- The name that an attribute gives the property, else its own. -/
def Property.displayName (p : Property) : String :=
  (p.attributes.value? Attribute.displayNameKind "displayName").getD (Text.orMissing p.name)

def Property.describe (t : TypeDescription) (docs : Documentation) (p : Property) :
    PropertyDescriptor where
  name := p.displayName
  type := Text.orMissing p.type
  description := p.attributes.describe (docs.propertySummary t.fullName p.name)
  attributes := p.attributes.summary
  defaultValue := t.defaultValue p

/-- The descriptor of a model: its visible properties, in order. -/
def TypeDescription.describeModel (t : TypeDescription) (docs : Documentation) :
    ModelDescriptor where
  name := t.name
  properties := t.visibleProperties.map (Property.describe t docs)

end TypeDocs
