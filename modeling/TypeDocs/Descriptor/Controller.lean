import TypeDocs.Descriptor.Basic
import TypeDocs.Documentation
import TypeDocs.Route

/-!
# Describing controllers
-/

namespace TypeDocs

def Parameter.describe (p : Parameter) : ParameterDescriptor where
  name := Text.orMissing p.name
  type := Text.orMissing p.type
  required := !p.hasDefault

def Method.describe (t : TypeDescription) (docs : Documentation) (m : Method) :
    MethodDescriptor where
  name := m.name
  verb := m.verb
  route := m.route t.name t.routePrefix
  description := m.attributes.describe (docs.methodSummary t.fullName m.name)
  parameters := m.parameters.map Parameter.describe

/-- The descriptor of a controller: the methods it declares, in order. -/
def TypeDescription.describeController (t : TypeDescription) (docs : Documentation) :
    ControllerDescriptor where
  name := t.name
  routePrefix := t.routePrefix
  methods := t.declaredMethods.map (Method.describe t docs)

end TypeDocs
