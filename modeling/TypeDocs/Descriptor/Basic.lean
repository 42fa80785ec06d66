/-!
# Descriptors

What documentation says about a type, with every text resolved and independent of how it is
written.
-/

namespace TypeDocs

structure PropertyDescriptor where
  name : String
  type : String
  description : String
  attributes : String
  defaultValue : String
  deriving DecidableEq, Repr

structure ModelDescriptor where
  name : String
  properties : List PropertyDescriptor
  deriving DecidableEq, Repr

structure ParameterDescriptor where
  name : String
  type : String
  required : Bool
  deriving DecidableEq, Repr

structure MethodDescriptor where
  name : String
  verb : String
  route : String
  description : String
  parameters : List ParameterDescriptor
  deriving DecidableEq, Repr

structure ControllerDescriptor where
  name : String
  routePrefix : String
  methods : List MethodDescriptor
  deriving DecidableEq, Repr

end TypeDocs
