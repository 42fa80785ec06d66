import TypeDocs.Attribute
import TypeDocs.Json.Basic

/-!
# Manifests

A manifest describes models and controllers as data.
-/

namespace TypeDocs.Manifest

/-- An attribute is written as its kind alone or in full. -/
inductive AttributeEntry where
  | bare (kind : String)
  | full (a : Attribute)
  deriving DecidableEq, Repr

structure ParameterEntry where
  name : String
  type : String
  optional : Bool
  deriving DecidableEq, Repr

structure MethodEntry where
  name : String
  /-- A verb, in short for an attribute. -/
  http : Option String
  attributes : List AttributeEntry
  parameters : List ParameterEntry
  isPublic : Bool
  isStatic : Bool
  isInherited : Bool
  deriving DecidableEq, Repr

structure PropertyEntry where
  name : String
  type : String
  attributes : List AttributeEntry
  /-- The sample value, which may be declared as null. -/
  default : Option Json
  isPublic : Bool
  isStatic : Bool
  deriving Repr

structure ModelEntry where
  name : String
  fullName : Option String
  /-- Whether there is a sample of the type. -/
  constructible : Bool
  attributes : List AttributeEntry
  properties : List PropertyEntry
  deriving Repr

structure ControllerEntry where
  name : String
  fullName : Option String
  /-- A route, in short for an attribute. -/
  route : Option String
  attributes : List AttributeEntry
  methods : List MethodEntry
  deriving DecidableEq, Repr

end TypeDocs.Manifest

namespace TypeDocs

structure Manifest where
  models : List Manifest.ModelEntry
  controllers : List Manifest.ControllerEntry
  deriving Repr

end TypeDocs
