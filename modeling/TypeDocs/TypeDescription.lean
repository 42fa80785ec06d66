import TypeDocs.Attribute
import TypeDocs.SampleValue

/-!
# Type descriptions

A type describes itself: its properties and methods in the order in which they are declared, and,
if it can be built without arguments, a sample of it. A property may have a getter, which reads
its value off the sample.
-/

namespace TypeDocs

/-- Why a sample is not there or a value cannot be read off it. -/
inductive SampleFault where
  | construction (type reason : String)
  | access (property reason : String)
  | wrongInstance (expected : String)
  deriving DecidableEq, Repr

def SampleFault.message : SampleFault → String
  | .construction type reason => "Failed to construct '" ++ type ++ "': " ++ reason
  | .access property reason => "Failed to read property '" ++ property ++ "': " ++ reason
  | .wrongInstance expected => "Instance is not a '" ++ expected ++ "'"

/-- A value of some type, by the values of its fields. -/
structure Instance where
  type : String
  fields : List (String × SampleValue)
  deriving Repr

abbrev Getter := Instance → Except SampleFault SampleValue

/-- Reads a field of an instance of the type, and of no other. -/
def Getter.field (type field : String) : Getter := fun i =>
  if i.type == type then
    match i.fields.lookup field with
    | some v => .ok v
    | none => .error (.access field "no default declared")
  else .error (.wrongInstance type)

structure Property where
  name : String
  type : String
  attributes : Attributes := []
  isPublic : Bool := true
  isStatic : Bool := false
  getter : Option Getter := none

structure Parameter where
  name : String
  type : String
  hasDefault : Bool := false
  deriving DecidableEq, Repr

structure Method where
  name : String
  attributes : Attributes := []
  parameters : List Parameter := []
  isPublic : Bool := true
  isStatic : Bool := false
  isInherited : Bool := false
  deriving DecidableEq, Repr

structure TypeDescription where
  name : String
  fullName : String := name
  attributes : Attributes := []
  properties : List Property := []
  methods : List Method := []
  /-- The sample, or why building it fails; absent when the type cannot be built. -/
  sample : Option (Except SampleFault Instance) := none

namespace TypeDescription

variable (t : TypeDescription)

def visibleProperties : List Property :=
  t.properties.filter fun p => p.isPublic && !p.isStatic

/-- The methods that the type itself declares for all to use. -/
def declaredMethods : List Method :=
  t.methods.filter fun m => m.isPublic && !m.isStatic && !m.isInherited

/-- The value that a property shows, or the marker for a missing one. -/
def defaultValue (p : Property) : String :=
  match t.sample, p.getter with
  | some (.ok i), some get => match get i with
    | .ok v => v.render
    | .error _ => Text.missing
  | _, _ => Text.missing

end TypeDescription

end TypeDocs
