import TypeDocs.Manifest.Basic
import TypeDocs.Outline.Record

/-!
# Reading manifests

Only names and types have to be given. An entry for an attribute is read with nothing expected of
it first, and then taken for a kind or, failing that, for an attribute in full.
-/

namespace TypeDocs.Manifest

/-- Data that was read with nothing expected: lists of fields have no item too many, and a field
may be named by its index. -/
def settled : Dialect where
  afterFields := some fun items stop =>
    match items with
    | [] => stop
    | _ => some (.noVariant "AttributeEntry")
  numberedFields := true
  variant := fun _ o => o.refuse .text

def argumentRecord : Record Argument where
  name := "AttributeArg"
  blank := ⟨"", none⟩
  fields := [
    ⟨["name"], true, fun o a => return { a with name := ← o.asText }⟩,
    ⟨["value"], false, fun o a => return { a with value := ← o.asOptional Outline.asText }⟩]

def attributeRecord : Record Attribute where
  name := "Attribute"
  blank := ⟨"", []⟩
  fields := [
    ⟨["kind"], true, fun o a => return { a with kind := ← o.asText }⟩,
    ⟨["args"], false, fun o a =>
      return { a with arguments := ← o.asList (argumentRecord.read settled) }⟩]

def AttributeEntry.read (o : Outline) : Except Fault AttributeEntry := do
  let o ← o.settle
  match o.asText, attributeRecord.read settled o with
  | .ok kind, _ => return .bare kind
  | .error _, .ok a => return .full a
  | .error _, .error _ => throw (.noVariant "AttributeEntry")

def readAttributes (o : Outline) : Except Fault (List AttributeEntry) :=
  o.asList AttributeEntry.read

def readOptionalText (o : Outline) : Except Fault (Option String) := o.asOptional Outline.asText

variable (d : Dialect)

def parameterRecord : Record ParameterEntry where
  name := "ParameterEntry"
  blank := ⟨"", "", false⟩
  fields := [
    ⟨["name"], true, fun o p => return { p with name := ← o.asText }⟩,
    ⟨["type"], true, fun o p => return { p with type := ← o.asText }⟩,
    ⟨["optional"], false, fun o p => return { p with optional := ← o.asFlag }⟩]

def methodRecord : Record MethodEntry where
  name := "MethodEntry"
  blank := ⟨"", none, [], [], true, false, false⟩
  fields := [
    ⟨["name"], true, fun o m => return { m with name := ← o.asText }⟩,
    ⟨["http"], false, fun o m => return { m with http := ← readOptionalText o }⟩,
    ⟨["attributes"], false, fun o m => return { m with attributes := ← readAttributes o }⟩,
    ⟨["parameters"], false, fun o m =>
      return { m with parameters := ← o.asList (parameterRecord.read d) }⟩,
    ⟨["public"], false, fun o m => return { m with isPublic := ← o.asFlag }⟩,
    ⟨["static"], false, fun o m => return { m with isStatic := ← o.asFlag }⟩,
    ⟨["inherited"], false, fun o m => return { m with isInherited := ← o.asFlag }⟩]

def propertyRecord : Record PropertyEntry where
  name := "PropertyEntry"
  blank := ⟨"", "", [], none, true, false⟩
  fields := [
    ⟨["name"], true, fun o p => return { p with name := ← o.asText }⟩,
    ⟨["type"], true, fun o p => return { p with type := ← o.asText }⟩,
    ⟨["attributes"], false, fun o p => return { p with attributes := ← readAttributes o }⟩,
    ⟨["default"], false, fun o p => return { p with default := some (← o.asJson) }⟩,
    ⟨["public"], false, fun o p => return { p with isPublic := ← o.asFlag }⟩,
    ⟨["static"], false, fun o p => return { p with isStatic := ← o.asFlag }⟩]

def modelRecord : Record ModelEntry where
  name := "ModelEntry"
  blank := ⟨"", none, true, [], []⟩
  fields := [
    ⟨["name"], true, fun o m => return { m with name := ← o.asText }⟩,
    ⟨["full_name", "fullName"], false, fun o m =>
      return { m with fullName := ← readOptionalText o }⟩,
    ⟨["constructible"], false, fun o m => return { m with constructible := ← o.asFlag }⟩,
    ⟨["attributes"], false, fun o m => return { m with attributes := ← readAttributes o }⟩,
    ⟨["properties"], false, fun o m =>
      return { m with properties := ← o.asList (propertyRecord.read d) }⟩]

def controllerRecord : Record ControllerEntry where
  name := "ControllerEntry"
  blank := ⟨"", none, none, [], []⟩
  fields := [
    ⟨["name"], true, fun o c => return { c with name := ← o.asText }⟩,
    ⟨["full_name", "fullName"], false, fun o c =>
      return { c with fullName := ← readOptionalText o }⟩,
    ⟨["route"], false, fun o c => return { c with route := ← readOptionalText o }⟩,
    ⟨["attributes"], false, fun o c => return { c with attributes := ← readAttributes o }⟩,
    ⟨["methods"], false, fun o c =>
      return { c with methods := ← o.asList ((methodRecord d).read d) }⟩]

def record : Record Manifest where
  name := "Manifest"
  blank := ⟨[], []⟩
  fields := [
    ⟨["models"], false, fun o m =>
      return { m with models := ← o.asList ((modelRecord d).read d) }⟩,
    ⟨["controllers"], false, fun o m =>
      return { m with controllers := ← o.asList ((controllerRecord d).read d) }⟩]

/-- The manifest that an outline of a dialect holds. -/
def decode (o : Outline) : Except Fault Manifest := (record d).read d o

end TypeDocs.Manifest
