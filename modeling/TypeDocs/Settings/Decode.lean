import TypeDocs.Outline.Record
import TypeDocs.Settings.Basic

/-!
# Reading settings

Nothing has to be given.
-/

namespace TypeDocs.Settings

variable (d : Dialect)

def readFormat (o : Outline) : Except Fault Format := do
  let name ← d.variant (Format.all.map Format.name) o
  match Format.ofName? name with
  | some f => return f
  | none => throw (.unknownVariant name (Format.all.map Format.name))

def readPath (o : Outline) : Except Fault String := o.asTextFor .path

def outputRecord : Record OutputSettings where
  name := "OutputConfig"
  blank := {}
  fields := [
    ⟨["directory"], false, fun o s => return { s with directory := ← o.asOptional readPath }⟩,
    ⟨["file_name"], false, fun o s => return { s with fileName := ← o.asText }⟩,
    ⟨["append"], false, fun o s => return { s with append := ← o.asFlag }⟩,
    ⟨["color"], false, fun o s => return { s with color := ← o.asFlag }⟩]

def loggingRecord : Record LoggingSettings where
  name := "LoggingConfig"
  blank := {}
  fields := [
    ⟨["level"], false, fun o s => return { s with level := ← o.asOptional Outline.asText }⟩,
    ⟨["format"], false, fun o s => return { s with format := ← o.asOptional Outline.asText }⟩,
    ⟨["file"], false, fun o s => return { s with file := ← o.asOptional readPath }⟩]

def record : Record Settings where
  name := "Config"
  blank := {}
  fields := [
    ⟨["default_format"], false, fun o s =>
      return { s with format := ← o.asOptional (readFormat d) }⟩,
    ⟨["xml_documentation"], false, fun o s =>
      return { s with documentation := ← o.asOptional readPath }⟩,
    ⟨["output"], false, fun o s => return { s with output := ← outputRecord.read d o }⟩,
    ⟨["logging"], false, fun o s => return { s with logging := ← loggingRecord.read d o }⟩]

/-- The settings that an outline of a dialect holds. -/
def decode (o : Outline) : Except Fault Settings := (record d).read d o

end TypeDocs.Settings
