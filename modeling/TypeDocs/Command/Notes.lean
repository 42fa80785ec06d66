import TypeDocs.Export
import TypeDocs.Logging.Record
import TypeDocs.Manifest.Basic

/-!
# What a run logs

The records of the steps of a run, and the spans in which they are made.
-/

namespace TypeDocs.Command.Notes

def ready : LogRecord := ⟨.debug, "modeldoc::logging", "Logging system initialized", ["config"]⟩

def started : LogRecord := ⟨.info, "modeldoc", "Executing command", ["command", "verbosity"]⟩

def finished : LogRecord :=
  ⟨.debug, "modeldoc::logging::timing", "Operation completed", ["operation", "duration_ms"]⟩

def manifestRead : LogRecord :=
  ⟨.debug, "modeldoc_core::manifest", "Loaded manifest", ["path", "models", "controllers"]⟩

def infoPrinted (message : String) : LogRecord :=
  ⟨.debug, "modeldoc::output", "Output info: " ++ message, []⟩

def documentPrinted : LogRecord := ⟨.debug, "modeldoc::output", "Writing document", ["bytes"]⟩

def saved : LogRecord :=
  ⟨.debug, "modeldoc_core::sink", "Saved documents", ["path", "documents", "append"]⟩

/-- The record about a file of documentation. -/
def documentation (files : FileSystem) (path : String) : LogRecord :=
  let target := "modeldoc_core::xmldoc"
  if !files.has path then ⟨.debug, target, "XML documentation file not found", ["path"]⟩
  else match Documentation.load files path with
    | .ok _ => ⟨.debug, target, "Loaded XML documentation", ["path", "members"]⟩
    | .error _ => ⟨.warn, target, "Ignoring unreadable XML documentation", ["path", "error"]⟩

def hasUnreadable (t : TypeDescription) (p : Property) : Bool :=
  match t.sample, p.getter with
  | some (.ok i), some get => !(get i).isOk
  | _, _ => false

/-- The records about describing a model. -/
def model (t : TypeDescription) : List LogRecord :=
  let target := "modeldoc_core::descriptor::property"
  let sample := match t.sample with
    | none => [⟨.debug, target, "No parameterless constructor", ["type_name"]⟩]
    | some (.error _) => [⟨.debug, target, "Sample construction failed", ["type_name", "error"]⟩]
    | some (.ok _) => []
  let reads := (t.visibleProperties.filter (hasUnreadable t)).map fun _ =>
    ⟨.debug, target, "Property read failed", ["type_name", "property", "error"]⟩
  let built : LogRecord := ⟨.trace, "modeldoc_core::descriptor::model", "Built model descriptor",
    ["model", "properties"]⟩
  sample ++ reads ++ [built]

def controller : LogRecord :=
  ⟨.trace, "modeldoc_core::descriptor::controller", "Built controller descriptor",
    ["controller", "route_prefix", "methods"]⟩

/-- The records about describing types, given the file of their documentation. -/
def describing (s : Subject) (files : FileSystem) (xml : Option String)
    (types : List TypeDescription) : List LogRecord :=
  (xml.map (documentation files)).toList ++ match s with
    | .model => types.flatMap model
    | .controller => types.map fun _ => controller

def runSpan : LogSpan := ⟨"run", "modeldoc", ["command"]⟩

def taskSpan (s : Subject) : LogSpan :=
  ⟨"handle_" ++ s.name, "modeldoc::handlers::" ++ s.name, ["manifest"]⟩

def exportSpan (s : Subject) : LogSpan :=
  ⟨"export_" ++ s.name ++ "s", "modeldoc_core::export", [s.name ++ "s", "format", "xml"]⟩

def saveSpan : LogSpan := ⟨"save_into_file", "modeldoc_core::sink", ["directory", "append"]⟩

end TypeDocs.Command.Notes
