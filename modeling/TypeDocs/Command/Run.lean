import TypeDocs.Command.Arguments
import TypeDocs.Command.Notes
import TypeDocs.Command.Select
import TypeDocs.Command.Session
import TypeDocs.FileSystem.Save
import TypeDocs.Manifest.Describe
import TypeDocs.Manifest.Load
import TypeDocs.Settings.Load

/-!
# Running the program

A run reads its arguments, then its settings, sets up its log, and does its task. The first step
that fails decides how it ends; a log that cannot be set up ends nothing.
-/

namespace TypeDocs.Command

/-- What a run depends on besides its arguments and the files. -/
structure Host where
  environment : LogSetup.Variables
  homes : Settings.Homes
  /-- Whether output is shown on a terminal. -/
  terminal : Bool
  time : String
  /-- What is said of a command line that is not followed, for help or as a complaint. -/
  refusal : List String → Refusal → String
  /-- The script with which a shell completes command lines. -/
  script : Shell → String

structure Outcome where
  exitCode : Nat
  printed : Printed
  /-- The lines of the log that do not go into a file. -/
  logged : String
  files : FileSystem

/-- The file of documentation, given or set. -/
def ExportArguments.xml (a : ExportArguments) (s : Settings) : Option String :=
  a.documentation.or s.documentation

def ExportArguments.chosenFormat (a : ExportArguments) (s : Settings) : Format :=
  (a.format.or s.format).getD .markdown

def ExportArguments.chosenDirectory (a : ExportArguments) (s : Settings) : Option String :=
  a.directory.or s.output.directory

def ExportArguments.chosenName (a : ExportArguments) (s : Settings) : String :=
  a.fileName.getD s.output.fileName

def ExportArguments.appends (a : ExportArguments) (s : Settings) : Bool :=
  a.append || s.output.append

def types (s : Subject) (m : Manifest) : List TypeDescription :=
  match s with
  | .model => m.modelTypes
  | .controller => m.controllerTypes

def loadManifest (path : String) : Run Manifest := do
  let files ← Run.files
  if !files.has path then throw (.missing path)
  match Manifest.load files path with
  | .error e => throw (.document e)
  | .ok m =>
    Run.note Notes.manifestRead
    return m

/-- The documents of the types. -/
def produce (s : Subject) (xml : Option String) (f : Format) (types : List TypeDescription) :
    Run String :=
  Run.inside (Notes.exportSpan s) [] do
    let files ← Run.files
    Run.noteAll (Notes.describing s files xml types)
    return s.exportAll files xml f types

/-- Saves a document. -/
def save (directory name : String) (append : Bool) (document : String) : Run String :=
  Run.inside Notes.saveSpan [] do
    match (← Run.files).save directory [document] (some name) append with
    | (files, .error (path, e)) =>
      modify fun s => { s with files }
      throw (.document (.file path e))
    | (files, .ok path) =>
      modify fun s => { s with files }
      Run.note Notes.saved
      return path

/-- Prints a document or saves it. -/
def emit (a : ExportArguments) (s : Settings) (c : Console) (document : String) : Run Unit := do
  match a.chosenDirectory s with
  | none =>
    Run.note Notes.documentPrinted
    Run.print (Console.document document)
  | some directory =>
    let path ← save directory (a.chosenName s) (a.appends s) document
    Run.print (c.success ("✓ Saved to " ++ path))

/-- Documents the types of a manifest. -/
def exportTypes (subject : Subject) (a : ExportArguments) (s : Settings) (c : Console) : Run Unit :=
  Run.inside (Notes.taskSpan subject) [Notes.finished] do
    let manifest ← loadManifest a.manifest
    let selected ← match selectTypes subject.name (types subject manifest) a.types with
      | .ok ts => pure ts
      | .error e => throw e
    if selected.isEmpty then
      Run.print (c.warning (a.manifest ++ " declares no " ++ subject.name ++ "s"))
    else
      let f := a.chosenFormat s
      let message := "Documenting " ++ toString selected.length ++ " " ++ subject.name ++
        "(s) as " ++ f.name
      Run.note (Notes.infoPrinted message)
      Run.print (c.info message)
      emit a s c (← produce subject (a.xml s) f selected)

/-- How the keys of a format are cased. -/
def keyStyle : Format → String
  | .markdown | .csv => "-"
  | .json => "PascalCase"
  | .yaml => "camelCase"

def formatTable (c : Console) : Printed :=
  c.table ["Format", "Extension", "Keys"]
    (Format.all.map fun f => [f.name, f.extension, keyStyle f])

def Task.run (t : Task) (h : Host) (s : Settings) (c : Console) : Run Unit :=
  match t with
  | .models a => exportTypes .model a s c
  | .controllers a => exportTypes .controller a s c
  | .formats => Run.print (formatTable c)
  | .completions shell => Run.print ⟨h.script shell, ""⟩

/-- The task of a run inside its span. -/
def Task.logged (t : Task) (h : Host) (s : Settings) (c : Console) : Run Unit :=
  Run.inside Notes.runSpan [Notes.finished] do
    Run.note Notes.started
    t.run h s c

/-- What is printed about a failure that ends a run. -/
def reportFailure (colored : Bool) (f : Failure) : Printed :=
  .messageLine (f.report colored) ++
    (if f.isHelped then .messageLine "\nFor more information, try '--help'" else .none)

/-- What is printed about a usual file of settings that was passed over. -/
def passedOver (skipped : String × Failure) : Printed :=
  .messageLine ("Warning: Failed to load config from " ++ Text.quoted skipped.1 ++ ": " ++
    skipped.2.message)

def printAll (ps : List Printed) : Printed := ps.foldl (· ++ ·) .none

/-- How the log of an invocation is set up, and the warnings about it. A quiet run logs errors
only. -/
def logSetup (h : Host) (i : Invocation) (s : Settings) : LogSetup × List String :=
  let (setup, warnings) := LogSetup.ofAll i.verbosity s.logging h.environment
  (if i.quiet then { setup with level := "error", console := false } else setup, warnings)

/-- Does what an invocation asks for with settings that were loaded. -/
def carryOut (h : Host) (i : Invocation) (s : Settings) (before : Printed) (files : FileSystem) :
    Outcome :=
  let colored := !i.noColor && h.terminal && s.output.color
  let (setup, warnings) := logSetup h i s
  let before := before ++ printAll (warnings.map .messageLine)
  let session := (Session.setUpLog ⟨files, before, none, [], h.time, ""⟩ setup).note Notes.ready
  match (i.task.logged h s ⟨colored, i.quiet⟩).run session with
  | (.ok (), t) => ⟨0, t.printed, t.logged, t.files⟩
  | (.error f, t) => ⟨f.exitCode, t.printed ++ reportFailure colored f, t.logged, t.files⟩

def follow (h : Host) (i : Invocation) (files : FileSystem) : Outcome :=
  match Settings.load files h.homes i.settings with
  | .error f => ⟨f.exitCode, reportFailure (!i.noColor && h.terminal) f, "", files⟩
  | .ok (s, skipped) => carryOut h i s (printAll (skipped.map passedOver)) files

/-- The name under which the program is called. -/
def programName : String := "modeldoc"

def programVersion : String := "0.1.0"

def versionLine (c : Option CommandName) : String :=
  programName ++ c.elim "" (fun c => "-" ++ c.text) ++ " " ++ programVersion

/-- What becomes of a command line that is not followed. -/
def refuse (h : Host) (arguments : List String) (r : Refusal) (files : FileSystem) : Outcome :=
  match r with
  | .help => ⟨0, ⟨h.refusal arguments r, ""⟩, "", files⟩
  | .version c => ⟨0, .outputLine (versionLine c), "", files⟩
  | _ => ⟨2, ⟨"", h.refusal arguments r⟩, "", files⟩

/-- Runs the program. -/
def run (h : Host) (arguments : List String) (files : FileSystem) : Outcome :=
  match read h.environment arguments with
  | .error r => refuse h arguments r files
  | .ok i => follow h i files

end TypeDocs.Command
