import TypeDocs.Command.Failure
import TypeDocs.FileSystem.Basic
import TypeDocs.Logging.Filter
import TypeDocs.Logging.Setup

/-!
# Sessions

What a run has done so far: the files as they are, what was printed, and the log. A record is
logged when it is made, so what is read afterwards from the file of the log holds it.
-/

namespace TypeDocs.Command

/-- Where records go that pass the filter: into a file or, without one, among the messages. -/
structure Log where
  filter : LogFilter
  path : Option String
  deriving DecidableEq, Repr

structure Session where
  files : FileSystem
  printed : Printed
  /-- The log, unless it could not be set up. -/
  log : Option Log
  spans : List LogSpan
  /-- The time that records show. -/
  time : String
  /-- The lines of the log that do not go into a file. -/
  logged : String

namespace Session

variable (s : Session)

def print (p : Printed) : Session := { s with printed := s.printed ++ p }

/-- Logs a record. Nothing comes of it when the file cannot be written. -/
def note (r : LogRecord) : Session :=
  match s.log with
  | none => s
  | some l =>
    if !l.filter.passes s.spans r then s
    else
      let line := r.line s.time s.spans
      match l.path with
      | none => { s with logged := s.logged ++ line }
      | some path => match s.files.write path true line.toUTF8 with
        | .ok files => { s with files }
        | .error _ => s

/-- The directory and the name of the file of a log. -/
def logPlace (path : String) : String × String :=
  let p := Path.parse path
  let names := p.names.filter (· != ".")
  let above := "/".intercalate names.dropLast
  let directory :=
    if names.isEmpty then "."
    else if p.absolute then "/" ++ above
    else if above.isEmpty then "."
    else above
  (directory, (Path.fileName? path).getD "modeldoc.log")

/-- The files with that of a log, made if it is not there, and its path or why it is not made. -/
def openLog (files : FileSystem) (path : String) : FileSystem × Except String String :=
  let (directory, name) := logPlace path
  let inside := Path.join directory name
  match files.write inside true .empty with
  | .ok files => (files, .ok inside)
  | .error _ => match files.makeDirectories directory with
    | (files, some e) =>
      (files, .error ("failed to create log directory: " ++ e.message))
    | (files, none) => match files.write inside true .empty with
      | .ok files => (files, .ok inside)
      | .error e => (files, .error ("failed to create initial log file: " ++ e.message))

/-- The session with a log that is set up, or a message that tells why it is not. -/
def setUpLog (setup : LogSetup) : Session :=
  let failed (s : Session) (message : String) :=
    s.print (.messageLine ("Failed to initialize logging: " ++ message))
  match LogFilter.parse setup.level with
  | .error e => failed s ("Invalid log level '" ++ setup.level ++ "': " ++ e.message)
  | .ok filter => match setup.file with
    | none => { s with log := some ⟨filter, none⟩ }
    | some path => match openLog s.files path with
      | (files, .ok inside) => { s with files, log := some ⟨filter, some inside⟩ }
      | (files, .error e) =>
        failed { s with files } ("Failed to open log file " ++ path ++ ": " ++ e)

end Session

/-- A part of a run. What it has done stays done when it fails. -/
abbrev Run := ExceptT Failure (StateM Session)

namespace Run

def print (p : Printed) : Run Unit := modify (·.print p)

def note (r : LogRecord) : Run Unit := modify (·.note r)

def noteAll (rs : List LogRecord) : Run Unit := rs.forM note

def files : Run FileSystem := return (← get).files

/-- Runs a part inside a span, and logs its end whether it fails or not. -/
def inside {α : Type} (span : LogSpan) (atEnd : List LogRecord) (part : Run α) : Run α :=
  fun s =>
    let (result, t) := part.run { s with spans := span :: s.spans }
    (result, { (atEnd.foldl Session.note t) with spans := s.spans })

end Run

end TypeDocs.Command
