import TypeDocs.Settings.Basic
import TypeDocs.Text.LetterCase

/-!
# How a run is logged

The verbosity of a run, the settings and the variables of its environment decide, and of two that
say something about the same the later one counts. The level of the settings counts only where the
verbosity is the least.
-/

namespace TypeDocs

inductive LogStyle where
  | compact
  | full
  | json
  deriving DecidableEq, Repr

def LogStyle.parse? (s : String) : Option LogStyle :=
  [("compact", LogStyle.compact), ("full", .full), ("json", .json)].lookup (Text.lowerText s)

structure LogSetup where
  level : String
  style : LogStyle
  console : Bool
  file : Option String
  threads : Bool
  places : Bool
  deriving DecidableEq, Repr

namespace LogSetup

def ofVerbosity : Nat → LogSetup
  | 0 => ⟨"warn", .compact, true, none, false, false⟩
  | 1 => ⟨"info", .compact, true, none, false, false⟩
  | 2 => ⟨"debug", .compact, true, none, false, true⟩
  | _ => ⟨"trace", .full, true, none, true, true⟩

/-- Warns of a name that is no style. -/
def badStyle (name : String) : String :=
  "Warning: Invalid log format '" ++ name ++ "', using default"

/-- Takes the style with a name, or gives a warning. -/
def withStyle (l : LogSetup) (name : Option String) : LogSetup × List String :=
  match name with
  | none => (l, [])
  | some name => match LogStyle.parse? name with
    | some style => ({ l with style }, [])
    | none => (l, [badStyle name])

def withSettings (l : LogSetup) (verbosity : Nat) (s : LoggingSettings) :
    LogSetup × List String :=
  let level := if verbosity == 0 then s.level.getD l.level else l.level
  { l with level, file := s.file.or l.file }.withStyle s.format

/-- The variables of an environment. -/
abbrev Variables := List (String × String)

def withVariables (l : LogSetup) (v : Variables) : LogSetup × List String :=
  { l with
    level := (v.lookup "RUST_LOG").getD l.level
    file := (v.lookup "MODELDOC_LOG_FILE").or l.file }.withStyle (v.lookup "MODELDOC_LOG_FORMAT")

/-- The setup of a run, and the warnings about it. -/
def ofAll (verbosity : Nat) (s : LoggingSettings) (v : Variables) : LogSetup × List String :=
  let (l, first) := (ofVerbosity verbosity).withSettings verbosity s
  let (l, second) := l.withVariables v
  (l, first ++ second)

end LogSetup

end TypeDocs
