import TypeDocs.Console
import TypeDocs.Error

/-!
# Why a command fails

Every kind of failure has an exit code of its own.
-/

namespace TypeDocs

inductive Failure where
  | file (cause : String)
  | document (cause : DocumentError)
  | missing (path : String)
  | unknownExtension (path expected : String)
  | settings (message : String)
  | arguments (message : String)
  | json (cause : String)
  | yaml (cause : String)
  | toml (cause : String)
  | other (message : String)
  deriving DecidableEq, Repr

namespace Failure

def exitCode : Failure → Nat
  | .file _ => 1
  | .document _ => 2
  | .missing _ => 3
  | .unknownExtension .. => 4
  | .settings _ => 5
  | .arguments _ => 6
  | .json _ => 12
  | .yaml _ => 13
  | .toml _ => 14
  | .other _ => 99

def message : Failure → String
  | .file cause => "IO error: " ++ cause
  | .document cause => cause.message
  | .missing path => "File not found: " ++ path
  | .unknownExtension path expected =>
    "Invalid file format for " ++ path ++ ": expected " ++ expected ++ " format"
  | .settings message => "Configuration error: " ++ message
  | .arguments message => "Invalid arguments: " ++ message
  | .json cause => "JSON error: " ++ cause
  | .yaml cause => "YAML error: " ++ cause
  | .toml cause => "TOML error: " ++ cause
  | .other message => message

/-- Whether a user is told where to read more. -/
def isHelped : Failure → Bool
  | .arguments _ => true
  | _ => false

/-- The line that tells of a failure. -/
def report (colored : Bool) (f : Failure) : String :=
  (if colored then Paint.boldRed.apply "Error:" else "Error:") ++ " " ++ f.message

theorem exitCode_pos (f : Failure) : 0 < f.exitCode := by cases f <;> simp [exitCode]

end Failure

end TypeDocs
