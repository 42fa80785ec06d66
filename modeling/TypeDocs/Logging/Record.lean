/-!
# Log records

A record has a level, a target, which says what part of the program it is from, and fields. It is
made inside spans, the innermost of which comes first.
-/

namespace TypeDocs

inductive LogLevel where
  | error
  | warn
  | info
  | debug
  | trace
  deriving DecidableEq, Repr

namespace LogLevel

def all : List LogLevel := [.error, .warn, .info, .debug, .trace]

def name : LogLevel → String
  | .error => "error"
  | .warn => "warn"
  | .info => "info"
  | .debug => "debug"
  | .trace => "trace"

/-- How talkative a level is. -/
def rank : LogLevel → Nat
  | .error => 1
  | .warn => 2
  | .info => 3
  | .debug => 4
  | .trace => 5

end LogLevel

structure LogSpan where
  name : String
  target : String
  fields : List String
  deriving DecidableEq, Repr

structure LogRecord where
  level : LogLevel
  target : String
  message : String
  fields : List String
  deriving DecidableEq, Repr

/-- A line of the log, of a given time. -/
def LogRecord.line (r : LogRecord) (time : String) (spans : List LogSpan) : String :=
  let level := r.level.name.map Char.toUpper
  let around := ":".intercalate (spans.reverse.map LogSpan.name)
  time ++ " " ++ (if level.length < 5 then " " else "") ++ level ++ " " ++
    (if around.isEmpty then "" else around ++ ": ") ++ r.target ++ ": " ++ r.message ++ "\n"

end TypeDocs
