import TypeDocs.Text.Blank

/-!
# What is printed

Documents and tables are printed as output, and messages apart from it, so that output can be
redirected. A quiet console leaves out all messages but warnings.
-/

namespace TypeDocs

/-- What is printed as output and what as messages. -/
structure Printed where
  output : String
  messages : String
  deriving DecidableEq, Repr

namespace Printed

def none : Printed := ⟨"", ""⟩

def append (p q : Printed) : Printed := ⟨p.output ++ q.output, p.messages ++ q.messages⟩

instance : Append Printed := ⟨append⟩

@[simp] theorem output_append (p q : Printed) : (p ++ q).output = p.output ++ q.output := rfl

@[simp] theorem messages_append (p q : Printed) : (p ++ q).messages = p.messages ++ q.messages :=
  rfl

theorem append_assoc (p q r : Printed) : p ++ q ++ r = p ++ (q ++ r) := by
  change mk _ _ = mk _ _
  rw [output_append, messages_append, String.append_assoc, String.append_assoc]
  rfl

theorem append_none (p : Printed) : p ++ none = p := by
  change mk (p.output ++ "") (p.messages ++ "") = p
  rw [String.append_empty, String.append_empty]

def outputLine (s : String) : Printed := ⟨s ++ "\n", ""⟩

def messageLine (s : String) : Printed := ⟨"", s ++ "\n"⟩

end Printed

/-- How a terminal shows a text. -/
inductive Paint where
  | bold
  | green
  | yellow
  | blue
  | boldRed
  deriving DecidableEq, Repr

namespace Paint

def code : Paint → String
  | .bold => "1"
  | .green => "32"
  | .yellow => "33"
  | .blue => "34"
  | .boldRed => "1;31"

def start (p : Paint) : List Char := '\x1b' :: '[' :: p.code.toList ++ ['m']

def stop : List Char := ['\x1b', '[', '0', 'm']

/-- The characters with the paint started again after each place where they stop it. -/
def restarted (p : Paint) : List Char → List Char
  | '\x1b' :: '[' :: '0' :: 'm' :: cs => stop ++ p.start ++ restarted p cs
  | c :: cs => c :: restarted p cs
  | [] => []

def apply (p : Paint) (s : String) : String :=
  .ofList (p.start ++ p.restarted s.toList ++ stop)

end Paint

structure Console where
  colored : Bool
  quiet : Bool
  deriving DecidableEq, Repr

namespace Console

variable (c : Console)

def paint (p : Paint) (s : String) : String := if c.colored then p.apply s else s

def document (s : String) : Printed := .outputLine s

def info (s : String) : Printed :=
  if c.quiet then .none
  else .messageLine ((if c.colored then Paint.blue.apply "ℹ" ++ " " else "INFO: ") ++ s)

def success (s : String) : Printed :=
  if c.quiet then .none else .messageLine (c.paint .green s)

def warning (s : String) : Printed :=
  .messageLine (if c.colored then Paint.yellow.apply s else "WARNING: " ++ s)

/-- The widths of the columns, each at least that of its header. -/
def widths (headers : List String) (rows : List (List String)) : List Nat :=
  headers.mapIdx fun i h =>
    rows.foldl (fun w row => max w ((row[i]?).elim 0 String.length)) h.length

/-- The text with spaces behind it up to a width. -/
def padded (width : Nat) (s : String) : String :=
  s ++ .ofList (List.replicate (width - s.length) ' ')

/-- The cells of a line. Those behind the last column are as wide as they are. -/
def cells : List Nat → List String → List String
  | w :: ws, cell :: row => padded w cell :: cells ws row
  | [], row => row
  | _, [] => []

def tableLine (widths : List Nat) (row : List String) : String :=
  Text.dropTrailing (" │ ".intercalate (cells widths row))

def rule (widths : List Nat) : String :=
  "─┼─".intercalate (widths.map fun w => .ofList (List.replicate w '─'))

/-- A table under its headers. -/
def table (headers : List String) (rows : List (List String)) : Printed :=
  let ws := widths headers rows
  let lines := c.paint .bold (tableLine ws headers) :: rule ws :: rows.map (tableLine ws)
  ⟨String.join (lines.map (· ++ "\n")), ""⟩

end Console

end TypeDocs
