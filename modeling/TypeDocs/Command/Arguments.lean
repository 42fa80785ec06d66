import TypeDocs.Command.Grammar
import TypeDocs.Descriptor.Basic
import TypeDocs.Text.Affix

/-!
# Reading command lines

Arguments are read from left to right. The value of an option is looked at when the next argument
says that the option is complete, or at the end; a value that is written in one argument with its
option is looked at at once. The level of the command is read and checked before that of the
program is checked. Where both say something the command counts, unless its value only comes from
the environment.
-/

namespace TypeDocs.Command

/-- Why a command line is not followed. -/
inductive Refusal where
  | unknownArgument
  | tooManyValues
  | conflict
  | badValue
  | badCommand
  | commandMissing
  | operandMissing
  | help
  /-- The version of the program or of a command. -/
  | version (c : Option CommandName)
  /-- Nothing was given at all. -/
  | nothingGiven
  deriving DecidableEq, Repr

/-- What was given at a level. -/
structure Level where
  /-- The values of an item, in order; a flag has an empty one each time. -/
  given : List (Item × String) := []
  /-- An item that may not be complete, with its value if it has one. -/
  pending : Option (Item × Option String) := none
  operandRead : Bool := false
  deriving DecidableEq, Repr

namespace Level

variable (l : Level)

def values (i : Item) : List String := (l.given.filter (·.1 == i)).map (·.2)

def has (i : Item) : Bool := l.given.any (·.1 == i)

def value? (i : Item) : Option String := (l.values i).head?

def add (i : Item) (s : String) : Level := { l with given := l.given ++ [(i, s)] }

/-- Whether the next argument is the value of an option. -/
def awaitsValue : Bool := l.pending.any (·.2.isNone)

/-- Takes an item with its value, if it has one. -/
def take (g : Grammar) (c : Option CommandName) (i : Item) (value : Option String) :
    Except Refusal Level :=
  match g.action i, value with
  | .help, _ => .error .help
  | .version, _ => .error (.version c)
  | .count, _ => .ok (l.add i "")
  | .flag, _ => if l.has i then .error .conflict else .ok (l.add i "")
  | .value, none | .values, none => .error .badValue
  | .value, some s =>
    if l.has i then .error .conflict
    else if i.accepts s then .ok (l.add i s)
    else .error .badValue
  | .values, some s => if i.accepts s then .ok (l.add i s) else .error .badValue

/-- Takes the pending item. -/
def settle (g : Grammar) (c : Option CommandName) : Except Refusal Level :=
  match l.pending with
  | none => .ok l
  | some (i, value) => { l with pending := none }.take g c i value

def await (i : Item) (value : Option String) : Level := { l with pending := some (i, value) }

end Level

/-- What a level is, and what was given there so far. -/
structure Reading where
  grammar : Grammar
  command : Option CommandName
  level : Level

namespace Reading

variable (r : Reading)

def settle : Except Refusal Reading := do
  return { r with level := ← r.level.settle r.grammar r.command }

def take (i : Item) (value : Option String) : Except Refusal Reading := do
  let r ← r.settle
  return { r with level := ← r.level.take r.grammar r.command i value }

def await (i : Item) (value : Option String) : Except Refusal Reading := do
  let r ← r.settle
  return { r with level := r.level.await i value }

/-- Takes an option with a value in the same argument, or awaits it. -/
def takeOption (i : Item) (attached : Option String) : Except Refusal Reading :=
  match attached with
  | some s => r.take i (some s)
  | none => r.await i none

/-- Reads an argument with a long name. -/
def readLong (name : List Char) : Except Refusal Reading :=
  let key : String := .ofList (name.takeWhile (· != '='))
  let attached := match name.dropWhile (· != '=') with
    | _ :: value => some (String.ofList value)
    | [] => none
  match r.grammar.long? key with
  | none => .error .unknownArgument
  | some rule =>
    if rule.action.takesValue then r.takeOption rule.item attached
    else if attached.isSome then .error .tooManyValues
    else r.take rule.item none

/-- Reads the letters of an argument. What follows the letter of an option with a value is that
value. -/
def readShort : List Char → Reading → Except Refusal Reading
  | [], r => .ok r
  | c :: cs, r => match r.grammar.short? c with
    | none => .error .unknownArgument
    | some rule =>
      if rule.action.takesValue then
        r.takeOption rule.item (match cs with
          | [] => none
          | '=' :: value => some (.ofList value)
          | value => some (.ofList value))
      else do readShort cs (← r.take rule.item none)

/-- The fault of an argument that is neither an option nor an operand. -/
def unmatched (trailing : Bool) (argument : String) : Refusal :=
  let isCommand := (CommandName.ofText? argument).isSome || argument == "help"
  if !r.grammar.hasCommand || (trailing && isCommand) then .unknownArgument else .badCommand

/-- Reads an argument as an operand. -/
def readOperand (trailing : Bool) (argument : String) : Except Refusal Reading :=
  match r.grammar.operand with
  | some i =>
    if r.level.operandRead then .error (r.unmatched trailing argument)
    else do
      let r ← r.await i (some argument)
      return { r with level := { r.level with operandRead := true } }
  | none => .error (r.unmatched trailing argument)

/-- What the argument `help` shows, given what follows it. -/
def helpFor : List String → Refusal
  | [] => .help
  | [name] => if (CommandName.ofText? name).isSome || name == "help" then .help else .badCommand
  | _ => .badCommand

/-- Reads the arguments of a level, up to the name of a command. -/
def readAll (trailing : Bool) : List String → Reading →
    Except Refusal (Reading × Option (CommandName × List String))
  | [], r => .ok (r, none)
  | argument :: rest, r =>
    let cs := argument.toList
    if trailing then do readAll true rest (← r.readOperand true argument)
    else
      let mayBeCommand := r.grammar.hasCommand && !r.level.awaitsValue
      match CommandName.ofText? argument with
      | some c => if mayBeCommand then .ok (r, some (c, rest)) else onward argument rest cs r
      | none =>
        if mayBeCommand && argument == "help" then .error (helpFor rest)
        else onward argument rest cs r
where
  onward (argument : String) (rest : List String) (cs : List Char) (r : Reading) :
      Except Refusal (Reading × Option (CommandName × List String)) :=
    match cs with
    | ['-', '-'] => readAll true rest r
    | '-' :: '-' :: name => do readAll false rest (← r.readLong name)
    | '-' :: c :: letters => do readAll false rest (← readShort (c :: letters) r)
    | _ => match r.level.pending with
      | some (i, none) => readAll false rest { r with level := r.level.await i (some argument) }
      | _ => do readAll false rest (← r.readOperand false argument)

end Reading

/-- The variable that gives the file of the settings where no argument does. -/
def settingsVariable : String := "MODELDOC_CONFIG"

/-- A level that was read and checked, and the file of the settings that the environment gives. -/
structure Checked where
  level : Level
  fromVariable : Option String
  deriving DecidableEq, Repr

/-- Checks a level that was read to its end, given the value of the variable. -/
def check (variable_ : Option String) (command : Option CommandName) (r : Reading) :
    Except Refusal Checked := do
  let l := (← r.settle).level
  let fromVariable := if l.has .settings then none else variable_
  if !fromVariable.all Item.settings.accepts then throw .badValue
  if r.grammar.hasCommand && command.isNone then
    throw (if l.given.isEmpty && fromVariable.isNone then .nothingGiven else .commandMissing)
  if l.has .quiet && l.has .verbose then throw .conflict
  if r.grammar.operand.any fun i => !l.has i then throw .operandMissing
  return ⟨l, fromVariable⟩

/-- The arguments of a command that exports. -/
structure ExportArguments where
  manifest : String
  format : Option Format
  types : List String
  documentation : Option String
  directory : Option String
  fileName : Option String
  append : Bool
  deriving DecidableEq, Repr

inductive Task where
  | models (a : ExportArguments)
  | controllers (a : ExportArguments)
  | formats
  | completions (s : Shell)
  deriving DecidableEq, Repr

structure Invocation where
  verbose : Nat
  quiet : Bool
  settings : Option String
  noColor : Bool
  task : Task
  deriving DecidableEq, Repr

/-- How talkative a run is. -/
def Invocation.verbosity (i : Invocation) : Nat := if i.quiet then 0 else i.verbose

def Level.exportArguments (l : Level) : ExportArguments where
  manifest := (l.value? .manifest).getD ""
  format := (l.value? .format).bind Format.ofName?
  types := l.values .type
  documentation := l.value? .documentation
  directory := l.value? .directory
  fileName := l.value? .fileName
  append := l.has .append

def Level.task (l : Level) : CommandName → Task
  | .model => .models l.exportArguments
  | .controller => .controllers l.exportArguments
  | .formats => .formats
  | .completions => .completions (((l.value? .shell).bind Shell.ofArgument?).getD .bash)

/-- The largest count of an option. -/
def countLimit : Nat := 255

/-- What the levels of the program and its command say together. -/
def combine (program command : Checked) (c : CommandName) : Invocation where
  verbose :=
    let count (k : Checked) := min countLimit (k.level.values .verbose).length
    if command.level.has .verbose then count command else count program
  quiet := program.level.has .quiet || command.level.has .quiet
  settings :=
    ((command.level.value? .settings).or (program.level.value? .settings)).or
      (command.fromVariable.or program.fromVariable)
  noColor := program.level.has .noColor || command.level.has .noColor
  task := command.level.task c

/-- Reads the arguments of a command line, the name of the program left out. -/
def read (environment : List (String × String)) (arguments : List String) :
    Except Refusal Invocation := do
  let variable_ := environment.lookup settingsVariable
  let (program, command) ← Reading.readAll false arguments ⟨.program, none, {}⟩
  match command with
  | none => do
    let _ ← check variable_ none program
    throw .commandMissing
  | some (c, rest) =>
    let (r, _) ← Reading.readAll false rest ⟨.ofCommand c, some c, {}⟩
    let command ← check variable_ (some c) r
    let program ← check variable_ (some c) program
    return combine program command c

end TypeDocs.Command
