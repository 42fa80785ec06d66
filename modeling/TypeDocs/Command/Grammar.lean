import TypeDocs.Format

/-!
# The grammar of command lines

A command line has a level for the program and one for its command. At every level stand options,
with a name of one letter, a long name or both, and at most one operand.
-/

namespace TypeDocs.Command

/-- What is given on a command line. -/
inductive Item where
  | verbose
  | quiet
  | settings
  | noColor
  | help
  | version
  | manifest
  | format
  | type
  | documentation
  | directory
  | fileName
  | append
  | shell
  deriving DecidableEq, Repr

inductive Action where
  /-- Takes a value, and is given once. -/
  | value
  /-- Takes a value each time that it is given. -/
  | values
  /-- Is given once. -/
  | flag
  /-- Counts how often it is given. -/
  | count
  | help
  | version
  deriving DecidableEq, Repr

def Action.takesValue : Action → Bool
  | .value | .values => true
  | _ => false

structure Rule where
  item : Item
  short : Option Char
  long : Option String
  action : Action
  deriving DecidableEq, Repr

inductive CommandName where
  | model
  | controller
  | formats
  | completions
  deriving DecidableEq, Repr

def CommandName.all : List CommandName := [.model, .controller, .formats, .completions]

def CommandName.text : CommandName → String
  | .model => "model"
  | .controller => "controller"
  | .formats => "formats"
  | .completions => "completions"

def CommandName.ofText? (s : String) : Option CommandName := all.find? (·.text == s)

inductive Shell where
  | bash
  | zsh
  | fish
  | powerShell
  | elvish
  deriving DecidableEq, Repr

namespace Shell

def all : List Shell := [.bash, .zsh, .fish, .powerShell, .elvish]

def name : Shell → String
  | .bash => "bash"
  | .zsh => "zsh"
  | .fish => "fish"
  | .powerShell => "powershell"
  | .elvish => "elvish"

/-- How it is written on a command line. -/
def argument : Shell → String
  | .powerShell => "power-shell"
  | s => s.name

def ofArgument? (s : String) : Option Shell := all.find? (·.argument == s)

end Shell

structure Grammar where
  rules : List Rule
  operand : Option Item
  /-- Whether a command follows. -/
  hasCommand : Bool

/-- The options of every level. -/
def commonRules : List Rule :=
  [⟨.verbose, some 'v', some "verbose", .count⟩,
    ⟨.quiet, some 'q', some "quiet", .flag⟩,
    ⟨.settings, some 'c', some "config", .value⟩,
    ⟨.noColor, none, some "no-color", .flag⟩,
    ⟨.help, some 'h', some "help", .help⟩,
    ⟨.version, some 'V', some "version", .version⟩]

def exportRules : List Rule :=
  [⟨.format, some 'f', some "format", .value⟩,
    ⟨.type, some 't', some "type", .values⟩,
    ⟨.documentation, none, some "xml-doc", .value⟩,
    ⟨.directory, none, some "save-to", .value⟩,
    ⟨.fileName, none, some "file-name", .value⟩,
    ⟨.append, none, some "append", .flag⟩]

namespace Grammar

def program : Grammar := ⟨commonRules, none, true⟩

def ofCommand : CommandName → Grammar
  | .model | .controller => ⟨exportRules ++ commonRules, some .manifest, false⟩
  | .formats => ⟨commonRules, none, false⟩
  | .completions => ⟨commonRules, some .shell, false⟩

def short? (g : Grammar) (c : Char) : Option Rule := g.rules.find? (·.short == some c)

def long? (g : Grammar) (name : String) : Option Rule := g.rules.find? (·.long == some name)

/-- What is given more than once or takes a value is told by the rule of its item; an operand is a
value. -/
def action (g : Grammar) (i : Item) : Action :=
  ((g.rules.find? (·.item == i)).map Rule.action).getD .value

end Grammar

/-- Whether a text may be the value of an item. -/
def Item.accepts (i : Item) (s : String) : Bool :=
  match i with
  | .settings | .manifest | .documentation | .directory => !s.isEmpty
  | .format => (Format.ofName? s).isSome
  | .shell => (Shell.ofArgument? s).isSome
  | _ => true

end TypeDocs.Command
