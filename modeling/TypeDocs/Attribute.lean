import TypeDocs.Text.Affix
import TypeDocs.Text.Blank
import TypeDocs.Text.LetterCase

/-!
# Attributes

An attribute is attached to a type, a property or a method. Its kind may end in `Attribute`, which
is left out when it is shown and when kinds are compared.
-/

namespace TypeDocs

/-- An argument without a value is known to be there, but not what it is. -/
structure Argument where
  name : String
  value : Option String
  deriving DecidableEq, Repr

structure Attribute where
  kind : String
  arguments : List Argument
  deriving DecidableEq, Repr

namespace Attribute

def suffix : String := "Attribute"

/-- The kind without its suffix, unless it is nothing else. -/
def shorten (kind : String) : String :=
  match Text.dropSuffix? suffix kind with
  | some short => if short.isEmpty then kind else short
  | none => kind

def displayNameKind : String := "DisplayNameAttribute"

def documentationKind : String := "DocumentationAttribute"

def descriptionKind : String := "DescriptionAttribute"

def routeKind : String := "RouteAttribute"

/-- How every kind of an attribute that stands for a verb begins. -/
def verbStart : String := "Http"

def bare (kind : String) : Attribute := ⟨kind, []⟩

def single (kind name value : String) : Attribute := ⟨kind, [⟨name, some value⟩]⟩

def displayName : String → Attribute := single displayNameKind "displayName"

def documentation : String → Attribute := single documentationKind "summary"

def description : String → Attribute := single descriptionKind "description"

def route : String → Attribute := single routeKind "template"

/-- A verb with its first letter raised and the others lowered, each on its own. -/
def verbName : List Char → List Char
  | [] => []
  | c :: cs => Text.upperChar c ++ cs.flatMap Text.lowerChar

/-- The attribute that stands for a verb. -/
def http (verb : String) : Attribute :=
  bare (verbStart ++ .ofList (verbName verb.toList) ++ suffix)

variable (a : Attribute)

def shortKind : String := shorten a.kind

/-- Whether the attribute is of a kind, given with or without its suffix. -/
def hasKind (kind : String) : Bool := a.shortKind == shorten kind

/-- The argument of a name; letter case makes no difference. -/
def argument? (name : String) : Option Argument :=
  a.arguments.find? fun arg => Text.sameLetters arg.name name

def value? (name : String) : Option String := (a.argument? name).bind (·.value)

def firstValue? : Option String := a.arguments.head?.bind (·.value)

/-- The kind with the values that are known, in parentheses. -/
def render : String :=
  match a.arguments.filterMap (·.value) with
  | [] => a.shortKind
  | v :: vs => a.shortKind ++ "(" ++ ", ".intercalate (v :: vs) ++ ")"

end Attribute

abbrev Attributes := List Attribute

namespace Attributes

def ofKind? (as : Attributes) (kind : String) : Option Attribute := as.find? (·.hasKind kind)

/-- What the first attribute of a kind says under a name, or else first, unless that is blank. -/
def value? (as : Attributes) (kind name : String) : Option String := do
  let a ← as.ofKind? kind
  Text.nonBlank ((a.value? name).or a.firstValue?)

/-- What documentation says, else a description, else the given text. -/
def describe (as : Attributes) (external : Option String) : String :=
  let own := (as.value? Attribute.documentationKind "summary").or
    (as.value? Attribute.descriptionKind "description")
  match own.or external with
  | some s => Text.orMissing s
  | none => Text.missing

/-- All attributes as they are shown, in order. -/
def summary (as : Attributes) : String :=
  match as with
  | [] => Text.missing
  | as => ", ".intercalate (as.map Attribute.render)

end Attributes

end TypeDocs
