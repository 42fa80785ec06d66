import TypeDocs.Text.Blank

/-!
# Formats of documentation
-/

namespace TypeDocs

/-- The formats in which every line is made from a template. -/
inductive TextFormat where
  | markdown
  | csv
  deriving DecidableEq, Repr

inductive Format where
  | markdown
  | csv
  | json
  | yaml
  deriving DecidableEq, Repr

namespace Format

def all : List Format := [.markdown, .csv, .json, .yaml]

def name : Format → String
  | .markdown => "markdown"
  | .csv => "csv"
  | .json => "json"
  | .yaml => "yaml"

/-- The usual ending of a file name. -/
def extension : Format → String
  | .markdown => "md"
  | .csv => "csv"
  | .json => "json"
  | .yaml => "yaml"

def ofName? (name : String) : Option Format := all.find? (·.name == name)

/-- The format that a user names: letter case and space around the name make no difference, and
two formats have a short name. -/
def parse? (s : String) : Option Format :=
  let name : String := .ofList ((Text.trim s.toList).map Char.toLower)
  if name == "md" then some .markdown
  else if name == "yml" then some .yaml
  else ofName? name

end Format

end TypeDocs
