import TypeDocs.Yaml.Style

/-!
# The tokens of a YAML text

Indentation is told by tokens of its own: a token opens every list and table of a block, and
`blockEnd` closes it.
-/

namespace TypeDocs.Yaml

inductive Token where
  | version (major minor : Nat)
  | shorthand (handle lead : String)
  | documentStart
  | documentEnd
  | blockList
  | blockTable
  | blockEnd
  | flowList
  | flowListEnd
  | flowTable
  | flowTableEnd
  | dash
  | comma
  | key
  | value
  | alias (name : String)
  | anchor (name : String)
  | tag (handle suffix : String)
  | scalar (text : String) (style : Style)
  deriving DecidableEq, Repr

end TypeDocs.Yaml
