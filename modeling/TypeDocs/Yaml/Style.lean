/-!
# How a YAML scalar is written
-/

namespace TypeDocs.Yaml

inductive Style where
  | plain
  | single
  | double
  | literal
  | folded
  deriving DecidableEq, Repr

end TypeDocs.Yaml
