/-!
# What is wrong with a TOML text
-/

namespace TypeDocs.Toml

inductive Malformed where
  | badKey
  | badValue
  | badNumber
  | badText
  | badMoment
  | lineEndExpected
  | duplicateKey (name : String)
  | notATable (name : String)
  | tooDeep
  deriving DecidableEq, Repr

def Malformed.message : Malformed → String
  | .badKey => "invalid key"
  | .badValue => "invalid value"
  | .badNumber => "invalid number"
  | .badText => "invalid string"
  | .badMoment => "invalid datetime"
  | .lineEndExpected => "expected newline, `#`"
  | .duplicateKey name => "duplicate key `" ++ name ++ "`"
  | .notATable name => "key `" ++ name ++ "` is no table"
  | .tooDeep => "recursion limit exceeded"

end TypeDocs.Toml
