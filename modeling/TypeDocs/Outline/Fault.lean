import TypeDocs.Json.Basic
import TypeDocs.Json.Malformed
import TypeDocs.Text.Quoted
import TypeDocs.Toml.Malformed
import TypeDocs.Yaml.Malformed

/-!
# Why data does not read as what is expected

Either its text is malformed, or it is well formed and something else was expected of it.
-/

namespace TypeDocs

/-- What stands where something else is expected. -/
inductive Found where
  | null
  | flag (b : Bool)
  | number (n : Number)
  | text (s : String)
  | list
  | table
  | moment
  deriving DecidableEq, Repr

def Found.words : Found → String
  | .null => "null"
  | .flag b => "boolean `" ++ (if b then "true" else "false") ++ "`"
  | .number (.whole n) => "integer `" ++ toString n ++ "`"
  | .number (.float x) =>
    "floating point `" ++ Number.jsonLayout.text Decimal.double x ++ "`"
  | .text s => "string " ++ Text.quoted s
  | .list => "sequence"
  | .table => "map"
  | .moment => "datetime"

inductive Wanted where
  | text
  | path
  | flag
  | list
  | unit
  | variantName
  | record (name : String)
  deriving DecidableEq, Repr

def Wanted.words : Wanted → String
  | .text => "a string"
  | .path => "path string"
  | .flag => "a boolean"
  | .list => "a sequence"
  | .unit => "unit"
  | .variantName => "variant identifier"
  | .record name => "struct " ++ name

inductive Fault where
  | json (cause : Json.Malformed)
  | yaml (cause : Yaml.Malformed)
  | toml (cause : Toml.Malformed)
  | mismatch (found : Found) (wanted : Wanted)
  | missingField (name : String)
  | duplicateField (name : String)
  | tooFewItems (given : Nat) (record : String) (size : Nat)
  | unknownVariant (given : String) (known : List String)
  | noVariant (name : String)
  deriving DecidableEq, Repr

namespace Fault

def message : Fault → String
  | .json cause => cause.message
  | .yaml cause => cause.message
  | .toml cause => cause.message
  | .mismatch found wanted => "invalid type: " ++ found.words ++ ", expected " ++ wanted.words
  | .missingField name => "missing field `" ++ name ++ "`"
  | .duplicateField name => "duplicate field `" ++ name ++ "`"
  | .tooFewItems given record size =>
    "invalid length " ++ toString given ++ ", expected struct " ++ record ++ " with " ++
      toString size ++ " elements"
  | .unknownVariant given known =>
    "unknown variant `" ++ given ++ "`, expected one of " ++
      ", ".intercalate (known.map fun k => "`" ++ k ++ "`")
  | .noVariant name => "data did not match any variant of untagged enum " ++ name

end Fault

end TypeDocs
