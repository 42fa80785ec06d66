import TypeDocs.Decimal.Layout
import TypeDocs.Json.Printer
import TypeDocs.Text.Blank
import TypeDocs.Text.Quoted

/-!
# Sample values

The value that a property has on a sample of its type.
-/

namespace TypeDocs

inductive SampleValue where
  | null
  | text (s : String)
  | flag (b : Bool)
  /-- Anything else, in its own notation. -/
  | other (s : String)
  deriving DecidableEq, Repr

namespace SampleValue

/-- The value as documentation shows it. What shows as nothing is null. -/
def render : SampleValue → String
  | .null => "null"
  | .text s => "\"" ++ s ++ "\""
  | .flag b => if b then "true" else "false"
  | .other s => if Text.isBlankText s then "null" else s

def ofWhole (n : Int) : SampleValue := .other (toString n)

def ofBinary (p : Decimal.Precision) (x : Decimal.Binary) : SampleValue :=
  .other (Decimal.Layout.plain.text p x)

def ofTexts (ss : List String) : SampleValue := .other (Text.quotedList ss)

def ofOption : Option SampleValue → SampleValue
  | some v => v
  | none => .null

/-- Lists, tables and numbers are in JSON notation. -/
def ofJson : Json → SampleValue
  | .null => .null
  | .flag b => .flag b
  | .text s => .text s
  | j => .other (Json.compact j)

end SampleValue

end TypeDocs
