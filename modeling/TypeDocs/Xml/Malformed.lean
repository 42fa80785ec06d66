/-!
# What is wrong with an XML text

Positions count bytes: those of a reference from the start of the text that holds it, those of an
attribute from the start of its tag's name.
-/

namespace TypeDocs.Xml

/-- What is not closed at the end of the text. -/
inductive Unclosed where
  | tag
  | comment
  | cdata
  | doctype
  | instruction
  deriving DecidableEq, Repr

def Unclosed.words : Unclosed → String × String
  | .tag => ("tag", ">")
  | .comment => ("comment", "-->")
  | .cdata => ("CDATA", "]]>")
  | .doctype => ("DOCTYPE", ">")
  | .instruction => ("processing instruction or xml declaration", "?>")

/-- Why a number in a reference stands for no character. -/
inductive BadNumber where
  | sign
  | empty
  | digit
  | tooLarge
  | zero
  | noCharacter (n : Nat)
  deriving DecidableEq, Repr

def BadNumber.words : BadNumber → String
  | .sign => "unexpected number sign"
  | .empty => "cannot parse integer from empty string"
  | .digit => "invalid digit found in string"
  | .tooLarge => "number too large to fit in target type"
  | .zero => "0x0 character is not permitted in XML"
  | .noCharacter n => "`" ++ toString n ++ "` is not a valid codepoint"

inductive Malformed where
  | unclosed (what : Unclosed)
  | unknownMarkup
  | namelessDoctype
  | mismatchedEnd (expected found : String)
  | unmatchedEnd (found : String)
  | unknownEntity (first last : Nat) (name : String)
  | openReference (first last : Nat)
  | badNumber (why : BadNumber)
  | equalsExpected (position : Nat)
  | valueExpected (position : Nat)
  | quoteExpected (position : Nat)
  | quoteOpen (position : Nat) (quote : Char)
  deriving DecidableEq, Repr

def positioned (position : Nat) (what : String) : String :=
  "position " ++ toString position ++ ": " ++ what

def Malformed.message : Malformed → String
  | .unclosed what =>
    let (name, mark) := what.words
    "syntax error: " ++ name ++ " not closed: `" ++ mark ++ "` not found before end of input"
  | .unknownMarkup => "syntax error: unknown or missed symbol in markup"
  | .namelessDoctype =>
    "ill-formed document: `<!DOCTYPE>` declaration does not contain a name of a document type"
  | .mismatchedEnd expected found =>
    "ill-formed document: expected `</" ++ expected ++ ">`, but `</" ++ found ++ ">` was found"
  | .unmatchedEnd found =>
    "ill-formed document: close tag `</" ++ found ++ ">` does not match any open tag"
  | .unknownEntity first last name =>
    "at " ++ toString first ++ ".." ++ toString last ++ ": unrecognized entity `" ++ name ++ "`"
  | .openReference first last =>
    "Error while escaping character at range " ++ toString first ++ ".." ++ toString last ++
      ": Cannot find ';' after '&'"
  | .badNumber why => "invalid character reference: " ++ why.words
  | .equalsExpected position =>
    positioned position "attribute key must be directly followed by `=` or space"
  | .valueExpected position => positioned position "`=` must be followed by an attribute value"
  | .quoteExpected position =>
    positioned position "attribute value must be enclosed in `\"` or `'`"
  | .quoteOpen position quote =>
    positioned position ("missing closing quote `" ++ .ofList [quote] ++ "` in attribute value")

end TypeDocs.Xml
