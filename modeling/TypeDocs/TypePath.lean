import TypeDocs.Text.Alphanumeric

/-!
# Type paths

The text of a type names every type in it by its path. A path is a run of letters, numbers,
underscores and colons; its name is what follows its last double colon.
-/

namespace TypeDocs.TypePath

def inPath (c : Char) : Bool := Text.isAlphanumeric c || c == '_' || c == ':'

/-- What precedes the first double colon, all when there is none. -/
def beforeColons : List Char → List Char
  | ':' :: ':' :: _ => []
  | c :: cs => c :: beforeColons cs
  | [] => []

/-- The name in a path that is given last character first. -/
def nameOfReverse (path : List Char) : List Char := (beforeColons path).reverse

/-- Shortens a text before which the path given last character first was read. -/
def shortenFrom (path : List Char) : List Char → List Char
  | [] => nameOfReverse path
  | c :: cs =>
    if inPath c then shortenFrom (c :: path) cs
    else nameOfReverse path ++ c :: shortenFrom [] cs

/-- The text with every path replaced by its name. -/
def shorten (s : String) : String := .ofList (shortenFrom [] s.toList)

end TypeDocs.TypePath
