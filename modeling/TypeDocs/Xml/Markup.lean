import TypeDocs.Xml.Malformed

/-!
# The markup of an XML text

A text is read by an automaton that goes over it character by character and gives the pieces as
they end. The pieces before a fault are given too; what is inside them is not looked at here.
-/

namespace TypeDocs.Xml

inductive Markup where
  /-- A start tag, by what stands between its brackets. -/
  | opening (tag : List Char)
  /-- An element without content, by what stands before its slash. -/
  | empty (tag : List Char)
  | closing (name : List Char)
  /-- Characters between markup, references not resolved. -/
  | text (raw : List Char)
  | cdata (content : List Char)
  /-- A comment, an instruction or a document type. -/
  | ignored
  deriving DecidableEq, Repr

def isSpace (c : Char) : Bool := c == ' ' || c == '\t' || c == '\r' || c == '\n'

/-- The name of a tag: all up to the first space. -/
def tagName (tag : List Char) : List Char := tag.takeWhile fun c => !isSpace c

/-- What is being read. What was read of it is given last character first. -/
inductive Place where
  | text (read : List Char)
  /-- Behind an opening bracket. -/
  | bracket
  | tag (quote : Option Char) (read : List Char)
  | instruction (read : List Char)
  /-- Behind an opening bracket and an exclamation mark. -/
  | bang
  | comment (read : List Char)
  | cdata (read : List Char)
  | doctype (depth : Nat) (read : List Char)
  deriving DecidableEq, Repr

/-- The piece that a tag is. -/
def Markup.ofTag (content : List Char) : Markup :=
  match content with
  | '/' :: name => .closing (name.reverse.dropWhile isSpace).reverse
  | content =>
    if content.getLast? = some '/' then .empty content.dropLast else .opening content

def tagStep (quote : Option Char) (read : List Char) (c : Char) : Place × List Markup :=
  match quote with
  | some q => (.tag (if c == q then none else some q) (c :: read), [])
  | none =>
    if c == '>' then (.text [], [.ofTag read.reverse])
    else (.tag (if c == '"' || c == '\'' then some c else none) (c :: read), [])

def lowerIs (word : String) (cs : List Char) : Bool :=
  cs.map Char.toLower == word.toList.map Char.toLower

def doctypeEnd (content : List Char) : Except Malformed (Place × List Markup) :=
  if !lowerIs "!doctype" (content.take 8) then .error (.unclosed .doctype)
  else if (content.drop 8).all isSpace then .error .namelessDoctype
  else .ok (.text [], [.ignored])

/-- Reads one character. -/
def step (place : Place) (c : Char) : Except Malformed (Place × List Markup) :=
  match place with
  | .text read =>
    if c == '<' then .ok (.bracket, if read.isEmpty then [] else [.text read.reverse])
    else .ok (.text (c :: read), [])
  | .bracket =>
    if c == '!' then .ok (.bang, [])
    else if c == '?' then .ok (.instruction [c], [])
    else .ok (tagStep none [] c)
  | .tag quote read => .ok (tagStep quote read c)
  | .instruction read =>
    if c == '>' && read.head? == some '?' then
      if read.length ≤ 1 then .error (.unclosed .instruction) else .ok (.text [], [.ignored])
    else .ok (.instruction (c :: read), [])
  | .bang =>
    if c == '[' then .ok (.cdata ['[', '!'], [])
    else if c == '-' then .ok (.comment ['-', '!'], [])
    else if c == 'D' || c == 'd' then .ok (.doctype 0 [c, '!'], [])
    else .error .unknownMarkup
  | .comment read =>
    if c == '>' && read.length > 4 && ['-', '-'].isPrefixOf read then
      if "!--".toList.isPrefixOf read.reverse then .ok (.text [], [.ignored])
      else .error (.unclosed .comment)
    else .ok (.comment (c :: read), [])
  | .cdata read =>
    if c == '>' && [']', ']'].isPrefixOf read then
      let content := read.reverse
      if "![CDATA[".toList.isPrefixOf content then
        .ok (.text [], [.cdata ((content.drop 8).dropLast.dropLast)])
      else .error (.unclosed .cdata)
    else .ok (.cdata (c :: read), [])
  | .doctype depth read =>
    if c == '<' then .ok (.doctype (depth + 1) (c :: read), [])
    else if c == '>' then
      match depth with
      | 0 => doctypeEnd read.reverse
      | d + 1 => .ok (.doctype d (c :: read), [])
    else .ok (.doctype depth (c :: read), [])

/-- What the end of the text makes of a place. -/
def finish (place : Place) : List Markup × Option Malformed :=
  match place with
  | .text read => (if read.isEmpty then [] else [.text read.reverse], none)
  | .bracket | .tag .. => ([], some (.unclosed .tag))
  | .instruction _ => ([], some (.unclosed .instruction))
  | .bang => ([], some .unknownMarkup)
  | .comment _ => ([], some (.unclosed .comment))
  | .cdata _ => ([], some (.unclosed .cdata))
  | .doctype .. => ([], some (.unclosed .doctype))

/-- The pieces of a text from a place on, and the fault that ends them. -/
def piecesFrom (place : Place) : List Char → List Markup × Option Malformed
  | [] => finish place
  | c :: cs => match step place c with
    | .error e => ([], some e)
    | .ok (next, pieces) =>
      let (rest, stop) := piecesFrom next cs
      (pieces ++ rest, stop)

/-- Cuts the pieces at the first end tag that does not close the tag opened last. -/
def nested (stop : Option Malformed) : List (List Char) → List Markup →
    List Markup × Option Malformed
  | _, [] => ([], stop)
  | opened, m :: ms =>
    let onward (opened : List (List Char)) :=
      let (rest, stop) := nested stop opened ms
      (m :: rest, stop)
    match m with
    | .opening tag => onward (tagName tag :: opened)
    | .closing name => match opened with
      | [] => ([], some (.unmatchedEnd (.ofList name)))
      | expected :: opened =>
        if name == expected then onward opened
        else ([], some (.mismatchedEnd (.ofList expected) (.ofList name)))
    | _ => onward opened

/-- The pieces of a text, without a byte order mark. -/
def pieces (cs : List Char) : List Markup × Option Malformed :=
  let cs := match cs with
    | '\ufeff' :: cs => cs
    | cs => cs
  let (ms, stop) := piecesFrom (.text []) cs
  nested stop [] ms

end TypeDocs.Xml
