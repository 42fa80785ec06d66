import TypeDocs.Yaml.Scan

/-!
# The nodes of a YAML document

A node is a scalar, a list or a table, perhaps with a tag, or an alias of another one. Nodes are
anchored by number. A name that is anchored gets as its number how many names there are, so a name
that is used again shares its number with the next new one, and the last node of a number counts.
-/

namespace TypeDocs.Yaml

inductive Node where
  | scalar (tag : Option String) (text : String) (style : Style)
  | list (tag : Option String) (items : List Node)
  | table (tag : Option String) (entries : List (Node × Node))
  | anchored (number : Nat) (content : Node)
  | alias (number : Nat)
  deriving Repr

namespace Node

def empty : Node := .scalar none "" .plain

mutual

/-- The anchored nodes in the order in which they begin. -/
def anchors : Node → List (Nat × Node)
  | .scalar .. | .alias _ => []
  | .list _ items => itemAnchors items
  | .table _ entries => entryAnchors entries
  | .anchored n content => (n, content) :: anchors content

def itemAnchors : List Node → List (Nat × Node)
  | [] => []
  | x :: xs => anchors x ++ itemAnchors xs

def entryAnchors : List (Node × Node) → List (Nat × Node)
  | [] => []
  | (k, v) :: es => anchors k ++ anchors v ++ entryAnchors es

end

mutual

/-- The number of scalars, aliases, and begins and ends of lists and tables. -/
def size : Node → Nat
  | .scalar .. | .alias _ => 1
  | .list _ items => 2 + itemsSize items
  | .table _ entries => 2 + entriesSize entries
  | .anchored _ content => size content

def itemsSize : List Node → Nat
  | [] => 0
  | x :: xs => size x + itemsSize xs

def entriesSize : List (Node × Node) → Nat
  | [] => 0
  | (k, v) :: es => size k + size v + entriesSize es

end

end Node

/-- What is left of the tokens of a document, what its shorthands for tags stand for, and the
numbers of the names that are anchored. -/
structure Document where
  tokens : List Token
  shorthands : List (String × String)
  names : List (String × Nat)
  deriving Repr

abbrev NodeReader := StateT Document (Except Malformed)

namespace NodeReader

def peek : NodeReader (Option Token) := return (← get).tokens.head?

def skip : NodeReader Unit := modify fun d => { d with tokens := d.tokens.drop 1 }

/-- Passes over a token if it is the next one. -/
def skipIf (t : Token) : NodeReader Bool := do
  if (← peek) == some t then
    skip
    return true
  return false

def expect (t : Token) : NodeReader Unit := do
  if !(← skipIf t) then throw .unexpected

/-- Whether one of some tokens is next. -/
def isAt (ts : List Token) : NodeReader Bool := return (← peek).any ts.contains

/-- Takes a tag off the front, with what its handle stands for. -/
def readTag? : NodeReader (Option String) := do
  match ← peek with
  | some (.tag handle suffix) =>
    skip
    if handle.isEmpty then return some suffix
    match (← get).shorthands.lookup handle with
    | some lead => return some (lead ++ suffix)
    | none => throw .badTag
  | _ => return none

/-- Takes an anchor off the front. -/
def readAnchor? : NodeReader (Option String) := do
  match ← peek with
  | some (.anchor name) =>
    skip
    return some name
  | _ => return none

/-- The tag and the anchor of a node, in either order. -/
def readProperties : NodeReader (Option String × Option String) := do
  match ← readAnchor? with
  | some name => return (← readTag?, some name)
  | none =>
    let tag ← readTag?
    return (tag, ← readAnchor?)

/-- Gives a name a number. -/
def anchorName (name : String) : NodeReader Nat := do
  let d ← get
  let number := d.names.length
  set { d with names := (name, number) :: d.names.filter (·.1 != name) }
  return number

/-- A node with the anchor that was read in front of it. -/
def withAnchor (name : Option String) (read : NodeReader Node) : NodeReader Node := do
  match name with
  | none => read
  | some name =>
    let number ← anchorName name
    return .anchored number (← read)

/-- The tag of a scalar. A plain one needs none, and the tag without a name says as little. -/
def scalarTag (tag : Option String) : Option String := tag.filter (· != "!")

/-- What kinds of nodes may stand at a place. -/
inductive Around where
  | flow
  | block
  /-- A list is not indented further than the table around it. -/
  | key
  deriving DecidableEq, Repr

open NodeReader

mutual

/-- Reads a node. The fuel bounds the number of readers inside one another; each but the one for a
missing value takes a token. -/
def node : Nat → Around → NodeReader Node
  | 0, _ => throw .unexpected
  | fuel + 1, around => do
    match ← peek with
    | some (.alias name) =>
      skip
      match (← get).names.lookup name with
      | some number => return .alias number
      | none => throw .unknownAnchor
    | _ => do
      let (tag, anchor) ← readProperties
      let inBlock := around != .flow
      match ← peek with
      | some (.scalar text style) =>
        skip
        withAnchor anchor (return .scalar (scalarTag tag) text style)
      | some .dash =>
        if around == .key then withAnchor anchor (return .list tag (← bareItems fuel))
        else bare tag anchor
      | some .flowList =>
        skip
        withAnchor anchor (return .list tag (← flowItems fuel true))
      | some .flowTable =>
        skip
        withAnchor anchor (return .table tag (← flowEntries fuel true))
      | some .blockList =>
        if inBlock then
          skip
          withAnchor anchor (return .list tag (← blockItems fuel))
        else bare tag anchor
      | some .blockTable =>
        if inBlock then
          skip
          withAnchor anchor (return .table tag (← blockEntries fuel))
        else bare tag anchor
      | _ => bare tag anchor

/-- A node of which only a tag or an anchor is written. -/
def bare (tag anchor : Option String) : NodeReader Node :=
  if tag.isNone && anchor.isNone then throw .unexpected
  else withAnchor anchor (return .scalar tag "" .plain)

/-- A node, or an empty one before certain tokens. -/
def nodeUnless : Nat → List Token → Around → NodeReader Node
  | 0, _, _ => throw .unexpected
  | fuel + 1, ends, around => do
    if ← isAt ends then return .empty else node fuel around

def blockItems : Nat → NodeReader (List Node)
  | 0 => throw .unexpected
  | fuel + 1 => do
    if ← skipIf .blockEnd then return []
    expect .dash
    let item ← nodeUnless fuel [.dash, .blockEnd] .block
    return item :: (← blockItems fuel)

def bareItems : Nat → NodeReader (List Node)
  | 0 => throw .unexpected
  | fuel + 1 => do
    if !(← skipIf .dash) then return []
    let item ← nodeUnless fuel [.dash, .key, .value, .blockEnd] .block
    return item :: (← bareItems fuel)

def blockEntries : Nat → NodeReader (List (Node × Node))
  | 0 => throw .unexpected
  | fuel + 1 => do
    if ← skipIf .blockEnd then return []
    expect .key
    let ends := [.key, .value, .blockEnd]
    let key ← nodeUnless fuel ends .key
    let value ← if ← skipIf .value then nodeUnless fuel ends .key else pure .empty
    return (key, value) :: (← blockEntries fuel)

def flowItems : Nat → Bool → NodeReader (List Node)
  | 0, _ => throw .unexpected
  | fuel + 1, first => do
    if ← skipIf .flowListEnd then return []
    if !first then expect .comma
    if ← skipIf .flowListEnd then return []
    let item ← if ← skipIf .key then flowPair fuel else node fuel .flow
    return item :: (← flowItems fuel false)

/-- A table of one entry inside a list. In place of a missing key one token is passed over. -/
def flowPair : Nat → NodeReader Node
  | 0 => throw .unexpected
  | fuel + 1 => do
    let keyMissing ← isAt [.value, .comma, .flowListEnd]
    let key ← if keyMissing then do skip; pure Node.empty else node fuel .flow
    let value ←
      if ← skipIf .value then nodeUnless fuel [.comma, .flowListEnd] .flow else pure .empty
    return .table none [(key, value)]

def flowEntries : Nat → Bool → NodeReader (List (Node × Node))
  | 0, _ => throw .unexpected
  | fuel + 1, first => do
    if ← skipIf .flowTableEnd then return []
    if !first then expect .comma
    if ← skipIf .flowTableEnd then return []
    let entry ←
      if ← skipIf .key then do
        let key ← nodeUnless fuel [.value, .comma, .flowTableEnd] .flow
        let value ←
          if ← skipIf .value then nodeUnless fuel [.comma, .flowTableEnd] .flow else pure .empty
        pure (key, value)
      else do pure (← node fuel .flow, Node.empty)
    return entry :: (← flowEntries fuel false)

end

/-- Reads the directives in front of a document: at most one of the version, which has to be 1.1 or
1.2, and one for each shorthand. -/
def readDirectives : List Token → Bool → List (String × String) →
    Except Malformed (List (String × String) × List Token)
  | .version major minor :: ts, seen, known =>
    if seen || major != 1 || !(minor == 1 || minor == 2) then .error .badDirective
    else readDirectives ts true known
  | .shorthand handle lead :: ts, seen, known =>
    if (known.lookup handle).isSome then .error .badDirective
    else readDirectives ts seen (known ++ [(handle, lead)])
  | ts, _, known => .ok (known, ts)

/-- The shorthands that need no directive. -/
def commonShorthands : List (String × String) := [("!", "!"), ("!!", "tag:yaml.org,2002:")]

def isDirective : Token → Bool
  | .version .. | .shorthand .. => true
  | _ => false

/-- The node of a document, and the tokens after it. -/
def readDocument (ts : List Token) : Except Malformed (Node × List Token) := do
  let explicit := ts.head?.any fun t => isDirective t || t == .documentStart
  let (shorthands, ts) ← readDirectives ts false []
  let ts ← match explicit, ts with
    | true, .documentStart :: ts => pure ts
    | true, _ => throw .unexpected
    | false, ts => pure ts
  let isEmpty := explicit &&
    ts.head?.all fun t => isDirective t || t == .documentStart || t == .documentEnd
  let read : NodeReader Node := if isEmpty then pure Node.empty else node (4 * ts.length + 4) .block
  let (n, d) ← read.run ⟨ts, shorthands ++ commonShorthands, []⟩
  return (n, d.tokens)

end NodeReader

/-- The node of a text, if there is any; a text has at most one document. -/
def Node.ofTokens (ts : List Token) : Except Malformed (Option Node) := do
  if ts.isEmpty then return none
  let (n, rest) ← NodeReader.readDocument ts
  if rest.all (· == .documentEnd) then return some n else throw .severalDocuments

end TypeDocs.Yaml
