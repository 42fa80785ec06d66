import TypeDocs.Json.Scan
import TypeDocs.Outline.Basic

/-!
# Reading JSON

A text is read into its outline. A value under a key that nobody asks for is passed over rather
than read, and that is more lenient: so behind a value at fault the entries of a table go on, from
where passing over the value ends. Lists and tables nest 127 deep.
-/

namespace TypeDocs.Json

mutual

/-- Passes over a value. The fuel bounds the number of steps. -/
def skipValue : Nat → List Char → Except Malformed (List Char)
  | 0, _ => .error .tooDeep
  | fuel + 1, cs => match skipSpace cs with
    | [] => .error .endInValue
    | 'n' :: cs => readWord ['u', 'l', 'l'] cs
    | 't' :: cs => readWord ['r', 'u', 'e'] cs
    | 'f' :: cs => readWord ['a', 'l', 's', 'e'] cs
    | '-' :: cs => skipNumber cs
    | '"' :: cs => skipText cs
    | '[' :: cs => match skipSpace cs with
      | [] => .error .endInList
      | ']' :: cs => .ok cs
      | cs => skipItems fuel cs
    | '\x7b' :: cs => match skipSpace cs with
      | [] => .error .endInObject
      | '\x7d' :: cs => .ok cs
      | cs => skipEntries fuel cs
    | c :: cs => if c.isDigit then skipNumber (c :: cs) else .error .expectedValue

def skipItems : Nat → List Char → Except Malformed (List Char)
  | 0, _ => .error .tooDeep
  | fuel + 1, cs => do
    match skipSpace (← skipValue fuel cs) with
    | [] => .error .endInList
    | ']' :: cs => .ok cs
    | ',' :: cs => skipItems fuel cs
    | _ => .error .expectedListEnd

def skipEntries : Nat → List Char → Except Malformed (List Char)
  | 0, _ => .error .tooDeep
  | fuel + 1, cs => match skipSpace cs with
    | [] => .error .endInObject
    | '"' :: cs => do
      match skipSpace (← skipText cs) with
      | [] => .error .endInObject
      | ':' :: cs => match skipSpace (← skipValue fuel cs) with
        | [] => .error .endInObject
        | '\x7d' :: cs => .ok cs
        | ',' :: cs => skipEntries fuel cs
        | _ => .error .expectedObjectEnd
      | _ => .error .expectedColon
    | _ => .error .keyNotText

end

/-- How deep lists and tables may nest, the outermost value counted. -/
def depthLimit : Nat := 128

/-- An outline, and the characters after it unless it ended early. -/
abbrev Reading := Outline × Option (List Char)

/-- A word or a number, a leaf also where it is at fault. -/
def leafReading (r : Except Malformed (Found × Json × List Char)) : Reading :=
  match r with
  | .error e => (.leaf (.ofFault (.json e)), none)
  | .ok (found, j, rest) => (.leaf (.ofFound found (.ok j)), some rest)

def wordReading (w : List Char) (found : Found) (j : Json) (cs : List Char) : Reading :=
  leafReading do return (found, j, ← readWord w cs)

def numberReading (negative : Bool) (cs : List Char) : Reading :=
  leafReading do
    let (n, rest) ← readNumber negative cs
    return (.number n, .number n, rest)

def textReading (cs : List Char) : Reading :=
  match readText none [] cs with
  | .error e => (.fault (.json e), none)
  | .ok (s, rest) => (.leaf (.ofFound (.text s) (.ok (.text s))), some rest)

def keyLeaf (name : String) : Outline := .leaf (.ofFound (.text name) (.ok (.text name)))

/-- A list or table that ends early. -/
def cutList (items : List Outline) (e : Malformed) :
    List Outline × Option Fault × Option (List Char) :=
  (items, some (.json e), none)

def cutTable (e : Malformed) :
    List (Outline × Outline) × Option Fault × Option (List Char) :=
  ([], some (.json e), none)

/-- A table that ends at something else in place of its first key. -/
def oddKey (key : Outline) : List (Outline × Outline) × Option Fault × Option (List Char) :=
  let fault : Fault := .json .keyNotText
  match key with
  | .leaf l =>
    ([(.leaf { Leaf.ofFault fault with found := l.found }, .fault fault)], some fault, none)
  | _ => cutTable .keyNotText

mutual

/-- Reads a value inside the given number of brackets less than the limit. -/
def readValue : Nat → Nat → List Char → Reading
  | 0, _, _ => (.fault (.json .tooDeep), none)
  | fuel + 1, depth, cs => match skipSpace cs with
    | [] => (.fault (.json .endInValue), none)
    | 'n' :: cs => wordReading ['u', 'l', 'l'] .null .null cs
    | 't' :: cs => wordReading ['r', 'u', 'e'] (.flag true) (.flag true) cs
    | 'f' :: cs => wordReading ['a', 'l', 's', 'e'] (.flag false) (.flag false) cs
    | '-' :: cs => numberReading true cs
    | '"' :: cs => textReading cs
    | '[' :: cs =>
      if depth ≤ 1 then (.list [] (some (.json .tooDeep)), none)
      else
        let (items, stop, rest) := readItems fuel (depth - 1) true cs
        (.list items stop, rest)
    | '\x7b' :: cs =>
      if depth ≤ 1 then (.table [] (some (.json .tooDeep)), none)
      else
        let (entries, stop, rest) := readEntries fuel (depth - 1) true cs
        (.table entries stop, rest)
    | c :: cs =>
      if c.isDigit then numberReading false (c :: cs) else (.fault (.json .expectedValue), none)

/-- Reads the items of a list that has had none yet or some. -/
def readItems : Nat → Nat → Bool → List Char →
    List Outline × Option Fault × Option (List Char)
  | 0, _, _, _ => cutList [] .tooDeep
  | fuel + 1, depth, first, cs =>
    let item (cs : List Char) := match readValue fuel depth cs with
      | (o, none) => ([o], none, none)
      | (o, some rest) =>
        let (items, stop, rest) := readItems fuel depth false rest
        (o :: items, stop, rest)
    match skipSpace cs with
    | [] => cutList [] .endInList
    | ']' :: cs => ([], none, some cs)
    | ',' :: cs =>
      if first then item (',' :: cs)
      else match skipSpace cs with
        | [] => cutList [] .endInValue
        | ']' :: _ => cutList [] .trailingComma
        | cs => item cs
    | cs => if first then item cs else cutList [] .expectedListEnd

/-- Reads the entries of a table that has had none yet or some. -/
def readEntries : Nat → Nat → Bool → List Char →
    List (Outline × Outline) × Option Fault × Option (List Char)
  | 0, _, _, _ => cutTable .tooDeep
  | fuel + 1, depth, first, cs =>
    let entry (cs : List Char) := match readText none [] cs with
      | .error e => cutTable e
      | .ok (name, rest) => match skipSpace rest with
        | ':' :: cs =>
          let (o, rest) := readValue fuel depth cs
          let past : Except Malformed (List Char) := match rest with
            | some rest => .ok rest
            | none => skipValue (cs.length + 1) cs
          match past with
          | .error e => ([(keyLeaf name, o)], some (.json e), none)
          | .ok rest =>
            let (entries, stop, rest) := readEntries fuel depth false rest
            ((keyLeaf name, o) :: entries, stop, rest)
        | rest =>
          let e := if rest.isEmpty then .endInObject else .expectedColon
          ([(keyLeaf name, .fault (.json e))], some (.json e), none)
    match skipSpace cs with
    | [] => cutTable .endInObject
    | '\x7d' :: cs => ([], none, some cs)
    | '"' :: cs => if first then entry cs else cutTable .expectedObjectEnd
    | ',' :: cs =>
      if first then cutTable .keyNotText
      else match skipSpace cs with
        | [] => cutTable .endInValue
        | '"' :: cs => entry cs
        | '\x7d' :: _ => cutTable .trailingComma
        | _ => cutTable .keyNotText
    | cs => if first then oddKey (readValue fuel depth cs).1 else cutTable .expectedObjectEnd

end

/-- What is wrong with the rest of a list after the fields of a record. -/
def afterFields (items : List Outline) (stop : Option Fault) : Option Fault :=
  match items, stop with
  | [], none => none
  | [], some (.json .endInList) => stop
  | [], some (.json .trailingComma) => stop
  | _, _ => some (.json .trailingText)

/-- A name is a text, or the only key of a table with `null` under it. -/
def variant (names : List String) : Outline → Except Fault String
  | .tagged .. => .error (.json .expectedValue)
  | .leaf l => match l.text with
    | some name => Outline.known names name
    | none => .error (.json .expectedValue)
  | .fault f => .error f
  | .list .. => .error (.json .expectedValue)
  | .table [] stop => .error (match stop with
    | none => .json .expectedValue
    | some (.json .endInObject) => .json .endInValue
    | some f => f)
  | .table ((k, v) :: rest) stop => do
    let name ← match k with
      | .leaf l => match l.text with
        | some name => Outline.known names name
        | none => throw (.mismatch l.found .variantName)
      | k => k.refuse .variantName
    match v with
    | .leaf l => if l.found == .null && l.value.isOk then pure () else l.refuse .unit
    | v => v.refuse .unit
    match rest, stop with
    | [], none => return name
    | [], some (.json .endInObject) => Outline.orStop stop name
    | _, _ => throw (.json .expectedValue)

def dialect : Dialect := ⟨some afterFields, false, variant⟩

/-- The outline of a text, and what is wrong with what follows it. -/
def outline (s : String) : Outline × Option Fault :=
  let cs := s.toList
  let (o, rest) := readValue (2 * cs.length + 2) depthLimit cs
  (o, match rest with
    | some rest => if (skipSpace rest).isEmpty then none else some (.json .trailingText)
    | none => none)

/-- What is read from a text, all of it. -/
def readWith {α : Type} (read : Outline → Except Fault α) (s : String) : Except Fault α := do
  let (o, after) := outline s
  Outline.orStop after (← read o)

def parse (s : String) : Except Fault Json := readWith Outline.asJson s

end TypeDocs.Json
