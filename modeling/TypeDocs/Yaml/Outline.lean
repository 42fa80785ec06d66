import TypeDocs.Outline.Basic
import TypeDocs.Yaml.Node
import TypeDocs.Yaml.Scalar

/-!
# Reading YAML

A text is read into the outline of its node. What a scalar is read as depends on what is expected:
any scalar is a text, but only a plain one, or one with a tag that says so, is a flag. Lists and
tables nest 128 deep, aliases counted as what they stand for.
-/

namespace TypeDocs.Yaml

def Meaning.toJson (s : String) : Meaning → Except Fault Json
  | .null => .ok .null
  | .flag b => .ok (.flag b)
  | .whole n => .ok (.number (.whole n))
  | .wide => .error (.yaml .numberTooLarge)
  | .float x => .ok (if x.isFinite then .number (.float x) else .null)
  | .text => .ok (.text s)

/-- The meaning that a tag forces on a scalar. -/
def tagged? (tag s : String) : Option Meaning :=
  match tag with
  | "tag:yaml.org,2002:bool" => (flag? s).map .flag
  | "tag:yaml.org,2002:int" => wholeMeaning? s.toList
  | "tag:yaml.org,2002:float" => (float? s).map .float
  | "tag:yaml.org,2002:null" => if isNull s then some .null else none
  | _ => some .text

def scalarValue (tag : Option String) (s : String) (style : Style) : Except Fault Json :=
  match tag with
  | none => (if style == .plain then meaning s else .text).toJson s
  | some tag => match tagged? tag s with
    | some m => m.toJson s
    | none => .error (.yaml .badTag)

/-- Whether a scalar says that there is no value. Nothing but a tag can make that a fault. -/
def scalarAbsent (tag : Option String) (s : String) (style : Style) : Except Fault Bool :=
  if style != .plain then .ok false
  else match tag with
    | none => .ok (s.isEmpty || isNull s)
    | some "tag:yaml.org,2002:null" => if isNull s then .ok true else .error (.yaml .badTag)
    | some _ => .ok false

def foundIn (j : Except Fault Json) : Found :=
  match j with
  | .ok .null => .null
  | .ok (.flag b) => .flag b
  | .ok (.number n) => .number n
  | .ok (.text s) => .text s
  | _ => .null

def scalarLeaf (tag : Option String) (s : String) (style : Style) : Leaf where
  value := scalarValue tag s style
  text := some s
  flag :=
    if style == .plain || (style == .literal && tag == some "tag:yaml.org,2002:bool") then flag? s
    else none
  absent := scalarAbsent tag s style
  blank := style == .plain && s.isEmpty
  found := foundIn (scalarValue tag s style)

/-- The name that a tag of the text's own says. -/
def mark? (tag : Option String) : Option String :=
  match tag.map String.toList with
  | some ('!' :: name) => some (.ofList name)
  | _ => none

def marked (tag : Option String) (o : Outline) : Outline :=
  match mark? tag with
  | some name => .tagged name o
  | none => o

def scalarOutline (tag : Option String) (s : String) (style : Style) : Outline :=
  match mark? tag with
  | some name => .tagged name (.leaf { scalarLeaf none s style with absent := .ok false })
  | none => .leaf (scalarLeaf tag s style)

/-- What the aliases of a document stand for, and how often they may be followed in all. -/
structure Aliases where
  targets : List (Nat × Node)
  limit : Nat

def Aliases.ofNode (n : Node) : Aliases := ⟨n.anchors.reverse, 100 * n.size⟩

/-- What stands at a node. The state counts the aliases that were followed. -/
def Aliases.follow (a : Aliases) (n : Node) : StateM Nat (Except Malformed Node) := do
  match n with
  | .alias number =>
    modify (· + 1)
    if (← get) > a.limit then return .error .tooManyAliases
    match a.targets.lookup number with
    | some n => return .ok n
    | none => return .error .unknownAnchor
  | .anchored _ n => return .ok n
  | n => return .ok n

/-- The outline of a node, given how the nodes inside it are read, if they may be. -/
def outlineWith (a : Aliases) (inner : Option (Node → StateM Nat Outline)) (n : Node) :
    StateM Nat Outline := do
  match ← a.follow n, inner with
  | .error e, _ => return .fault (.yaml e)
  | .ok (.scalar tag s style), _ => return scalarOutline tag s style
  | .ok (.list tag items), some read => return marked tag (.list (← items.mapM read) none)
  | .ok (.table tag entries), some read =>
    let entries ← entries.mapM fun (k, v) => do
      let key ← read k
      return (key, ← read v)
    return marked tag (.table entries none)
  | .ok _, _ => return .fault (.yaml .tooDeep)

def depthLimit : Nat := 128

def outlineOf (a : Aliases) : Nat → Node → StateM Nat Outline
  | 0 => outlineWith a none
  | depth + 1 => outlineWith a (some (outlineOf a depth))

/-- What stands in a text without a document. -/
def void : Outline := .leaf ⟨.ok .null, none, none, .ok true, true, .null⟩

/-- The outline of a text. -/
def outline (s : String) : Except Malformed Outline := do
  match ← Node.ofTokens (← tokens s) with
  | some n => return ((outlineOf (.ofNode n) depthLimit n).run 0).1
  | none => return void

/-- A name is a scalar, or the tag of one that is empty or null. -/
def variant (names : List String) : Outline → Except Fault String
  | .leaf l => match l.text with
    | some name => Outline.known names name
    | none => l.refuse .variantName
  | .tagged name (.leaf l) => do
    let name ← Outline.known names name
    if l.found == .null then return name else l.refuse .unit
  | o => o.refuse .variantName

def dialect : Dialect := ⟨none, false, variant⟩

/-- What is read from a text, all of it. -/
def readWith {α : Type} (read : Outline → Except Fault α) (s : String) : Except Fault α := do
  read (← (outline s).mapError .yaml)

end TypeDocs.Yaml
