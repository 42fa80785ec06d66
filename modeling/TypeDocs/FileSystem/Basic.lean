import TypeDocs.FileSystem.Fault
import TypeDocs.FileSystem.Path
import TypeDocs.Json.Basic

/-!
# File systems

A file system maps places to files and directories. A place is a list of names from the root, so
that it is the same for all paths that lead to it; there are no links.
-/

namespace TypeDocs

abbrev Place := List String

inductive Node where
  | directory
  | file (content : ByteArray)

structure FileSystem where
  /-- Where relative paths start. -/
  here : Place
  nodes : List (Place × Node)

namespace FileSystem

variable (fs : FileSystem)

def node? (p : Place) : Option Node := if p.isEmpty then some .directory else fs.nodes.lookup p

def setNode (p : Place) (n : Node) : FileSystem := { fs with nodes := put fs.nodes p n }

/-- The longest name and the longest path, in bytes. -/
def nameLimit : Nat := 255

def pathLimit : Nat := 4095

/-- Goes from a directory to the one that a name means. -/
def enter (p : Place) (name : String) : Except FileFault Place :=
  if name == "." then .ok p
  else if name == ".." then .ok p.dropLast
  else if name.utf8ByteSize > nameLimit then .error .nameTooLong
  else match fs.node? (p ++ [name]) with
    | some .directory => .ok (p ++ [name])
    | some (.file _) => .error .notDirectory
    | none => .error .noEntry

def enterAll (p : Place) : List String → Except FileFault Place
  | [] => .ok p
  | name :: names => do enterAll (← fs.enter p name) names

/-- Where a path starts. -/
def start (path : Path) : Place := if path.absolute then [] else fs.here

/-- A text as a path, unless it cannot be one. -/
def checked (path : String) : Except FileFault Path :=
  if path.toList.contains '\x00' then .error .badName
  else if path.isEmpty then .error .noEntry
  else if path.utf8ByteSize > pathLimit then .error .nameTooLong
  else .ok (Path.parse path)

/-- The place of a path and the place of the directory it is in, which has to be there. The first
is absent where the last name is no proper one, and then the second is what the path means. -/
def target (path : Path) : Except FileFault (Place × Option Place) := do
  let above ← fs.enterAll (fs.start path) path.names.dropLast
  match path.names.getLast? with
  | none => return (above, none)
  | some name =>
    if name == "." || name == ".." then return (← fs.enter above name, none)
    else if name.utf8ByteSize > nameLimit then throw .nameTooLong
    else return (above, some (above ++ [name]))

/-- What is at the end of a path. -/
def find (path : String) : Except FileFault (Place × Node) := do
  let path ← checked path
  match ← fs.target path with
  | (p, none) => return (p, .directory)
  | (_, some p) => match fs.node? p with
    | none => throw .noEntry
    | some .directory => return (p, .directory)
    | some (.file content) =>
      if path.slash then throw .notDirectory else return (p, .file content)

def has (path : String) : Bool := (fs.find path).isOk

def hasDirectory (path : String) : Bool :=
  match fs.find path with
  | .ok (_, .directory) => true
  | _ => false

def read (path : String) : Except FileFault ByteArray := do
  match ← fs.find path with
  | (_, .directory) => throw .isDirectory
  | (_, .file content) => return content

def readText (path : String) : Except FileFault String := do
  match String.fromUTF8? (← fs.read path) with
  | some s => return s
  | none => throw .badText

/-- Where writing to a path puts its content: a place that is no directory. -/
def writePlace (path : String) : Except FileFault Place := do
  let path ← checked path
  match ← fs.target path with
  | (_, none) => throw .isDirectory
  | (_, some p) =>
    if path.slash then throw .isDirectory
    else match fs.node? p with
      | some .directory => throw .isDirectory
      | _ => return p

def content (p : Place) : ByteArray :=
  match fs.node? p with
  | some (.file content) => content
  | _ => ByteArray.empty

/-- Writes a file, behind what it holds or in place of that. -/
def write (path : String) (append : Bool) (content : ByteArray) : Except FileFault FileSystem := do
  let p ← fs.writePlace path
  return fs.setNode p (.file (if append then fs.content p ++ content else content))

/-- Makes one directory in another. -/
def makeDirectoryAt (path : Path) : Except FileFault FileSystem := do
  match ← fs.target path with
  | (_, none) => throw .exists
  | (_, some p) => match fs.node? p with
    | some _ => throw .exists
    | none => return fs.setNode p .directory

def isDirectoryAt (path : Path) : Bool :=
  match fs.target path with
  | .ok (_, none) => true
  | .ok (_, some p) => match fs.node? p with
    | some .directory => true
    | _ => false
  | .error _ => false

/-- Makes a directory unless it is there. -/
def ensureDirectoryAt (path : Path) : Except FileFault FileSystem :=
  match fs.makeDirectoryAt path with
  | .ok fs' => .ok fs'
  | .error e => if fs.isDirectoryAt path then .ok fs else .error e

/-- Makes a directory and those above it. A directory above is made only when it is missing. The
names are given last first; what was made stays when a later step fails. -/
def makeAbove (absolute : Bool) : List String → FileSystem → FileSystem × Option FileFault
  | [], fs => (fs, none)
  | name :: above, fs =>
    let path : Path := ⟨absolute, (name :: above).reverse, false⟩
    match fs.ensureDirectoryAt path with
    | .ok fs' => (fs', none)
    | .error .noEntry =>
      let (fs, fault) := makeAbove absolute above fs
      match fault with
      | some e => (fs, some e)
      | none => match fs.ensureDirectoryAt path with
        | .ok fs' => (fs', none)
        | .error e => (fs, some e)
    | .error e => (fs, some e)

/-- Makes a directory and those above it. -/
def makeDirectories (fs : FileSystem) (path : String) : FileSystem × Option FileFault :=
  if path.isEmpty then (fs, none)
  else match checked path with
    | .error e => (fs, some e)
    | .ok p => match fs.ensureDirectoryAt p with
      | .ok fs' => (fs', none)
      | .error .noEntry =>
        let above := (p.names.filter (· != ".")).dropLast.reverse
        let (fs, fault) := makeAbove p.absolute above fs
        match fault with
        | some e => (fs, some e)
        | none => match fs.ensureDirectoryAt p with
          | .ok fs' => (fs', none)
          | .error e => (fs, some e)
      | .error e => (fs, some e)

end FileSystem

end TypeDocs
