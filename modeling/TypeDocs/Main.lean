import TypeDocs.Command.Reach

/-!
# The program

The files that a run looks at are read, the run is carried out on them, and what it changed is
written.
-/

namespace TypeDocs.Program

/-- How a place is written. -/
def placeText (p : Place) : String := "/" ++ "/".intercalate p

/-- The files with what is found on the way along some names. -/
def look (files : FileSystem) (p : Place) : List String → IO FileSystem
  | [] => return files
  | name :: names => do
    if name == "." then look files p names
    else if name == ".." then look files p.dropLast names
    else
      let p := p ++ [name]
      let path := (← IO.currentDir) / placeText p
      if ← path.isDir then look (files.setNode p .directory) p names
      else if ← path.pathExists then
        try return files.setNode p (.file (← IO.FS.readBinFile path))
        catch _ => return files
      else return files

/-- The files with what is found on the way along some paths. -/
def lookAll (files : FileSystem) (paths : List String) : IO FileSystem :=
  paths.foldlM (fun files path =>
    let p := Path.parse path
    look files (files.start p) p.names) files

/-- Writes what is not the same in the files before. -/
def writeBack (before after : FileSystem) : IO Unit :=
  after.nodes.forM fun (p, node) => do
    match before.node? p, node with
    | some .directory, .directory => return
    | _, .directory => IO.FS.createDirAll (placeText p)
    | some (.file old), .file content =>
      if old.data != content.data then IO.FS.writeBinFile (placeText p) content
    | _, .file content => IO.FS.writeBinFile (placeText p) content

/-- The variables that a run asks for. -/
def environment : IO LogSetup.Variables := do
  let names := [Command.settingsVariable, "RUST_LOG", "MODELDOC_LOG_FILE", "MODELDOC_LOG_FORMAT"]
  names.filterMapM fun name => do return (← IO.getEnv name).map fun value => (name, value)

/-! ### What is said about command lines -/

open Command

/-- How an option is given. -/
def optionLine (r : Rule) : String :=
  let names := (r.short.map fun c => "-" ++ c.toString).toList ++
    (r.long.map fun l => "--" ++ l).toList
  "  " ++ ", ".intercalate names ++ (if r.action.takesValue then " <VALUE>" else "") ++ "\n"

def usage : String :=
  "Usage: " ++ programName ++ " [OPTIONS] <COMMAND>\n\nCommands:\n" ++
    String.join (CommandName.all.map fun c => "  " ++ c.text ++ "\n") ++ "\nOptions:\n" ++
    String.join (commonRules.map optionLine)

/-- What is wrong with a command line, if anything. -/
def complaint : Refusal → Option String
  | .unknownArgument => some "unexpected argument found"
  | .tooManyValues => some "unexpected value for an option that takes none"
  | .conflict => some "an argument cannot be used with another one, or more than once"
  | .badValue => some "a value is missing or invalid"
  | .badCommand => some "unrecognized command"
  | .commandMissing => some "a command is required"
  | .operandMissing => some "a required argument was not provided"
  | .help | .version _ | .nothingGiven => none

def refusal (r : Refusal) : String :=
  ((complaint r).elim "" fun why => "error: " ++ why ++ "\n\n") ++ usage

/-- A script that completes the words of a command line. -/
def script (s : Shell) : String :=
  let words := " ".intercalate (CommandName.all.map CommandName.text ++
    (exportRules ++ commonRules).filterMap fun r => r.long.map fun l => "--" ++ l)
  match s with
  | .bash => "complete -W \"" ++ words ++ "\" " ++ programName ++ "\n"
  | .zsh => "compctl -k \"(" ++ words ++ ")\" " ++ programName ++ "\n"
  | .fish => "complete -c " ++ programName ++ " -f -a \"" ++ words ++ "\"\n"
  | .powerShell =>
    "Register-ArgumentCompleter -Native -CommandName " ++ programName ++
      " -ScriptBlock \x7b \"" ++ words ++ "\".Split(' ') \x7d\n"
  | .elvish =>
    "set edit:completion:arg-completer[" ++ programName ++ "] = \x7b|@args| put " ++ words ++
      " \x7d\n"

def host : IO Command.Host := do
  let home ← IO.getEnv "HOME"
  let given := (← IO.getEnv "XDG_CONFIG_HOME").filter fun dir => (Path.parse dir).absolute
  let settings := given.or (home.map (Path.join · ".config"))
  return ⟨← environment, ⟨home, settings⟩, ← (← IO.getStdout).isTty, toString (← IO.monoMsNow),
    fun _ r => refusal r, script⟩

end TypeDocs.Program

open TypeDocs Program in
def main (arguments : List String) : IO UInt32 := do
  let h ← host
  let here := (Path.parse (← IO.currentDir).toString).names
  let files : FileSystem := ⟨here, []⟩
  let files ← look files [] here
  let files ← match Command.read h.environment arguments with
    | .error _ => pure files
    | .ok i => do
      let files ← lookAll files (Command.settingsPaths h i)
      lookAll files (Command.furtherPaths h i files)
  let o := Command.run h arguments files
  writeBack files o.files
  IO.print o.printed.output
  IO.eprint (o.printed.messages ++ o.logged)
  return UInt32.ofNat o.exitCode
