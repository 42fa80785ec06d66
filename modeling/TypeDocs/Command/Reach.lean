import TypeDocs.Command.Run

/-!
# The files that a run looks at

A run looks at few paths, and its command line and settings tell which.
-/

namespace TypeDocs.Command

/-- Where the settings of an invocation may be. -/
def settingsPaths (h : Host) (i : Invocation) : List String :=
  match i.settings with
  | some path => [path]
  | none => Settings.usualPaths h.homes

def exportPaths (a : ExportArguments) (s : Settings) : List String :=
  [a.manifest] ++ (a.xml s).toList ++
    (a.chosenDirectory s).toList.flatMap fun directory =>
      [directory, FileSystem.savePath directory (some (a.chosenName s))]

def taskPaths (t : Task) (s : Settings) : List String :=
  match t with
  | .models a | .controllers a => exportPaths a s
  | .formats | .completions _ => []

def logPaths (h : Host) (i : Invocation) (s : Settings) : List String :=
  (logSetup h i s).1.file.toList.map fun path =>
    let (directory, name) := Session.logPlace path
    Path.join directory name

/-- The paths besides those of the settings, given files that hold the settings. -/
def furtherPaths (h : Host) (i : Invocation) (files : FileSystem) : List String :=
  match Settings.load files h.homes i.settings with
  | .ok (s, _) => taskPaths i.task s ++ logPaths h i s
  | .error _ => []

end TypeDocs.Command
