import TypeDocs.FileSystem.Save
import TypeDocs.Format

/-!
# Settings

Settings say what a run does where its command line says nothing.
-/

namespace TypeDocs

structure OutputSettings where
  /-- Where documents are saved; without it they are printed. -/
  directory : Option String := none
  fileName : String := FileSystem.defaultName
  append : Bool := false
  color : Bool := true
  deriving DecidableEq, Repr

structure LoggingSettings where
  level : Option String := none
  format : Option String := none
  file : Option String := none
  deriving DecidableEq, Repr

structure Settings where
  format : Option Format := none
  /-- A file of documentation. -/
  documentation : Option String := none
  output : OutputSettings := {}
  logging : LoggingSettings := {}
  deriving DecidableEq, Repr

end TypeDocs
