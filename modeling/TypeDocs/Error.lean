import TypeDocs.FileSystem.Fault
import TypeDocs.Outline.Fault
import TypeDocs.Xml.Malformed

/-!
# Why documenting fails
-/

namespace TypeDocs

/-- Why a file holds no documentation or no manifest. -/
inductive Reason where
  | outline (f : Fault)
  | xml (m : Xml.Malformed)
  | text (s : String)
  deriving DecidableEq, Repr

def Reason.message : Reason → String
  | .outline f => f.message
  | .xml m => m.message
  | .text s => s

inductive DocumentError where
  | unsupportedFormat (format : String)
  | file (path : String) (cause : FileFault)
  | documentation (path : String) (reason : Reason)
  | manifest (path : String) (reason : Reason)
  deriving DecidableEq, Repr

def DocumentError.message : DocumentError → String
  | .unsupportedFormat format =>
    "Unsupported format '" ++ format ++ "'. Expected markdown, csv, json or yaml"
  | .file path cause => "Failed to write '" ++ path ++ "': " ++ cause.message
  | .documentation path reason =>
    "Invalid XML documentation '" ++ path ++ "': " ++ reason.message
  | .manifest path reason => "Invalid manifest '" ++ path ++ "': " ++ reason.message

end TypeDocs
