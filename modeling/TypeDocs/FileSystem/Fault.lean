/-!
# Why a file operation fails
-/

namespace TypeDocs

inductive FileFault where
  | noEntry
  | exists
  | notDirectory
  | isDirectory
  | nameTooLong
  /-- The content is no text. -/
  | badText
  /-- A name has a character that no name can have. -/
  | badName
  | other (text : String)
  deriving DecidableEq, Repr

def FileFault.message : FileFault → String
  | .noEntry => "No such file or directory (os error 2)"
  | .exists => "File exists (os error 17)"
  | .notDirectory => "Not a directory (os error 20)"
  | .isDirectory => "Is a directory (os error 21)"
  | .nameTooLong => "File name too long (os error 36)"
  | .badText => "stream did not contain valid UTF-8"
  | .badName => "file name contained an unexpected NUL byte"
  | .other text => text

end TypeDocs
