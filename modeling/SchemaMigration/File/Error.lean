/-!
# File errors

The ways in which a file or directory cannot be used.
-/

namespace SchemaMigration

/-- Why a file or directory cannot be used. -/
inductive FileError where
  | notFound
  | alreadyExists
  | notDirectory
  | isDirectory
  | nameTooLong
  /-- the path holds a character that no path may hold -/
  | invalidName
  /-- the content of the file is not text -/
  | invalidText
  /-- the system refuses for a reason of its own -/
  | refused (text : String)
  deriving DecidableEq, Repr

/-- The wording of the error. -/
def FileError.message : FileError → String
  | .notFound => "No such file or directory (os error 2)"
  | .alreadyExists => "File exists (os error 17)"
  | .notDirectory => "Not a directory (os error 20)"
  | .isDirectory => "Is a directory (os error 21)"
  | .nameTooLong => "File name too long (os error 36)"
  | .invalidName => "file name contained an unexpected NUL byte"
  | .invalidText => "stream did not contain valid UTF-8"
  | .refused text => text

end SchemaMigration
