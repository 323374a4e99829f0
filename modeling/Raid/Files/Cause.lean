/-!
Why the system refuses an operation on files.
-/

namespace Raid

inductive Cause where
  | notFound
  | alreadyExists
  | notDirectory
  | isDirectory
  | nameTooLong
  | permissionDenied
  | notPermitted
  | readOnlyFileSystem
  /-- The path holds the character that ends texts for the system. -/
  | nulInPath
  /-- Any other refusal, in the system's own words. -/
  | other (text : String)
  deriving Repr, DecidableEq

/-- The wording with the system's error number. -/
def Cause.message : Cause → String
  | .notFound => "No such file or directory (os error 2)"
  | .alreadyExists => "File exists (os error 17)"
  | .notDirectory => "Not a directory (os error 20)"
  | .isDirectory => "Is a directory (os error 21)"
  | .nameTooLong => "File name too long (os error 36)"
  | .permissionDenied => "Permission denied (os error 13)"
  | .notPermitted => "Operation not permitted (os error 1)"
  | .readOnlyFileSystem => "Read-only file system (os error 30)"
  | .nulInPath => "file name contained an unexpected NUL byte"
  | .other text => text

end Raid
