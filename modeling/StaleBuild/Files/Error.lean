/-!
Why a file operation failed, with the words and the number that the system gives to each cause.
-/

namespace StaleBuild

/-- The cause of a failed file operation. -/
inductive FileError where
  | notFound
  | permissionDenied
  | alreadyExists
  | notADirectory
  | isADirectory
  | nameTooLong
  | notEmpty
  | tooManyLinks
  /-- A file that may be run and is no program. -/
  | noProgram
  /-- A stream that is not open, or not in this direction. -/
  | badDescriptor
  /-- An operation that makes no sense on what it is asked of. -/
  | invalidArgument
  | noSpace
  /-- A path with a zero byte never reaches the system. -/
  | zeroByteInPath
  /-- A program or an argument with a zero byte never reaches the system. -/
  | zeroByteInCommand
  /-- A file was read as text and is not UTF-8. -/
  | notText
  /-- Any other cause, in the words of whoever reports it. -/
  | described (words : String)
deriving DecidableEq

namespace FileError

/-- The system's number and words for a cause, where the system has one. -/
def systemText? : FileError → Option (Nat × String)
  | .notFound => some (2, "No such file or directory")
  | .noProgram => some (8, "Exec format error")
  | .badDescriptor => some (9, "Bad file descriptor")
  | .permissionDenied => some (13, "Permission denied")
  | .alreadyExists => some (17, "File exists")
  | .notADirectory => some (20, "Not a directory")
  | .isADirectory => some (21, "Is a directory")
  | .invalidArgument => some (22, "Invalid argument")
  | .noSpace => some (28, "No space left on device")
  | .nameTooLong => some (36, "File name too long")
  | .notEmpty => some (39, "Directory not empty")
  | .tooManyLinks => some (40, "Too many levels of symbolic links")
  | _ => none

/-- The words for a cause that the system does not number. -/
def plainText : FileError → String
  | .zeroByteInPath => "file name contained an unexpected NUL byte"
  | .zeroByteInCommand => "nul byte found in provided data"
  | .notText => "stream did not contain valid UTF-8"
  | .described words => words
  | _ => ""

/-- The text of a cause. -/
def message (e : FileError) : String :=
  match e.systemText? with
  | some (number, words) => words ++ " (os error " ++ toString number ++ ")"
  | none => e.plainText

/-- The name of the family that a cause belongs to. -/
def family : FileError → String
  | .notFound => "NotFound"
  | .permissionDenied => "PermissionDenied"
  | .alreadyExists => "AlreadyExists"
  | .notADirectory => "NotADirectory"
  | .isADirectory => "IsADirectory"
  | .nameTooLong => "InvalidFilename"
  | .notEmpty => "DirectoryNotEmpty"
  | .tooManyLinks => "FilesystemLoop"
  | .noProgram => "Uncategorized"
  | .badDescriptor => "Uncategorized"
  | .noSpace => "StorageFull"
  | .invalidArgument => "InvalidInput"
  | .zeroByteInPath => "InvalidInput"
  | .zeroByteInCommand => "InvalidInput"
  | .notText => "InvalidData"
  | .described _ => "Other"

/-- The cause with all its parts, as a trace shows it. -/
def trace (e : FileError) : String :=
  match e.systemText? with
  | some (number, words) =>
    "Os \x7b code: " ++ toString number ++ ", kind: " ++ e.family ++ ", message: \"" ++ words ++
      "\" \x7d"
  | none => "Error \x7b kind: " ++ e.family ++ ", message: \"" ++ e.plainText ++ "\" \x7d"

end FileError

end StaleBuild
