/-!
Why the files of a program cannot be read or written.
-/

namespace TapeMachine

/-- What keeps a file from being used. -/
inductive FileCause where
  | missing
  | isDirectory
  | notDirectory
  | nameTooLong
  | invalidName
  /-- Anything else, in the words of the system. -/
  | other (reason : String)
  deriving DecidableEq, Inhabited

/-- The words for a cause. -/
def FileCause.message : FileCause → String
  | .missing => "no such file or directory"
  | .isDirectory => "is a directory"
  | .notDirectory => "not a directory"
  | .nameTooLong => "file name too long"
  | .invalidName => "invalid argument"
  | .other reason => reason

/-- What was being done with a file. -/
inductive FileAction where
  | opening
  | reading
  deriving DecidableEq, Inhabited

/-- The word for an action. -/
def FileAction.name : FileAction → String
  | .opening => "open"
  | .reading => "read"

/-- A file could not be used. -/
structure FileFault where
  action : FileAction
  path : String
  cause : FileCause
  deriving DecidableEq, Inhabited

/-- The text of the fault. -/
def FileFault.message (fault : FileFault) : String :=
  fault.action.name ++ " " ++ fault.path ++ ": " ++ fault.cause.message

/-- The outcome of reading each file, by path. -/
abbrev FileReader := String → Except FileFault ByteArray

/-- There is a file at the path. -/
def FileReader.hasFile (read : FileReader) (path : String) : Bool :=
  match read path with
  | .ok _ => true
  | .error fault => fault.cause = .isDirectory

end TapeMachine
