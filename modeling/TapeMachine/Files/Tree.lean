import TapeMachine.Files.Fault

/-!
A tree of files held as a value. A directory exists as long as a file is below it. A path is walked
name by name, and every name but the last has to lead to a directory.
-/

namespace TapeMachine

/-- The names of the directories to pass and of the file at the end. -/
abbrev FilePath := List String

namespace FilePath

/-- The greatest number of bytes in a name. -/
def maxNameSize : Nat := 255

/-- The greatest number of bytes in the text of a path. -/
def maxTextSize : Nat := 4095

/-- The path of a text with a slash in front, without a look at what is there: empty names and `.`
stay where they are, and `..` goes up.
-/
def ofText (text : String) : FilePath :=
  let walked := (text.splitOn "/").foldl (fun reached name =>
    if name = "" || name = "." then reached
    else if name = ".." then reached.drop 1
    else name :: reached) []
  walked.reverse

end FilePath

/-- A tree of files, seen from a working directory. -/
structure FileTree where
  directory : FilePath := []
  files : List (FilePath × ByteArray) := []
  deriving Inhabited

namespace FileTree

/-- The content of the file at a path. -/
def get? (tree : FileTree) (path : FilePath) : Option ByteArray :=
  (tree.files.find? (·.1 == path)).map (·.2)

/-- A path is one of a directory: the working directory, one above it, or one above a file. -/
def isDirectory (tree : FileTree) (path : FilePath) : Bool :=
  path.isPrefixOf tree.directory
    || tree.files.any fun file => path.isPrefixOf file.1 && file.1 != path

/-- A path is one of a directory; if not, why nothing can be found below it. -/
def checkDirectory (tree : FileTree) (path : FilePath) : Except FileCause Unit :=
  if tree.isDirectory path then .ok ()
  else if (tree.get? path).isSome then .error .notDirectory
  else .error .missing

/-- Where a name leads from a path, which must be one of a directory. The name `.`, and the empty
name between or behind slashes, stays there.
-/
def follow (tree : FileTree) (path : FilePath) (name : String) : Except FileCause FilePath := do
  tree.checkDirectory path
  if name = "" || name = "." then return path
  if name = ".." then return path.dropLast
  if FilePath.maxNameSize < name.utf8ByteSize then throw .nameTooLong
  return path ++ [name]

/-- Where names lead, one after the other. There need not be anything at the end. -/
def walk (tree : FileTree) (path : FilePath) (names : List String) : Except FileCause FilePath :=
  names.foldlM tree.follow path

/-- Where a path starts that a text names, and the names in it. A text that starts with a slash
starts at the root.
-/
def departure (tree : FileTree) (text : String) : Except FileCause (FilePath × List String) := do
  if text.contains '\x00' then throw .invalidName
  if text.isEmpty then throw .missing
  if FilePath.maxTextSize < text.utf8ByteSize then throw .nameTooLong
  return (if text.startsWith "/" then [] else tree.directory, text.splitOn "/")

/-- The place that a text names. -/
def locate (tree : FileTree) (text : String) : Except FileCause FilePath := do
  let (start, names) ← tree.departure text
  tree.walk start names

/-- Reads a file. -/
def read (tree : FileTree) (text : String) : Except FileFault ByteArray :=
  match tree.locate text with
  | .error cause => .error ⟨.opening, text, cause⟩
  | .ok path =>
    match tree.get? path with
    | some content => .ok content
    | none =>
      if tree.isDirectory path then .error ⟨.reading, text, .isDirectory⟩
      else .error ⟨.opening, text, .missing⟩

/-- The place for a file that a text names: all but its last name must lead to a directory, and the
last one must not be one that stands for a directory.
-/
def placeFor (tree : FileTree) (text : String) : Except FileCause FilePath := do
  let (start, names) ← tree.departure text
  let reversed := names.reverse
  let path ← tree.walk start (reversed.dropWhile (· = "")).tail.reverse
  tree.checkDirectory path
  let name := reversed.headD ""
  if name = "" || name = "." || name = ".." then throw .isDirectory
  let path ← tree.follow path name
  if tree.isDirectory path then throw .isDirectory
  return path

/-- Writes a file, in place of what stood there. -/
def write (tree : FileTree) (text : String) (content : ByteArray) : Except FileFault FileTree :=
  match tree.placeFor text with
  | .error cause => .error ⟨.opening, text, cause⟩
  | .ok path =>
    .ok { tree with files := tree.files.filter (·.1 != path) ++ [(path, content)] }

end FileTree

end TapeMachine
