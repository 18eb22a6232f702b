import TapeMachine.Log.Logger
import TapeMachine.Machine.Build
import TapeMachine.Settings.Document
import TapeMachine.Text.Choice

/-!
The settings in effect. What the command line says comes first, then the earliest document that says
anything, then what holds without either. A switch is on as soon as anyone switches it on.
-/

namespace TapeMachine.Settings

/-- What a command line says about the machine. Zero and the empty text say nothing. -/
structure MachineFlags where
  maxDepth : Int := 0
  maxCells : Int := 0
  endOfInput : String := ""
  breakpoints : Bool := false
  verbosity : Int := 0
  deriving DecidableEq, Inhabited

/-- The number of loops that may be open at a time. The documents must be usable even where the
command line decides.
-/
def effectiveMaxDepth (flags : MachineFlags) (documents : Documents) : Except LookupError Int := do
  let written ← documents.intOrZero "max_depth"
  return Text.firstNonzero [flags.maxDepth, written, defaultMaxDepth]

/-- The number of cells that each half of the tape may have. On the command line a negative number
lifts the limit; in a document zero does, and hides what later documents say.
-/
def effectiveMaxCells (flags : MachineFlags) (documents : Documents) : Except LookupError Int :=
  if flags.maxCells ≠ 0 then .ok (max flags.maxCells 0)
  else
    match documents.first "max_cells" (.optional .word) with
    | .ok (.present (.int cells)) => .ok cells
    | .ok _ => .ok 0
    | .error .notFound => .ok defaultMaxCells
    | .error cause => .error cause

/-- The name of the policy at the end of the input. -/
def effectiveEndOfInput (flags : MachineFlags) (documents : Documents)
    : Except LookupError String := do
  let written ← documents.textOrEmpty "eof"
  return Text.firstNonempty [flags.endOfInput, written, EndOfInput.unchanged.name]

/-- Every instruction is traced. -/
def effectiveTrace (flags : MachineFlags) (documents : Documents) : Except LookupError Bool :=
  if 1 ≤ flags.verbosity then .ok true else documents.anyOn "trace"

/-- Break marks stop the program. -/
def effectiveBreakpoints (flags : MachineFlags) (documents : Documents) : Except LookupError Bool :=
  if flags.breakpoints then .ok true else documents.anyOn "breakpoints"

/-- The settings of the machine. -/
def effective (flags : MachineFlags) (documents : Documents)
    : Except LookupError MachineSettings := do
  let maxDepth ← effectiveMaxDepth flags documents
  let maxCells ← effectiveMaxCells flags documents
  let endOfInput ← effectiveEndOfInput flags documents
  let trace ← effectiveTrace flags documents
  let breakpoints ← effectiveBreakpoints flags documents
  return { maxDepth, maxCells, endOfInput, trace, breakpoints }

/-- The names under which documents are searched for. -/
def documentNames : List String := ["bf.cue", ".bf.cue"]

/-- The paths of the documents to read: the given ones, then those found in the directories. -/
def documentPaths (hasFile : String → Bool) (given directories : List String) : List String :=
  let candidates := directories.flatMap fun directory => documentNames.map (directory ++ "/" ++ ·)
  given ++ candidates.filter hasFile

/-- The record that says which documents are read, if there are any. -/
def announcement (paths : List String) : Option Log.Record :=
  if paths.isEmpty then none
  else some
    { level := .info
      message := "config file"
      attributes := [⟨"paths", .list (paths.map .text)⟩] }

end TapeMachine.Settings
