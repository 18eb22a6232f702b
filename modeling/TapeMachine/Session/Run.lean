import TapeMachine.Files.Tree
import TapeMachine.Log.Span
import TapeMachine.Machine.Snapshot
import TapeMachine.Network.Proxy
import TapeMachine.Session.Options
import TapeMachine.Session.Tap
import TapeMachine.Source

/-!
A session: a command line is read, settings and program are loaded, the program runs, and the state
of the machine may be left in a file. All that a session finds around it comes in as a value, and
all that it says is a value too.
-/

namespace TapeMachine.Session

/-- What a session finds around it. -/
structure World where
  read : FileReader
  fetch : Network.Url → Except RequestError Response
  /-- The directories where documents with settings are searched for. -/
  directories : List String := []
  environment : String → String := fun _ => ""
  /-- The id of the span that the session opens. -/
  span : String
  input : List UInt8 := []

/-- What a session leaves behind. -/
structure Report where
  code : Nat
  output : Array UInt8 := #[]
  errors : String := ""
  deriving DecidableEq, Inhabited

/-- The line that says how to call the program. -/
def synopsis : String := "Usage: bf [-d]... [options] program\n"

/-- The report of a program that broke down after it had said something. -/
def Report.crashed (output : Array UInt8) (errors : String) : Report :=
  { code := 2, output, errors := errors ++ "panic" }

/-- The report of a session that is given up. -/
def Report.refused (errors message : String) : Report :=
  { code := 1, errors := errors ++ message }

/-- A session whose program is running. -/
structure Running where
  options : Options
  span : String
  machine : Machine
  aside : Aside := {}
  /-- The number of steps taken. -/
  index : Nat := 0
  deriving Inhabited

/-- The settings of the machine. The documents and the proxy are announced even if nothing is
fetched; if the address of the proxy or the settings cannot be had, the program breaks down.
-/
def settle (world : World) (options : Options) (paths : List String)
    (documents : Settings.Documents) : Except Report (Aside × MachineSettings) := do
  let say (aside : Aside) (record : Log.Record) : Aside := aside.log options.logger record
  let crash (aside : Aside) (_ : Settings.LookupError) : Report := .crashed #[] aside.errors
  let aside := (Settings.announcement paths).toList.foldl say {}
  let proxy ← (Network.proxyAddress .production documents world.environment).mapError (crash aside)
  let aside := (Network.proxyAnnouncement proxy).toList.foldl say aside
  let settings ← (Settings.effective options.machine documents).mapError (crash aside)
  return (aside, settings)

/-- The response to a request; a request has to name a host. -/
def World.request (world : World) (url : Network.Url) : Except RequestError Response :=
  if url.host.isEmpty then .error (.failed "http: no Host in request URL") else world.fetch url

/-- Builds the machine for a program, and takes over a snapshot if one is asked for. -/
def furnish (world : World) (options : Options) (settings : MachineSettings) (aside : Aside)
    (program : ByteArray) : Except Report (Aside × Machine) := do
  let refuse (aside : Aside) (message : String) : Report :=
    .refused aside.errors ("Error: " ++ message ++ "\n")
  let input : Input := { pending := world.input }
  let debugging := options.logger.enabled .debug
  match Machine.build settings debugging input {} { code := program.data, given := true } with
  | .error name => throw (refuse aside (EndOfInput.badNameMessage name))
  | .ok machine =>
    let aside := aside.log options.logger machine.announcement
    if options.restore.isEmpty then return (aside, machine)
    match world.read options.restore with
    | .error fault => throw (refuse aside fault.message)
    | .ok content =>
      match machine.restore content.data.toList with
      | .error error => throw (refuse aside error.message)
      | .ok machine => return (aside, machine)

/-- Everything up to the first step of the program. The program is the last of the words. -/
def prepare (world : World) (options : Options) (words : List String)
    : Except Report Running := do
  match words.getLast? with
  | none => throw (.refused "" ("missing program\n" ++ synopsis))
  | some source =>
    let paths := Settings.documentPaths (FileReader.hasFile world.read) options.documents
      world.directories
    let documents := Settings.Documents.load world.read Settings.schema paths
    let (aside, settings) ← settle world options paths documents
    let aside := aside.log options.logger (Log.Span.opening none world.span "run")
    match Source.load world.read world.request source with
    | .error error =>
      let message := "Couldn't open " ++ source ++ ": " ++ error.message ++ "\n" ++ synopsis
      throw (.refused aside.errors message)
    | .ok program =>
      let loaded := Source.announcement source program.size (some world.span)
      let aside := aside.log options.logger loaded
      let (aside, machine) ← furnish world options settings aside program
      return { options, span := world.span, machine, aside }

/-- Begins a session: either all is ready for the first step, or the session is over. -/
def start (world : World) (words : List String) : Except Report Running :=
  match Request.ofWords words with
  | .run options words => prepare world options words
  | .print text => .error { code := 0, output := text.toUTF8.data }
  | .explain => .error { code := 0, errors := usage }
  | .reject error => .error { code := 2, errors := error.message ++ "\n\n" ++ usage }

/-- The paths of the files that a session with these words may read. -/
def wantedFiles (directories words : List String) : List String :=
  match Request.ofWords words with
  | .run options words =>
    Settings.documentPaths (fun _ => true) options.documents directories
      ++ [options.restore] ++ words.getLast?.toList.filter (!Source.isRemote ·)
  | _ => []

/-- The program may read its input, or the shell may. -/
def Running.wantsInput (running : Running) : Bool :=
  running.machine.breakpoints
    || running.machine.program.code.contains Instruction.input.toByte

/-- Hands the session its input. -/
def Running.feed (running : Running) (bytes : List UInt8) : Running :=
  { running with machine := { running.machine with input := running.machine.input.feed bytes } }

/-- Takes out what has been said so far. -/
def Running.takeSaid (running : Running) : Array UInt8 × String × Running :=
  (running.machine.output.bytes, running.aside.errors,
    { running with
      machine := { running.machine with output := { running.machine.output with bytes := #[] } }
      aside := { running.aside with errors := "" } })

/-- Lets the program take a number of steps; says how it ended if it did. -/
def Running.advance (running : Running) (steps : Nat) : Option RunEnd × Running :=
  let logger := running.options.logger
  let attendant : Machine.Attendant Aside :=
    { onBreak := tap logger running.span, broken := Aside.crashed }
  let taken := Machine.execFrom attendant running.index steps running.aside running.machine
  match taken with
  | (.unfinished, aside, machine) =>
    let (aside, machine) := aside.drain logger running.span machine
    (none, { running with aside, machine, index := running.index + steps })
  | (ending, aside, machine) =>
    let machine := if aside.crash = some .abrupt then machine else machine.recordEnd
    let (aside, machine) := aside.drain logger running.span machine
    (some ending, { running with aside, machine })

/-- The file to write when the program has ended, with its content. -/
def Running.snapshot? (running : Running) : Option (String × ByteArray) :=
  if running.options.snapshot.isEmpty || running.aside.crashed then none
  else some (running.options.snapshot, ⟨running.machine.snapshot.encode.toArray⟩)

/-- What the session leaves behind, given how the program ended and what went wrong with the
snapshot.
-/
def Running.report (running : Running) (ending : RunEnd) (fault : Option FileFault) : Report :=
  if running.aside.crashed then .crashed running.machine.output.bytes running.aside.errors
  else
    let complain (message : String) : String := "Error: " ++ message ++ "\n"
    let failure := match ending with
      | .failed error => some error.message
      | .cancelled => some RequestError.cancelled.message
      | _ => none
    let wrapped := failure.map (Log.Span.wrap (some running.span))
    { code := if fault.isSome || failure.isSome then 1 else 0
      output := running.machine.output.bytes
      errors := running.aside.errors ++ ((fault.map (complain ·.message)).getD "")
        ++ (wrapped.map complain).getD "" }

/-- A whole session on a tree of files, in which the program takes at most `fuel` steps. -/
def run (tree : FileTree) (world : World) (fuel : Nat) (words : List String)
    : Report × FileTree :=
  match start world words with
  | .error report => (report, tree)
  | .ok running =>
    let (ending, running) := running.advance fuel
    let ending := ending.getD .unfinished
    match running.snapshot? with
    | none => (running.report ending none, tree)
    | some (path, content) =>
      match tree.write path content with
      | .ok tree => (running.report ending none, tree)
      | .error fault => (running.report ending (some fault), tree)

end TapeMachine.Session
