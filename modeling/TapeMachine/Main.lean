import TapeMachine.Session.Run

/-!
The program on the command line. It gathers what a session needs to see, lets the session run in
slices, and writes down what it says. It has no connection to the network: a remote source is never
fetched, every request for one fails.
-/

namespace TapeMachine.Main

/-- Reads a file. -/
def readFile (path : String) : IO (Except FileFault ByteArray) := do
  try
    if ← (← IO.FS.realPath path).isDir then
      return .error ⟨.reading, path, .isDirectory⟩
    return .ok (← IO.FS.readBinFile path)
  catch
    | .noFileOrDirectory .. => return .error ⟨.opening, path, .missing⟩
    | error => return .error ⟨.opening, path, .other (toString error)⟩

/-- Writes a file; says what went wrong. -/
def writeFile (path : String) (content : ByteArray) : IO (Option FileFault) := do
  try
    IO.FS.writeBinFile path content
    return none
  catch
    | .noFileOrDirectory .. => return some ⟨.opening, path, .missing⟩
    | error => return some ⟨.opening, path, .other (toString error)⟩

/-- The directories where documents with settings are searched for. -/
def searchedDirectories : IO (List String) := do
  let user ← match (← IO.getEnv "XDG_CONFIG_HOME"), (← IO.getEnv "HOME") with
    | some directory, _ => pure [directory]
    | none, some home => pure [home ++ "/.config"]
    | none, none => pure []
  return (← IO.currentDir).toString :: user ++ ["/etc"]

/-- A random id for a span. -/
def randomId : IO String := do
  let bytes ← IO.getRandomBytes Log.Span.idLength.toUSize
  let letter (byte : UInt8) : Char := Log.Span.idAlphabet.getD (byte.toNat % 32) 'A'
  return String.ofList (bytes.data.toList.map letter)

/-- Writes what was said. -/
def say (output : Array UInt8) (errors : String) : IO Unit := do
  let stdout ← IO.getStdout
  unless output.isEmpty do
    stdout.write ⟨output⟩
    stdout.flush
  unless errors.isEmpty do
    (← IO.getStderr).putStr errors

/-- The number of steps between two looks at what a program said. -/
def slice : Nat := 65536

/-- Runs the program to its end. -/
partial def drive (running : Session.Running) : IO (RunEnd × Session.Running) := do
  let (ending, running) := running.advance slice
  match ending with
  | some ending => return (ending, running)
  | none =>
    let (output, errors, running) := running.takeSaid
    say output errors
    drive running

/-- A session in the real world. -/
def session (words : List String) : IO Session.Report := do
  let directories ← searchedDirectories
  let files ← (Session.wantedFiles directories words).mapM fun path =>
    return (path, ← readFile path)
  let named ← Network.proxyVariables.mapM fun name => return (name, ← IO.getEnv name)
  let world : Session.World :=
    { read := fun path => (files.lookup path).getD (.error ⟨.opening, path, .missing⟩)
      fetch := fun _ => .error (.failed "no connection to the network")
      directories
      environment := fun name => ((named.lookup name).join).getD ""
      span := ← randomId }
  match Session.start world words with
  | .error report => return report
  | .ok running =>
    let running ← if running.wantsInput then
        pure (running.feed (← (← IO.getStdin).readBinToEnd).data.toList)
      else pure running
    let (ending, running) ← drive running
    let fault ← match running.snapshot? with
      | none => pure none
      | some (path, content) => writeFile path content
    return running.report ending fault

end TapeMachine.Main

/-- Runs a program from the command line. -/
def main (words : List String) : IO UInt32 := do
  let report ← TapeMachine.Main.session words
  TapeMachine.Main.say report.output report.errors
  return report.code.toUInt32
