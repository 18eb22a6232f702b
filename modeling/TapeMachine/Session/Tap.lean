import TapeMachine.Log.Logger
import TapeMachine.Machine.Journal
import TapeMachine.Machine.Run
import TapeMachine.Shell.Dialogue

/-!
The debug shell at a break mark. It shares the input with the program: it takes all lines that the
program has not yet taken in, and answers them before the program goes on.
-/

namespace TapeMachine.Session

/-- The number of bytes that the program takes in at a time. -/
def readAhead : Nat := 4096

/-- The bytes left to the shell, and the input left to the program: what it has taken in stays with
it.
-/
def shareInput (input : Input) : List UInt8 × Input :=
  let kept := (readAhead - input.reads % readAhead) % readAhead
  (input.pending.drop kept, { input with pending := input.pending.take kept })

/-- What is said on the side while a program runs. -/
structure Aside where
  /-- The text on the error stream. -/
  errors : String := ""
  /-- A question in the shell brought the program down. -/
  crash : Option Shell.Crash := none
  deriving Inhabited

namespace Aside

/-- The program was brought down. -/
def crashed (aside : Aside) : Bool := aside.crash.isSome

/-- Adds a line. -/
def addLine (aside : Aside) (line : String) : Aside :=
  { aside with errors := aside.errors ++ line ++ "\n" }

/-- Adds the line of a record, if the logger writes it. -/
def log (aside : Aside) (logger : Log.Logger) (record : Log.Record) : Aside :=
  match logger.line? record with
  | some line => aside.addLine line
  | none => aside

/-- Adds the records of what a machine has noted since the last time. -/
def drain (aside : Aside) (logger : Log.Logger) (span : String) (m : Machine) : Aside × Machine :=
  let (events, m) := m.takeJournal
  (events.foldl (fun aside event => aside.log logger (event.recordIn (some span))) aside, m)

end Aside

/-- Takes an answer in: what it says goes to the output of the program, or to the side. -/
def takeAnswer (turn : Aside × Machine) (answer : Shell.Answer) : Aside × Machine :=
  let (aside, m) := turn
  let shown := answer.output.toUTF8.data
  ({ aside with
      errors := aside.errors ++ answer.errors
      crash := aside.crash.or answer.crash },
    { m with output := { m.output with bytes := m.output.bytes ++ shown } })

/-- Opens the shell at the break mark at a position. -/
def tap (logger : Log.Logger) (span : String) (position : Nat) (aside : Aside) (m : Machine)
    : Aside × Machine :=
  let (aside, m) := aside.drain logger span m
  let what := "break at " ++ toString position
  let aside := aside.log logger
    { level := .info
      message := "tap: " ++ what
      attributes := [⟨"globals", .list ((Shell.tapNames m).map .text)⟩]
      span := some span }
  let (bytes, input) := shareInput m.input
  let m := { m with input }
  let (aside, m) := (Shell.converse m bytes).foldl takeAnswer (aside, m)
  if aside.crash = some .abrupt then (aside, m)
  else (aside.log logger { level := .info, message := "tap end: " ++ what, span := some span }, m)

end TapeMachine.Session
