import TapeMachine.EndOfInput
import TapeMachine.Instruction
import TapeMachine.Stream
import TapeMachine.Tape

/-!
The state of a machine, the errors that end a run, and the journal of what happened for those who
debug a program.
-/

namespace TapeMachine

/-- Why an instruction failed. -/
inductive Fault where
  /-- A loop was entered inside as many loops as are allowed. -/
  | loopOverflow
  /-- A loop ended that was not entered. -/
  | unmatchedLoopEnd
  /-- The tape may not grow to the cell that was needed. -/
  | exhausted (cause : Exhausted)
  /-- The input or the output failed. -/
  | stream (reason : String)
  deriving DecidableEq, Inhabited

/-- The text of a fault. -/
def Fault.message : Fault → String
  | loopOverflow => "too many nested loops"
  | unmatchedLoopEnd => "unmatched ']'"
  | exhausted cause => cause.message
  | stream reason => reason

/-- An error that ends a run: the instruction that failed, where it stands, the address it found,
and the fault.
-/
structure RunError where
  position : Nat
  address : Address
  instruction : Instruction
  fault : Fault
  deriving DecidableEq, Inhabited

/-- The instruction that failed, as a character. -/
def RunError.mark (error : RunError) : Char :=
  Char.ofNat error.instruction.toByte.toNat

/-- The text of a run error. -/
def RunError.message (error : RunError) : String :=
  s!"pc {error.position}: '{error.mark}' at address {error.address.toInt}: {error.fault.message}"

/-- What the journal of a machine records. -/
inductive Event where
  /-- An instruction or break mark is about to be executed. -/
  | executing (position : Nat) (byte : UInt8) (address : Address) (cell : UInt8) (depth : Nat)
  /-- A byte was read. -/
  | inputByte (byte : UInt8)
  /-- The input had ended when the instruction at a position read it. -/
  | inputEnded (position : Nat) (policy : EndOfInput)
  /-- The tape grew. -/
  | grown (growth : Growth)
  /-- A run failed. -/
  | runFailed (error : RunError)
  /-- A run stopped, for whatever reason. -/
  | runEnded (pc : Int) (steps : Int64) (positive negative : Nat)
  deriving DecidableEq, Inhabited

/-- The loops that may be entered inside each other unless a setting says otherwise. -/
def defaultMaxDepth : Int := 100

/-- A machine in the course of running a program. -/
structure Machine where
  program : Program
  tape : Tape := {}
  /-- The position of the next byte of the program. -/
  pc : Int := 0
  /-- The address of the current cell. -/
  address : Address := 0
  /-- The positions of the loops that were entered and not left, the innermost first. -/
  loops : List Nat := []
  /-- The number of loops to be closed before execution goes on, while a loop is skipped. -/
  skip : Int64 := 0
  /-- The number of instructions executed. -/
  steps : Int64 := 0
  input : Input := {}
  output : Sink := {}
  maxDepth : Int := defaultMaxDepth
  endOfInput : EndOfInput := .unchanged
  /-- Whether every executed instruction is recorded. -/
  trace : Bool := false
  /-- Whether break marks interrupt the run. -/
  breakpoints : Bool := false
  /-- Whether the journal is kept. -/
  keepsJournal : Bool := false
  /-- Whether the growth of the tape is recorded. -/
  watchesGrowth : Bool := false
  journal : Array Event := #[]
  deriving Inhabited

namespace Machine

/-- A machine about to run a program, with a blank tape and no input. -/
def new (program : Program) : Machine :=
  { program }

/-- The program counter reached the end of the program. -/
def done (m : Machine) : Bool :=
  (m.program.size : Int) ≤ m.pc

/-- Adds an event to the journal, if it is kept. -/
def record (m : Machine) (event : Event) : Machine :=
  if m.keepsJournal then { m with journal := m.journal.push event } else m

/-- Brings the cell at an address into being. -/
def reach (m : Machine) (address : Address) : Machine :=
  let m :=
    if m.watchesGrowth then
      { m with journal := m.journal ++ ((m.tape.growth address).map Event.grown).toArray }
    else m
  { m with tape := m.tape.extend address }

/-- The byte of the current cell, which exists afterwards. -/
def cell (m : Machine) : Except Exhausted UInt8 × Machine :=
  if m.tape.refuses m.address then (.error ⟨m.address, m.tape.limit⟩, m)
  else
    let m := m.reach m.address
    (.ok (m.tape.peek m.address), m)

end Machine

end TapeMachine
