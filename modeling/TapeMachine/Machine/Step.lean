import TapeMachine.Machine.Basic

/-!
One step of a machine. A step takes the byte at the program counter; while a loop is skipped it
only counts brackets, otherwise it executes the instruction the byte stands for.
-/

namespace TapeMachine

/-- What a step led to. -/
inductive Outcome where
  /-- There was no byte left to take. -/
  | done
  /-- The run goes on. -/
  | next
  /-- The break mark at a position asks for attention; the run may go on. -/
  | interrupted (position : Nat)
  /-- The run cannot go on. -/
  | failed (error : RunError)
  /-- The program counter lies before the program. -/
  | outOfRange (pc : Int)
  deriving DecidableEq, Inhabited

namespace Machine

/-- Continues with the current cell and the machine on whose tape it exists, unless the limit of
the tape refuses the cell.
-/
@[inline]
def onCell (m : Machine) (andThen : UInt8 → Machine → Option Fault × Machine)
    : Option Fault × Machine :=
  if m.tape.refuses m.address then (some (.exhausted ⟨m.address, m.tape.limit⟩), m)
  else
    let m := m.reach m.address
    andThen (m.tape.peek m.address) m

/-- Writes a byte to the current cell, which exists. -/
def put (m : Machine) (value : UInt8) : Machine :=
  { m with tape := m.tape.put m.address value }

/-- Moves to an address, whose cell exists afterwards. -/
def moveTo (m : Machine) (address : Address) : Option Fault × Machine :=
  if m.tape.refuses address then (some (.exhausted ⟨address, m.tape.limit⟩), m)
  else
    let m := m.reach address
    (none, { m with address })

/-- Writes the current cell to the output. -/
def emit (m : Machine) (value : UInt8) : Option Fault × Machine :=
  let (failure, output) := m.output.emit value
  (failure.map .stream, { m with output })

/-- Reads a byte of input into the current cell. At the end of the input the policy decides what
is stored, if anything.
-/
def readInput (m : Machine) (position : Nat) : Option Fault × Machine :=
  let (reading, input) := m.input.read
  let m := { m with input }
  match reading with
  | .byte value =>
    let m := if m.trace then m.record (.inputByte value) else m
    m.onCell fun _ m => (none, m.put value)
  | .ended =>
    let m := m.record (.inputEnded position m.endOfInput)
    m.onCell fun _ m =>
      match m.endOfInput.stored? with
      | some value => (none, m.put value)
      | none => (none, m)
  | .failed reason => (some (.stream reason), m)

/-- Enters the loop that starts at a position, or starts to skip it when the cell is zero. The end
of the loop comes back here, so the cell is tested and the loop entered anew each time around.
-/
def startLoop (m : Machine) (position : Nat) (value : UInt8) : Option Fault × Machine :=
  if value = 0 then (none, { m with skip := 1 })
  else if m.maxDepth ≤ m.loops.length then (some .loopOverflow, m)
  else (none, { m with loops := position :: m.loops })

/-- Leaves the innermost loop, and goes back to its start when the cell is not zero. -/
def endLoop (m : Machine) (value : UInt8) : Option Fault × Machine :=
  match m.loops with
  | [] => (some .unmatchedLoopEnd, m)
  | start :: loops =>
    if value = 0 then (none, { m with loops })
    else (none, { m with loops, pc := start })

/-- Executes an instruction that stands at a position. -/
def perform (m : Machine) (position : Nat) : Instruction → Option Fault × Machine
  | .right => m.moveTo (m.address + 1)
  | .left => m.moveTo (m.address - 1)
  | .increment => m.onCell fun value m => (none, m.put (value + 1))
  | .decrement => m.onCell fun value m => (none, m.put (value - 1))
  | .output => m.onCell fun value m => m.emit value
  | .input => m.readInput position
  | .loopStart => m.onCell fun value m => m.startLoop position value
  | .loopEnd => m.onCell fun value m => m.endLoop value

/-- While a loop is skipped, a bracket changes the number of loops to be closed. -/
def countBracket (m : Machine) (byte : UInt8) : Machine :=
  match Instruction.ofByte? byte with
  | some .loopStart => { m with skip := m.skip + 1 }
  | some .loopEnd => { m with skip := m.skip - 1 }
  | _ => m

/-- Counts a step, and records it when the machine traces. -/
def beginStep (m : Machine) (position : Nat) (byte : UInt8) : Machine :=
  let m := { m with steps := m.steps + 1 }
  if m.trace then
    m.record (.executing position byte m.address (m.tape.peek m.address) m.loops.length)
  else m

/-- Acts on the byte at a position, past which the program counter already is. -/
def dispatch (m : Machine) (position : Nat) (byte : UInt8) : Outcome × Machine :=
  if 0 < m.skip then (.next, m.countBracket byte)
  else
    match Instruction.ofByte? byte with
    | some instruction =>
      let address := m.address
      match (m.beginStep position byte).perform position instruction with
      | (none, m) => (.next, m)
      | (some fault, m) => (.failed ⟨position, address, instruction, fault⟩, m)
    | none =>
      if byte = breakMark && m.breakpoints then
        (.interrupted position, m.beginStep position byte)
      else (.next, m)

/-- Takes one step. -/
def step (m : Machine) : Outcome × Machine :=
  if m.done then (.done, m)
  else if m.pc < 0 then (.outOfRange m.pc, m)
  else
    let position := m.pc.toNat
    match m.program.byte? position with
    | none => (.done, m)
    | some byte => { m with pc := m.pc + 1 }.dispatch position byte

end Machine

end TapeMachine
