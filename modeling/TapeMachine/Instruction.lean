/-!
The eight instructions, each written as one byte, and the programs made of them. Every other byte
of a program is a comment, except that the break mark can be made to interrupt a run.
-/

namespace TapeMachine

/-- What a machine can be told to do. -/
inductive Instruction where
  /-- Move to the next higher address. -/
  | right
  /-- Move to the next lower address. -/
  | left
  /-- Add one to the current cell. -/
  | increment
  /-- Subtract one from the current cell. -/
  | decrement
  /-- Write the current cell to the output. -/
  | output
  /-- Read a byte of input into the current cell. -/
  | input
  /-- Enter the loop, or skip it when the current cell is zero. -/
  | loopStart
  /-- Go back to the start of the loop, or leave it when the current cell is zero. -/
  | loopEnd
  deriving DecidableEq, Inhabited

namespace Instruction

/-- The byte that stands for an instruction. -/
def toByte : Instruction → UInt8
  | right => 0x3e
  | left => 0x3c
  | increment => 0x2b
  | decrement => 0x2d
  | output => 0x2e
  | input => 0x2c
  | loopStart => 0x5b
  | loopEnd => 0x5d

/-- The instruction that a byte stands for, if any. -/
def ofByte? (byte : UInt8) : Option Instruction :=
  if byte = 0x3e then some right
  else if byte = 0x3c then some left
  else if byte = 0x2b then some increment
  else if byte = 0x2d then some decrement
  else if byte = 0x2e then some output
  else if byte = 0x2c then some input
  else if byte = 0x5b then some loopStart
  else if byte = 0x5d then some loopEnd
  else none

/-- Reading the byte of an instruction gives the instruction back. -/
theorem ofByte?_toByte (instruction : Instruction)
    : ofByte? instruction.toByte = some instruction := by
  cases instruction <;> decide

end Instruction

/-- The byte that interrupts a run when breakpoints are on. -/
def breakMark : UInt8 := 0x23

/-- The text of a program. A program that was never given runs like an empty one, but is told
apart from it in snapshots.
-/
structure Program where
  code : Array UInt8 := #[]
  given : Bool := true
  deriving DecidableEq, Inhabited

/-- The number of bytes of a program. -/
def Program.size (program : Program) : Nat :=
  program.code.size

/-- The byte at a position. -/
def Program.byte? (program : Program) (position : Nat) : Option UInt8 :=
  program.code[position]?

end TapeMachine
