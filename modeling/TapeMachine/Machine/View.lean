import TapeMachine.Machine.Basic

/-!
What a machine shows of itself to somebody who debugs it: its registers and a window of cells
around the current address. Looking does not change the tape.
-/

namespace TapeMachine

/-- The registers of a machine and the cells around its address. -/
structure MachineView where
  pc : Int
  address : Address
  cell : UInt8
  /-- The loops that were entered and not left, the outermost first. -/
  loops : List Nat
  skip : Int64
  steps : Int64
  /-- The address of the first cell of the window. -/
  start : Address
  window : Array UInt8
  positive : Nat
  negative : Nat
  deriving DecidableEq, Inhabited

/-- The cells that the window shows on each side of the current address. -/
def windowRadius : Address := 8

/-- What a machine shows of itself. Where the window would reach past the greatest or the least
address it is empty.
-/
def Machine.view (m : Machine) : MachineView :=
  { pc := m.pc
    address := m.address
    cell := m.tape.peek m.address
    loops := m.loops.reverse
    skip := m.skip
    steps := m.steps
    start := m.address - windowRadius
    window := (m.tape.range? (m.address - windowRadius) (m.address + windowRadius)).getD #[]
    positive := m.tape.positive.size
    negative := m.tape.negative.size }

end TapeMachine
