import TapeMachine.Machine.Basic

/-!
Machines built from settings.
-/

namespace TapeMachine

/-- The cells that each half of a tape may have unless a setting says otherwise. -/
def defaultMaxCells : Int := 0x40000000

/-- What decides how a machine behaves. -/
structure MachineSettings where
  maxDepth : Int := defaultMaxDepth
  maxCells : Int := defaultMaxCells
  /-- The name of the policy at the end of the input. -/
  endOfInput : String := ""
  trace : Bool := false
  breakpoints : Bool := false
  deriving DecidableEq, Inhabited

/-- A machine for a program. At least one loop may always be entered. When debug records are kept,
the growth of the tape is among them. A text that names no policy for the end of the input is given
back as the error.
-/
def Machine.build (settings : MachineSettings) (debugging : Bool) (input : Input) (output : Sink)
    (program : Program) : Except String Machine :=
  match EndOfInput.ofName? settings.endOfInput with
  | none => .error settings.endOfInput
  | some endOfInput =>
    .ok
      { program
        tape := { limit := settings.maxCells }
        input
        output
        maxDepth := max settings.maxDepth 1
        endOfInput
        trace := settings.trace
        breakpoints := settings.breakpoints
        keepsJournal := debugging
        watchesGrowth := debugging }

end TapeMachine
