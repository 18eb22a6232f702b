import TapeMachine.Log.Logger
import TapeMachine.Machine.Basic

/-!
The journal of a machine as log records.
-/

namespace TapeMachine

namespace Event

/-- The record of an event. -/
def toRecord : Event → Log.Record
  | executing position byte address cell depth =>
    { level := .debug
      message := "exec"
      attributes := [⟨"pc", .int position⟩, ⟨"op", .text (toString (Char.ofNat byte.toNat))⟩,
        ⟨"addr", .int address.toInt⟩, ⟨"cell", .int cell.toNat⟩, ⟨"depth", .int depth⟩] }
  | inputByte byte =>
    { level := .debug, message := "input", attributes := [⟨"byte", .int byte.toNat⟩] }
  | inputEnded position policy =>
    { level := .debug
      message := "end of input"
      attributes := [⟨"pc", .int position⟩, ⟨"policy", .text policy.name⟩] }
  | grown growth =>
    { level := .debug
      message := "tape grown"
      attributes := [⟨"half", .text growth.half.name⟩, ⟨"size", .int growth.size⟩] }
  | runFailed error =>
    { level := .debug
      message := "run failed"
      attributes := [⟨"error", .text error.message⟩] }
  | runEnded pc steps positive negative =>
    { level := .debug
      message := "run end"
      attributes := [⟨"pc", .int pc⟩, ⟨"steps", .int steps.toInt⟩,
        ⟨"positive", .int positive⟩, ⟨"negative", .int negative⟩] }

/-- The event concerns a run as a whole, so its record names the span of the run. -/
def concernsRun : Event → Bool
  | runFailed _ => true
  | runEnded _ _ _ _ => true
  | _ => false

/-- The record of an event that happened in a span. -/
def recordIn (event : Event) (span : Option String) : Log.Record :=
  { event.toRecord with span := if event.concernsRun then span else none }

end Event

/-- The record that announces a machine that was just built. -/
def Machine.announcement (m : Machine) : Log.Record :=
  { level := .debug
    message := "machine"
    attributes := [⟨"program", .int m.program.size⟩, ⟨"max_depth", .int m.maxDepth⟩,
      ⟨"max_cells", .int m.tape.limit⟩, ⟨"eof", .text m.endOfInput.name⟩,
      ⟨"trace", .bool m.trace⟩, ⟨"breakpoints", .bool m.breakpoints⟩] }

/-- Takes the journal out of a machine. -/
def Machine.takeJournal (m : Machine) : Array Event × Machine :=
  (m.journal, { m with journal := #[] })

end TapeMachine
