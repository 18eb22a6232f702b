import TapeMachine.Machine.Step

/-!
Runs: steps taken until the program ends, fails or is stopped. A run may go on for ever, so each
of them is given the number of steps it may take.
-/

namespace TapeMachine

/-- How a run came to stop. -/
inductive RunEnd where
  /-- The program counter reached the end of the program. -/
  | finished
  /-- The observer of the run stopped it at an interrupt. -/
  | stopped
  /-- The run was cancelled from outside. -/
  | cancelled
  /-- An instruction failed. -/
  | failed (error : RunError)
  /-- The program counter lay before the program. -/
  | outOfRange (pc : Int)
  /-- The steps that were allowed are used up. -/
  | unfinished
  deriving DecidableEq, Inhabited

namespace Machine

variable {σ : Type}

/-- Steps until the end of the program. Each interrupt is shown to the observer, who keeps a state
and says whether the run goes on.
-/
def run (observe : Nat → σ → Machine → Bool × σ) : Nat → σ → Machine → RunEnd × σ × Machine
  | 0, state, m => (.unfinished, state, m)
  | fuel + 1, state, m =>
    match m.step with
    | (.done, m) => (.finished, state, m)
    | (.next, m) => run observe fuel state m
    | (.interrupted position, m) =>
      let (goesOn, state) := observe position state m
      if goesOn then run observe fuel state m else (.stopped, state, m)
    | (.failed error, m) => (.failed error, state, m)
    | (.outOfRange pc, m) => (.outOfRange pc, state, m)

/-- Those who look after an execution: one cancels it, one answers the breaks. -/
structure Attendant (σ : Type) where
  /-- The execution is to be given up. -/
  cancelled : σ → Machine → Bool := fun _ _ => false
  /-- What happens when the break mark at a position is met. -/
  onBreak : Nat → σ → Machine → σ × Machine := fun _ state m => (state, m)
  /-- The answer to a break put an end to the execution. -/
  broken : σ → Bool := fun _ => false

/-- The number of steps after which a cancellation is looked for again. -/
def cancelInterval : Nat := 4096

/-- Executes from the step with number `index` on. -/
def execFrom (attendant : Attendant σ) (index : Nat)
    : Nat → σ → Machine → RunEnd × σ × Machine
  | 0, state, m => (.unfinished, state, m)
  | fuel + 1, state, m =>
    if index % cancelInterval = 0 && attendant.cancelled state m then (.cancelled, state, m)
    else
      match m.step with
      | (.done, m) => (.finished, state, m)
      | (.next, m) => execFrom attendant (index + 1) fuel state m
      | (.interrupted position, m) =>
        let (state, m) := attendant.onBreak position state m
        if attendant.broken state then (.stopped, state, m)
        else execFrom attendant (index + 1) fuel state m
      | (.failed error, m) => (.failed error, state, m.record (.runFailed error))
      | (.outOfRange pc, m) => (.outOfRange pc, state, m)

/-- Records how far a run came. -/
def recordEnd (m : Machine) : Machine :=
  let (positive, negative) := m.tape.size
  m.record (.runEnded m.pc m.steps positive negative)

/-- Executes the program to its end, and records how far it came. -/
def exec (attendant : Attendant σ) (fuel : Nat) (state : σ) (m : Machine)
    : RunEnd × σ × Machine :=
  let (ending, state, m) := execFrom attendant 0 fuel state m
  (ending, state, m.recordEnd)

end Machine

end TapeMachine
