import TapeMachine.Proofs.Machine.Likeness

/-! Machines that agree on what steps look at go on alike.
A step looks at the registers, the tape, the program, four settings, the input still to come and
the failures still to come at the output. It never looks at the bytes that were written, at the
journal, or at how often the streams were used before, so two machines may differ in these.
-/

namespace TapeMachine

-----------------------------------------------------------------------------------------
-- Streams
-----------------------------------------------------------------------------------------

/-- Two inputs give the same from now on. -/
structure Input.Alike (input other : Input) : Prop where
  pending : other.pending = input.pending
  failure : other.failure = input.failure

/-- Inputs that give the same do so once more afterwards. -/
theorem Input.Alike.read {input other : Input} (alike : input.Alike other)
    : other.read.1 = input.read.1 ∧ input.read.2.Alike other.read.2 := by
  unfold Input.read
  rw [alike.pending, alike.failure]
  cases input.pending with
  | nil => exact ⟨rfl, rfl, rfl⟩
  | cons byte rest => exact ⟨rfl, rfl, rfl⟩

/-- The same attempts fail at two outputs from now on, and for the same reasons. -/
structure Sink.FailsAlike (sink other : Sink) : Prop where
  write
    : ∀ later,
        other.writeFailure (other.writes + later) = sink.writeFailure (sink.writes + later)
  flush
    : ∀ later,
        other.flushFailure (other.flushes + later) = sink.flushFailure (sink.flushes + later)

/-- Two outputs fail alike, and the same bytes arrived at both behind those of the past. -/
structure Sink.Alike (past otherPast : Array UInt8) (sink other : Sink) : Prop
    extends sink.FailsAlike other where
  arrived : ∃ bytes, sink.bytes = past ++ bytes ∧ other.bytes = otherPast ++ bytes

namespace Sink.Alike

variable {past otherPast : Array UInt8} {sink other : Sink}

/-- What fails at one output fails at the other, and what arrives at one arrives at the other. -/
theorem writes (alike : Sink.Alike past otherPast sink other) (value : UInt8)
    : (other.write value).1 = (sink.write value).1
      ∧ Sink.Alike past otherPast (sink.write value).2 (other.write value).2 := by
  have now := alike.write 0
  have next (later : Nat)
      : other.writeFailure (other.writes + 1 + later)
        = sink.writeFailure (sink.writes + 1 + later) := by
    simpa only [Nat.add_assoc] using alike.write (1 + later)
  simp only [Nat.add_zero] at now
  unfold Sink.write
  rw [now]
  cases sink.writeFailure sink.writes with
  | some reason => exact ⟨rfl, ⟨next, alike.flush⟩, alike.arrived⟩
  | none =>
      obtain ⟨bytes, here, there⟩ := alike.arrived
      refine ⟨rfl, ⟨next, alike.flush⟩, bytes.push value, ?_, ?_⟩
      · simp only [here, Array.append_push]
      · simp only [there, Array.append_push]

/-- Flushing fails at both outputs or at neither. -/
theorem flushes (alike : Sink.Alike past otherPast sink other)
    : other.flush.1 = sink.flush.1
      ∧ Sink.Alike past otherPast sink.flush.2 other.flush.2 := by
  have next (later : Nat)
      : other.flushFailure (other.flushes + 1 + later)
        = sink.flushFailure (sink.flushes + 1 + later) := by
    simpa only [Nat.add_assoc] using alike.flush (1 + later)
  exact ⟨alike.flush 0, ⟨alike.write, next⟩, alike.arrived⟩

end Sink.Alike

-----------------------------------------------------------------------------------------
-- Stores
-----------------------------------------------------------------------------------------

/-- Two stores with the same tape and address, and with streams that go on alike. -/
structure Store.Alike (past otherPast : Array UInt8) (store other : Store) : Prop where
  tape : other.tape = store.tape
  address : other.address = store.address
  input : store.input.Alike other.input
  output : Sink.Alike past otherPast store.output other.output

/-- Two results with the same fault, or both without one, on stores that go on alike. -/
structure Store.ResultsAlike (past otherPast : Array UInt8)
    (result other : Option Fault × Store) : Prop where
  fault : other.1 = result.1
  store : Store.Alike past otherPast result.2 other.2

namespace Store.Alike

variable {past otherPast : Array UInt8} {store other : Store}

theorem goTo (alike : Store.Alike past otherPast store other) (address : Address)
    : ResultsAlike past otherPast (store.goTo address) (other.goTo address) := by
  unfold Store.goTo
  rw [alike.tape]
  cases store.tape.resolve address with
  | error cause => exact ⟨rfl, alike⟩
  | ok tape => exact ⟨rfl, rfl, rfl, alike.input, alike.output⟩

theorem update (alike : Store.Alike past otherPast store other) (change : UInt8 → UInt8)
    : ResultsAlike past otherPast (store.update change) (other.update change) := by
  unfold Store.update
  rw [alike.tape, alike.address]
  cases store.tape.get store.address with
  | error cause => exact ⟨rfl, alike⟩
  | ok found => exact ⟨rfl, rfl, rfl, alike.input, alike.output⟩

theorem emit (alike : Store.Alike past otherPast store other)
    : ResultsAlike past otherPast store.emit other.emit := by
  unfold Store.emit
  rw [alike.tape, alike.address]
  cases store.tape.get store.address with
  | error cause => exact ⟨rfl, alike⟩
  | ok found =>
      obtain ⟨value, tape⟩ := found
      obtain ⟨same, written⟩ := alike.output.writes value
      dsimp only
      rcases here : store.output.write value with ⟨failure, output⟩
      rcases there : other.output.write value with ⟨otherFailure, otherOutput⟩
      rw [here, there] at same written
      obtain rfl : otherFailure = failure := same
      cases otherFailure with
      | some reason => exact ⟨rfl, rfl, rfl, alike.input, written⟩
      | none =>
          obtain ⟨same, flushed⟩ := written.flushes
          exact ⟨congrArg (Option.map Fault.stream) same, rfl, rfl, alike.input, flushed⟩

theorem fill (alike : Store.Alike past otherPast store other) (value? : Option UInt8)
    : ResultsAlike past otherPast (store.fill value?) (other.fill value?) := by
  unfold Store.fill
  cases value? with
  | none =>
      simp only [alike.tape, alike.address]
      cases store.tape.resolve store.address with
      | error cause => exact ⟨rfl, alike⟩
      | ok tape => exact ⟨rfl, rfl, rfl, alike.input, alike.output⟩
  | some value =>
      simp only [alike.tape, alike.address]
      cases store.tape.set store.address value with
      | error cause => exact ⟨rfl, alike⟩
      | ok tape => exact ⟨rfl, rfl, rfl, alike.input, alike.output⟩

theorem accept (alike : Store.Alike past otherPast store other) (policy : EndOfInput)
    : ResultsAlike past otherPast (store.accept policy) (other.accept policy) := by
  obtain ⟨same, after⟩ := alike.input.read
  unfold Store.accept
  rcases here : store.input.read with ⟨reading, input⟩
  rcases there : other.input.read with ⟨otherReading, otherInput⟩
  rw [here, there] at same after
  obtain rfl : otherReading = reading := same
  have taken : Store.Alike past otherPast { store with input }
      { other with input := otherInput } :=
    ⟨alike.tape, alike.address, after, alike.output⟩
  cases otherReading with
  | byte value => exact taken.fill (some value)
  | ended => exact taken.fill policy.stored?
  | failed reason => exact ⟨rfl, taken⟩

/-- Every command does the same to stores that go on alike. -/
theorem exec (alike : Store.Alike past otherPast store other) (policy : EndOfInput)
    (command : StoreCommand)
    : ResultsAlike past otherPast (command.exec policy store) (command.exec policy other) := by
  cases command with
  | right => simpa only [StoreCommand.exec, alike.address] using alike.goTo (store.address + 1)
  | left => simpa only [StoreCommand.exec, alike.address] using alike.goTo (store.address - 1)
  | increment => exact alike.update (· + 1)
  | decrement => exact alike.update (· - 1)
  | output => exact alike.emit
  | input => exact alike.accept policy

end Store.Alike

-----------------------------------------------------------------------------------------
-- Machines
-----------------------------------------------------------------------------------------

namespace Machine

/-- Two machines agree on everything that steps look at, and since the bytes of the past the same
bytes arrived at their outputs.
-/
structure Alike (past otherPast : Array UInt8) (m other : Machine) : Prop where
  program : other.program = m.program
  pc : other.pc = m.pc
  loops : other.loops = m.loops
  skip : other.skip = m.skip
  steps : other.steps = m.steps
  maxDepth : other.maxDepth = m.maxDepth
  endOfInput : other.endOfInput = m.endOfInput
  breakpoints : other.breakpoints = m.breakpoints
  store : Store.Alike past otherPast m.store other.store

/-- A machine found again in one that agrees with it: everything is at the same place. -/
def agreement (past otherPast : Array UInt8) : Likeness where
  place := id
  move := id
  turn := id
  Stores := Store.Alike past otherPast
  address := fun alike => alike.address
  peek := fun alike => by rw [alike.tape, alike.address]
  refuses := fun alike => by rw [alike.tape, alike.address]
  cause := fun alike _ => by rw [alike.tape, alike.address]
  reached := fun alike =>
    ⟨by simp only [alike.tape, alike.address], alike.address, alike.input, alike.output⟩
  exec := fun policy command alike =>
    ⟨(alike.exec policy command).fault, (alike.exec policy command).store⟩

/-- Machines that agree have the same outcomes. -/
theorem outcome_agreement (past otherPast : Array UInt8) (outcome : Outcome)
    : (agreement past otherPast).outcome outcome = outcome := by
  cases outcome with
  | failed error => simp only [Likeness.outcome, agreement, Instruction.turned_id, id]
  | done | next | interrupted | outOfRange => rfl

/-- Machines that agree hold the same bytes, be they instructions or comments. -/
theorem counterpart_agreement (past otherPast : Array UInt8) (byte : UInt8)
    : (agreement past otherPast).Counterpart byte byte := by
  cases means : Instruction.ofByte? byte with
  | none => exact .comment means
  | some instruction =>
      obtain rfl := Instruction.ofByte?_eq_some_iff.mp means
      have found : (agreement past otherPast).Counterpart instruction.toByte
          (instruction.turned id).toByte := .instruction instruction
      rwa [Instruction.turned_id] at found

namespace Alike

variable {past otherPast : Array UInt8} {m other : Machine}

theorem done (alike : Alike past otherPast m other) : other.done = m.done := by
  simp only [Machine.done, alike.program, alike.pc]

theorem fetches (alike : Alike past otherPast m other) {position : Nat} {byte : UInt8}
    (fetched : m.Fetches position byte)
    : other.Fetches position byte :=
  ⟨alike.pc.trans fetched.pc, by rw [alike.program]; exact fetched.byte⟩

/-- Machines that agree are found again in each other at a position of their program. -/
theorem relates (alike : Alike past otherPast m other) {position : Nat} (pc : m.pc = position)
    : (agreement past otherPast).Relates m other where
  pc := ⟨position, pc, alike.pc.trans pc⟩
  loops := alike.loops.trans (List.map_id _).symm
  skip := alike.skip
  steps := alike.steps
  maxDepth := alike.maxDepth
  endOfInput := alike.endOfInput
  store := alike.store

/-- One step has the same outcome in both machines and leaves them alike. -/
theorem step (alike : Alike past otherPast m other)
    : other.step.1 = m.step.1 ∧ Alike past otherPast m.step.2 other.step.2 := by
  have settings := m.sameSettings_step
  have otherSettings := other.sameSettings_step
  by_cases ended : m.done = true
  · rw [step_of_done ended, step_of_done (alike.done.trans ended)]
    exact ⟨rfl, alike⟩
  by_cases before : m.pc < 0
  · rw [step_of_misplaced before, step_of_misplaced (by rwa [alike.pc])]
    exact ⟨congrArg Outcome.outOfRange alike.pc, alike⟩
  obtain ⟨position, byte, fetched⟩ :=
    fetches_of_inside (Bool.eq_false_iff.mpr ended) (Int.not_lt.mp before)
  obtain ⟨outcome, related⟩ :=
    (alike.relates fetched.pc).step_of_counterpart fetched (alike.fetches fetched) rfl
      alike.breakpoints (counterpart_agreement past otherPast byte)
  obtain ⟨next, here, there⟩ := related.pc
  refine ⟨outcome.trans (outcome_agreement past otherPast _), ?_⟩
  exact {
    program := by rw [settings.program, otherSettings.program, alike.program]
    pc := there.trans here.symm
    loops := related.loops.trans (List.map_id _)
    skip := related.skip
    steps := related.steps
    maxDepth := related.maxDepth
    endOfInput := related.endOfInput
    breakpoints := by rw [settings.breakpoints, otherSettings.breakpoints, alike.breakpoints]
    store := related.store
  }

/-- Any number of steps leaves the machines alike, whether steps fail or not. -/
theorem after (alike : Alike past otherPast m other) (count : Nat)
    : Alike past otherPast (m.after count) (other.after count) := by
  induction count with
  | zero => exact alike
  | succ count ih => exact ih.step.2

/-- Every step of a run has the same outcome in both machines. -/
theorem outcome (alike : Alike past otherPast m other) (index : Nat)
    : other.outcome index = m.outcome index :=
  (alike.after index).step.1

end Alike

end Machine

end TapeMachine
