import TapeMachine.Proofs.Machine.History

/-! A step that fails says truly where it failed and leaves the machine as it was. The instruction
may have come as far as its current cell, which is zero if it is a new one, as a byte of input, or
as the output; nothing that it would have changed afterwards is changed.
-/

namespace TapeMachine

/-- The tape may not grow to the cell that was needed. -/
def Fault.isExhaustion : Fault → Bool
  | exhausted _ => true
  | _ => false

/-- The step failed as the tape is exhausted. -/
def Outcome.isExhaustion : Outcome → Bool
  | failed error => error.fault.isExhaustion
  | _ => false

-----------------------------------------------------------------------------------------
-- What a fault leaves of a store
-----------------------------------------------------------------------------------------

namespace Store

/-- What an instruction that raised a fault left of a store: at most the current cell came into
being, and the streams were used by those instructions only that are for them.
-/
structure SparedBy (store : Store) (instruction : Instruction) (fault : Fault) (next : Store)
    : Prop where
  tape : next.tape = store.tape ∨ next.tape = store.tape.extend store.address
  exhausted : fault.isExhaustion = true → next.tape = store.tape
  address : next.address = store.address
  input : instruction ≠ .input → next.input = store.input
  output : instruction ≠ .output → next.output = store.output

variable {store next : Store} {fault : Fault}

/-- A fault may leave all of a store as it was. -/
theorem SparedBy.refl (instruction : Instruction) : store.SparedBy instruction fault store :=
  ⟨Or.inl rfl, fun _ => rfl, rfl, fun _ => rfl, fun _ => rfl⟩

theorem goTo_of_fault {address : Address} (raised : store.goTo address = (some fault, next))
    : next = store := by
  unfold goTo at raised
  split at raised <;> cases raised
  rfl

theorem update_of_fault {change : UInt8 → UInt8}
    (raised : store.update change = (some fault, next))
    : next = store := by
  unfold update at raised
  split at raised <;> cases raised
  rfl

theorem fill_of_fault {value? : Option UInt8} (raised : store.fill value? = (some fault, next))
    : next = store := by
  cases value? with
  | none =>
      dsimp only [fill] at raised
      split at raised <;> cases raised
      rfl
  | some value =>
      dsimp only [fill] at raised
      split at raised <;> cases raised
      rfl

/-- Output fails on a refused cell, or on the stream when the cell exists. -/
theorem emit_of_fault (raised : store.emit = (some fault, next))
    : next = store
      ∨ ∃ output reason,
          next = { store with tape := store.tape.extend store.address, output }
          ∧ fault = .stream reason := by
  unfold emit at raised
  rw [Tape.get_eq] at raised
  cases refused : store.tape.refuses store.address with
  | true =>
      simp only [refused, if_true] at raised
      cases raised
      exact Or.inl rfl
  | false =>
      simp only [refused, Bool.false_eq_true, if_false] at raised
      rcases written : store.output.write (store.tape.peek store.address) with ⟨failure, output⟩
      rw [written] at raised
      cases failure with
      | some reason =>
          cases raised
          exact Or.inr ⟨output, reason, rfl, rfl⟩
      | none =>
          obtain ⟨failed, rfl⟩ := Prod.mk.inj raised
          obtain ⟨reason, _, rfl⟩ := Option.map_eq_some_iff.mp failed
          exact Or.inr ⟨output.flush.2, reason, rfl, rfl⟩

/-- Input that fails took a byte at most. -/
theorem accept_of_fault {policy : EndOfInput} (raised : store.accept policy = (some fault, next))
    : ∃ input, next = { store with input } := by
  unfold accept at raised
  rcases taken : store.input.read with ⟨reading, input⟩
  rw [taken] at raised
  refine ⟨input, ?_⟩
  cases reading with
  | byte value => exact fill_of_fault raised
  | ended => exact fill_of_fault raised
  | failed reason =>
      cases raised
      rfl

end Store

/-- Every command that raises a fault spares the store. -/
theorem StoreCommand.spares {store next : Store} {fault : Fault} {policy : EndOfInput}
    (command : StoreCommand) (raised : command.exec policy store = (some fault, next))
    : store.SparedBy command.toInstruction fault next := by
  cases command with
  | right | left =>
      obtain rfl := Store.goTo_of_fault raised
      exact .refl _
  | increment | decrement =>
      obtain rfl := Store.update_of_fault raised
      exact .refl _
  | output =>
      rcases Store.emit_of_fault raised with rfl | ⟨output, reason, rfl, rfl⟩
      · exact .refl _
      · exact ⟨Or.inr rfl, nofun, rfl, fun _ => rfl, fun other => absurd rfl other⟩
  | input =>
      obtain ⟨input, rfl⟩ := Store.accept_of_fault raised
      exact ⟨Or.inl rfl, fun _ => rfl, rfl, fun other => absurd rfl other, fun _ => rfl⟩

-----------------------------------------------------------------------------------------
-- What a failed step leaves of a machine
-----------------------------------------------------------------------------------------

namespace Machine

/-- A step that fails was executing the instruction that the error names, at the address that it
names, and leaves the machine past its byte with a store that the fault spared; by the cases of a
step.
-/
theorem step_eq_of_failure {m : Machine} {error : RunError} (fails : m.step.1 = .failed error)
    : m.Dispatches error.position error.instruction
      ∧ error.address = m.address
      ∧ ∃ store journal,
          m.step.2 = m.advanced store journal
          ∧ m.store.SparedBy error.instruction error.fault store := by
  rcases stepped : m.step with ⟨outcome, next⟩
  rw [stepped] at fails
  cases transition_of_step stepped with
  | ended | misplaced | scanned | passed | interrupted | bypassed | entered | left | repeated =>
      cases fails
  | commanded journal dispatched =>
      obtain ⟨fault, raised, same⟩ := failed_of_ending fails nofun
      obtain rfl := Outcome.failed.inj same
      exact ⟨dispatched, rfl, _, journal, rfl, StoreCommand.spares _ (Prod.ext raised rfl)⟩
  | refused journal dispatched =>
      obtain rfl := Outcome.failed.inj fails
      exact ⟨dispatched, rfl, m.store, journal, rfl, .refl _⟩
  | overflowed journal dispatched | unmatched journal dispatched =>
      obtain rfl := Outcome.failed.inj fails
      exact ⟨dispatched, rfl, m.reached, journal, rfl,
        Or.inr rfl, nofun, rfl, fun _ => rfl, fun _ => rfl⟩

/-- What is left of a machine by a step that failed with an error. -/
structure FailedTo (m : Machine) (error : RunError) (next : Machine) : Prop where
  pc : next.pc = m.pc + 1
  /-- The number of steps is a word. -/
  steps : next.steps = m.steps + 1
  address : next.address = m.address
  loops : next.loops = m.loops
  skip : next.skip = m.skip
  settings : m.SameSettings next
  debugging : next.debugging = m.debugging
  cells : next.tape.peek = m.tape.peek
  /-- If anything, the zero cells that were missing up to the current one came into being. -/
  tape : next.tape = m.tape ∨ next.tape = m.tape.extend m.address
  exhausted : error.fault.isExhaustion = true → next.tape = m.tape
  input : error.instruction ≠ .input → next.input = m.input
  output : error.instruction ≠ .output → next.output = m.output

end Machine

/-- An error says where a machine stands and which instruction is there. -/
structure RunError.Describes (error : RunError) (m : Machine) : Prop where
  position : m.pc = error.position
  address : error.address = m.address
  instruction : m.program.byte? error.position = some error.instruction.toByte

namespace Machine

/-- A step that fails reports and preserves the state truthfully. For every machine, reachable or
not: if a step fails, its error gives the position, the address and the instruction from before
the step. Afterwards the machine is past the instruction and has counted the step; the registers
and all bytes on the tape are as before, a tape that is exhausted is left exactly as it was, and
only the instructions for input and output have used a stream.
-/
theorem failure_truthful (m : Machine) (error : RunError) (fails : m.step.1 = .failed error)
    : error.Describes m
      ∧ m.FailedTo error m.step.2
      ∧ (m.steps.toInt + 1 < 0x8000000000000000
          → m.step.2.steps.toInt = m.steps.toInt + 1) := by
  obtain ⟨dispatched, address, store, journal, stepped, spared⟩ := step_eq_of_failure fails
  have settings := m.sameSettings_step
  have cells : store.tape.peek = m.tape.peek := by
    rcases spared.tape with same | grown
    · rw [same]
      rfl
    · rw [grown]
      exact funext (m.tape.peek_extend m.address)
  rw [stepped] at settings ⊢
  refine ⟨⟨dispatched.fetched.pc, address, dispatched.fetched.byte⟩, ?_, toInt_succ_of_lt⟩
  exact {
    pc := rfl
    steps := rfl
    address := spared.address
    loops := rfl
    skip := rfl
    settings
    debugging := rfl
    cells
    tape := spared.tape
    exhausted := spared.exhausted
    input := spared.input
    output := spared.output
  }

/-- A program that writes the first cell to an output that fails. -/
def brokenOutput : Setup :=
  { program := { code := #[0x2e] }
    output := { writeFailure := fun _ => some "bad output" }
    size_lt := by decide
    empty_of_absent := by decide }

theorem failure_truthful_brokenOutput
    : brokenOutput.machine.step.1 = .failed ⟨0, 0, .output, .stream "bad output"⟩
      ∧ brokenOutput.machine.step.2.pc = 1
      ∧ brokenOutput.machine.step.2.tape.positive = #[0]
      ∧ brokenOutput.machine.step.2.tape.peek = brokenOutput.machine.tape.peek
      ∧ brokenOutput.machine.step.2.input = {} := by
  have fails
      : brokenOutput.machine.step.1 = .failed ⟨0, 0, .output, .stream "bad output"⟩ := by
    decide
  obtain ⟨_, left, _⟩ := failure_truthful brokenOutput.machine _ fails
  exact ⟨fails, left.pc, by decide, left.cells, left.input nofun⟩

end Machine

end TapeMachine
