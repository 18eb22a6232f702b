import TapeMachine.Machine.Step
import TapeMachine.Proofs.Tape.Cells

/-! The six instructions that do not steer a run, told apart from the machine that executes them.
They act on a tape, an address, an input and an output and on nothing else; that is all a
structured program needs to know of them, and all that a step needs to be told about them.
-/

namespace TapeMachine

/-- What the instructions other than brackets act on. -/
structure Store where
  tape : Tape
  address : Address
  input : Input
  output : Sink

namespace Store

/-- The current cell exists. -/
def HoldsCell (store : Store) : Prop :=
  store.tape.Holds store.address

/-- Moves to an address, whose cell exists afterwards. -/
def goTo (store : Store) (address : Address) : Option Fault × Store :=
  match store.tape.resolve address with
  | .error cause => (some (.exhausted cause), store)
  | .ok tape => (none, { store with tape, address })

/-- Replaces the byte of the current cell by a function of it. -/
def update (store : Store) (change : UInt8 → UInt8) : Option Fault × Store :=
  match store.tape.get store.address with
  | .error cause => (some (.exhausted cause), store)
  | .ok (value, tape) => (none, { store with tape := tape.put store.address (change value) })

/-- Writes the byte of the current cell to the output and flushes it. -/
def emit (store : Store) : Option Fault × Store :=
  match store.tape.get store.address with
  | .error cause => (some (.exhausted cause), store)
  | .ok (value, tape) =>
    match store.output.write value with
    | (some reason, output) => (some (.stream reason), { store with tape, output })
    | (none, output) =>
      let (failure, output) := output.flush
      (failure.map .stream, { store with tape, output })

/-- Stores a byte in the current cell, if there is one to store; the cell exists afterwards in any
case.
-/
def fill (store : Store) : Option UInt8 → Option Fault × Store
  | some value =>
    match store.tape.set store.address value with
    | .error cause => (some (.exhausted cause), store)
    | .ok tape => (none, { store with tape })
  | none =>
    match store.tape.resolve store.address with
    | .error cause => (some (.exhausted cause), store)
    | .ok tape => (none, { store with tape })

/-- Reads a byte of input into the current cell; at the end of the input the policy decides. -/
def accept (store : Store) (policy : EndOfInput) : Option Fault × Store :=
  match store.input.read with
  | (.byte value, input) => { store with input }.fill (some value)
  | (.ended, input) => { store with input }.fill policy.stored?
  | (.failed reason, input) => (some (.stream reason), { store with input })

@[simp]
theorem output_goTo (store : Store) (address : Address)
    : (store.goTo address).2.output = store.output := by
  unfold goTo
  split <;> rfl

@[simp]
theorem output_update (store : Store) (change : UInt8 → UInt8)
    : (store.update change).2.output = store.output := by
  unfold update
  split <;> rfl

@[simp]
theorem output_fill (store : Store) (value? : Option UInt8)
    : (store.fill value?).2.output = store.output := by
  unfold fill
  cases value? with
  | none => dsimp only; split <;> rfl
  | some value => dsimp only; split <;> rfl

@[simp]
theorem output_accept (store : Store) (policy : EndOfInput)
    : (store.accept policy).2.output = store.output := by
  unfold accept
  split <;> simp

end Store

/-- The instructions other than brackets. -/
inductive StoreCommand where
  | right
  | left
  | increment
  | decrement
  | output
  | input
  deriving DecidableEq

namespace StoreCommand

/-- A command as an instruction. -/
def toInstruction : StoreCommand → Instruction
  | right => .right
  | left => .left
  | increment => .increment
  | decrement => .decrement
  | output => .output
  | input => .input

/-- What a command does to a store: the fault it raises, if any, and the store it leaves. -/
def exec (policy : EndOfInput) (store : Store) : StoreCommand → Option Fault × Store
  | right => store.goTo (store.address + 1)
  | left => store.goTo (store.address - 1)
  | increment => store.update (· + 1)
  | decrement => store.update (· - 1)
  | output => store.emit
  | input => store.accept policy

end StoreCommand

/-- Every instruction is a command or a bracket. -/
theorem Instruction.command_or_bracket (instruction : Instruction)
    : (∃ command : StoreCommand, instruction = command.toInstruction)
      ∨ instruction = .loopStart
      ∨ instruction = .loopEnd := by
  cases instruction with
  | right => exact Or.inl ⟨.right, rfl⟩
  | left => exact Or.inl ⟨.left, rfl⟩
  | increment => exact Or.inl ⟨.increment, rfl⟩
  | decrement => exact Or.inl ⟨.decrement, rfl⟩
  | output => exact Or.inl ⟨.output, rfl⟩
  | input => exact Or.inl ⟨.input, rfl⟩
  | loopStart => exact Or.inr (Or.inl rfl)
  | loopEnd => exact Or.inr (Or.inr rfl)

-----------------------------------------------------------------------------------------
-- The machine executes commands on its store
-----------------------------------------------------------------------------------------

namespace Machine

/-- The store of a machine. -/
def store (m : Machine) : Store :=
  { tape := m.tape, address := m.address, input := m.input, output := m.output }

/-- The machine with another store and another journal. -/
def withStore (m : Machine) (store : Store) (journal : Array Event) : Machine :=
  { m with
    tape := store.tape
    address := store.address
    input := store.input
    output := store.output
    journal }

/-- Recording changes the journal only. -/
theorem record_eq (m : Machine) (event : Event)
    : ∃ journal, m.record event = { m with journal } := by
  unfold record
  split
  · exact ⟨_, rfl⟩
  · exact ⟨m.journal, rfl⟩

/-- Bringing a cell into being changes the tape and the journal only. -/
theorem reach_eq (m : Machine) (address : Address)
    : ∃ journal, m.reach address = { m with tape := m.tape.extend address, journal } := by
  unfold reach
  split
  · exact ⟨_, rfl⟩
  · exact ⟨m.journal, rfl⟩

/-- Beginning a step changes the number of steps and the journal only. -/
theorem beginStep_eq (m : Machine) (position : Nat) (byte : UInt8)
    : ∃ journal, m.beginStep position byte = { m with steps := m.steps + 1, journal } := by
  simp only [beginStep]
  split
  · obtain ⟨journal, recorded⟩ := record_eq { m with steps := m.steps + 1 }
      (.executing position byte m.address (m.tape.peek m.address) m.loops.length)
    exact ⟨journal, recorded⟩
  · exact ⟨m.journal, rfl⟩

/-- Working on a refused cell is a fault and changes nothing. -/
theorem onCell_of_refused {m : Machine} (refused : m.tape.refuses m.address = true)
    (andThen : UInt8 → Machine → Option Fault × Machine)
    : m.onCell andThen = (some (.exhausted ⟨m.address, m.tape.limit⟩), m) := by
  simp only [onCell, refused, if_true]

/-- Working on a cell that is not refused sees its byte, on a tape where it exists. -/
theorem onCell_of_admitted {m : Machine} (admitted : m.tape.refuses m.address = false)
    (andThen : UInt8 → Machine → Option Fault × Machine)
    : ∃ journal, m.onCell andThen
        = andThen (m.tape.peek m.address)
            { m with tape := m.tape.extend m.address, journal } := by
  obtain ⟨journal, reached⟩ := m.reach_eq m.address
  refine ⟨journal, ?_⟩
  simp only [onCell, admitted, reached, Tape.peek_extend, Bool.false_eq_true, if_false]

/-- A move of the machine is a move of its store. -/
theorem moveTo_eq (m : Machine) (address : Address)
    : ∃ journal, m.moveTo address
        = ((m.store.goTo address).1, m.withStore (m.store.goTo address).2 journal) := by
  unfold moveTo Store.goTo Tape.resolve
  cases refused : m.tape.refuses address with
  | true => exact ⟨m.journal, by simp [store, refused, withStore]⟩
  | false =>
      obtain ⟨journal, reached⟩ := m.reach_eq address
      exact ⟨journal, by simp [store, refused, withStore, reached]⟩

/-- An update of the current cell is an update of the store. -/
theorem onCell_update_eq (m : Machine) (change : UInt8 → UInt8)
    : ∃ journal, (m.onCell fun value m => (none, m.put (change value)))
        = ((m.store.update change).1, m.withStore (m.store.update change).2 journal) := by
  unfold Store.update
  rw [Tape.get_eq]
  cases refused : m.tape.refuses m.address with
  | true => exact ⟨m.journal, by simp [store, refused, withStore, onCell_of_refused refused]⟩
  | false =>
      obtain ⟨journal, worked⟩ := onCell_of_admitted refused
        (fun value m => (none, m.put (change value)))
      refine ⟨journal, ?_⟩
      rw [worked]
      simp [store, refused, withStore, put]

/-- Output of the current cell is output of the store. -/
theorem onCell_emit_eq (m : Machine)
    : ∃ journal, (m.onCell fun value m => m.emit value)
        = (m.store.emit.1, m.withStore m.store.emit.2 journal) := by
  unfold Store.emit
  rw [Tape.get_eq]
  cases refused : m.tape.refuses m.address with
  | true => exact ⟨m.journal, by simp [store, refused, withStore, onCell_of_refused refused]⟩
  | false =>
      obtain ⟨journal, worked⟩ := onCell_of_admitted refused (fun value m => m.emit value)
      refine ⟨journal, ?_⟩
      rw [worked]
      simp only [store, refused, emit, Sink.emit, Bool.false_eq_true, if_false]
      cases written : m.output.write (m.tape.peek m.address) with
      | mk failure output => cases failure <;> simp [withStore]

/-- Storing a byte, or only asking for the current cell, is filling the store. What is stored may
be looked up in the machine, as long as growth of the tape does not change it.
-/
theorem onCell_fill_eq (m : Machine) (choose : Machine → Option UInt8)
    (steady : ∀ journal, choose { m with tape := m.tape.extend m.address, journal } = choose m)
    : ∃ journal,
        (m.onCell fun _ m =>
          match choose m with
          | some value => (none, m.put value)
          | none => (none, m))
        = ((m.store.fill (choose m)).1, m.withStore (m.store.fill (choose m)).2 journal) := by
  cases refused : m.tape.refuses m.address with
  | true =>
      refine ⟨m.journal, ?_⟩
      rw [onCell_of_refused refused]
      cases choose m <;> simp [Store.fill, store, Tape.set_eq, Tape.resolve, refused, withStore]
  | false =>
      obtain ⟨journal, worked⟩ := onCell_of_admitted refused
        (fun _ m =>
          match choose m with
          | some value => (none, m.put value)
          | none => (none, m))
      refine ⟨journal, ?_⟩
      rw [worked]
      simp only [steady journal]
      cases choose m <;>
        simp [Store.fill, store, Tape.set_eq, Tape.resolve, refused, withStore, put]

/-- Reading input is accepting it in the store. -/
theorem readInput_eq (m : Machine) (position : Nat)
    : ∃ journal, m.readInput position
        = ((m.store.accept m.endOfInput).1,
            m.withStore (m.store.accept m.endOfInput).2 journal) := by
  unfold readInput Store.accept
  cases taken : m.input.read with
  | mk reading input =>
      cases reading with
      | byte value =>
          obtain ⟨journal, recorded⟩
              : ∃ journal,
                  (if m.trace then { m with input }.record (.inputByte value)
                    else { m with input })
                  = { m with input, journal } := by
            split
            · exact record_eq { m with input } _
            · exact ⟨m.journal, rfl⟩
          obtain ⟨later, filled⟩ := onCell_fill_eq { m with input, journal }
            (fun _ => some value) (fun _ => rfl)
          refine ⟨later, ?_⟩
          simp only [store, taken, recorded] at filled ⊢
          exact filled
      | ended =>
          obtain ⟨journal, recorded⟩ := record_eq { m with input }
            (.inputEnded position m.endOfInput)
          obtain ⟨later, filled⟩ := onCell_fill_eq { m with input, journal }
            (fun m => m.endOfInput.stored?) (fun _ => rfl)
          refine ⟨later, ?_⟩
          simp only [store, taken, recorded] at filled ⊢
          exact filled
      | failed reason => exact ⟨m.journal, by simp [store, taken, withStore]⟩

/-- A machine executes a command on its store; nothing but the journal changes besides. -/
theorem perform_command (m : Machine) (position : Nat) (command : StoreCommand)
    : ∃ journal, m.perform position command.toInstruction
        = ((command.exec m.endOfInput m.store).1,
            m.withStore (command.exec m.endOfInput m.store).2 journal) := by
  cases command with
  | right => exact m.moveTo_eq (m.address + 1)
  | left => exact m.moveTo_eq (m.address - 1)
  | increment => exact m.onCell_update_eq (· + 1)
  | decrement => exact m.onCell_update_eq (· - 1)
  | output => exact m.onCell_emit_eq
  | input => exact m.readInput_eq position

end Machine

end TapeMachine
