import TapeMachine.Proofs.Loops.Stack

/-! One machine found again in another: its positions at other positions, its addresses at other
addresses, its commands as other commands. What has to be known of the two is how commands and the
current cell act on their stores; where both take the same kind of instruction, their steps then
correspond, whether a loop is skipped or not and whether the steps fail or not.
-/

namespace TapeMachine

namespace Instruction

/-- An instruction whose command is exchanged for another one; brackets stay. -/
def turned (turn : StoreCommand → StoreCommand) : Instruction → Instruction
  | right => (turn .right).toInstruction
  | left => (turn .left).toInstruction
  | increment => (turn .increment).toInstruction
  | decrement => (turn .decrement).toInstruction
  | output => (turn .output).toInstruction
  | input => (turn .input).toInstruction
  | loopStart => loopStart
  | loopEnd => loopEnd

@[simp]
theorem turned_toInstruction (turn : StoreCommand → StoreCommand) (command : StoreCommand)
    : command.toInstruction.turned turn = (turn command).toInstruction := by
  cases command <;> rfl

@[simp]
theorem turned_id (instruction : Instruction) : instruction.turned id = instruction := by
  cases instruction <;> rfl

end Instruction

/-- How the positions, addresses and commands of one machine are found again in another one, and
which stores correspond. Corresponding stores show the same current cell, refuse it together and
for the same reason, and they go on to correspond when the cell comes into being and when a command
is executed on both.
-/
structure Likeness where
  place : Nat → Nat
  move : Address → Address
  turn : StoreCommand → StoreCommand
  Stores : Store → Store → Prop
  address : ∀ {store other}, Stores store other → other.address = move store.address
  peek
    : ∀ {store other},
        Stores store other
        → other.tape.peek other.address = store.tape.peek store.address
  refuses
    : ∀ {store other},
        Stores store other
        → other.tape.refuses other.address = store.tape.refuses store.address
  cause
    : ∀ {store other},
        Stores store other
        → store.tape.refuses store.address = true
        → (⟨other.address, other.tape.limit⟩ : Exhausted) = ⟨store.address, store.tape.limit⟩
  reached
    : ∀ {store other},
        Stores store other
        → Stores { store with tape := store.tape.extend store.address }
            { other with tape := other.tape.extend other.address }
  exec
    : ∀ {store other} (policy : EndOfInput) (command : StoreCommand),
        Stores store other
        → ((turn command).exec policy other).1 = (command.exec policy store).1
          ∧ Stores (command.exec policy store).2 ((turn command).exec policy other).2

namespace Likeness

/-- An outcome as the other machine has it: at its position, its address and with its
instruction, and with the same fault.
-/
def outcome (likeness : Likeness) : Outcome → Outcome
  | .interrupted position => .interrupted (likeness.place position)
  | .failed error =>
    .failed
      { position := likeness.place error.position
        address := likeness.move error.address
        instruction := error.instruction.turned likeness.turn
        fault := error.fault }
  | outcome => outcome

/-- What stands for a byte in the program of the other machine: the counterpart of an instruction,
and the same comment.
-/
inductive Counterpart (likeness : Likeness) : UInt8 → UInt8 → Prop
  | instruction (instruction : Instruction)
    : Counterpart likeness instruction.toByte (instruction.turned likeness.turn).toByte
  | comment {byte} (meaningless : Instruction.ofByte? byte = none)
    : Counterpart likeness byte byte

/-- The registers of one machine are found again in another one, and their stores correspond. -/
structure Relates (likeness : Likeness) (m other : Machine) : Prop where
  pc : ∃ position : Nat, m.pc = position ∧ other.pc = likeness.place position
  loops : other.loops = m.loops.map likeness.place
  skip : other.skip = m.skip
  steps : other.steps = m.steps
  maxDepth : other.maxDepth = m.maxDepth
  endOfInput : other.endOfInput = m.endOfInput
  store : likeness.Stores m.store other.store

namespace Relates

variable {likeness : Likeness} {m other : Machine} {position : Nat}

theorem pc_eq (related : likeness.Relates m other) (pc : m.pc = position)
    : other.pc = likeness.place position := by
  obtain ⟨found, here, there⟩ := related.pc
  obtain rfl : found = position := by omega
  exact there

theorem peek_eq (related : likeness.Relates m other)
    : other.tape.peek other.address = m.tape.peek m.address := by
  have cell := likeness.peek related.store
  simp only [Machine.store] at cell
  exact cell

theorem refuses_eq (related : likeness.Relates m other)
    : other.tape.refuses other.address = m.tape.refuses m.address :=
  likeness.refuses related.store

/-- Where the byte behind a position is found behind its place, both machines go on to it. -/
theorem onward (related : likeness.Relates m other) (pc : m.pc = position)
    (next : likeness.place (position + 1) = likeness.place position + 1)
    : ∃ position : Nat, m.pc + 1 = position ∧ other.pc + 1 = likeness.place position := by
  refine ⟨position + 1, by omega, ?_⟩
  rw [related.pc_eq pc, next]
  rfl

/-- Machines past corresponding bytes on corresponding stores. -/
theorem advanced (related : likeness.Relates m other) (pc : m.pc = position)
    (next : likeness.place (position + 1) = likeness.place position + 1)
    {store otherStore : Store} (stores : likeness.Stores store otherStore)
    (journal otherJournal : Array Event)
    : likeness.Relates (m.advanced store journal) (other.advanced otherStore otherJournal) :=
  { related with
    pc := related.onward pc next
    steps := congrArg (· + 1) related.steps
    store := stores }

/-- Brackets are counted alike while a loop is skipped, and commands are passed over. -/
theorem countBracket (related : likeness.Relates m other) (instruction : Instruction)
    : likeness.Relates (m.countBracket instruction.toByte)
        (other.countBracket (instruction.turned likeness.turn).toByte) := by
  rcases instruction.command_or_bracket with ⟨command, rfl⟩ | rfl | rfl
  · have passed (m : Machine) (command : StoreCommand)
        : m.countBracket command.toInstruction.toByte = m :=
      m.countBracket_other (by cases command <;> decide) (by cases command <;> decide)
    rw [Instruction.turned_toInstruction, passed, passed]
    exact related
  · rw [Machine.countBracket_loopStart, Instruction.turned, Machine.countBracket_loopStart]
    exact { related with skip := congrArg (· + 1) related.skip }
  · rw [Machine.countBracket_loopEnd, Instruction.turned, Machine.countBracket_loopEnd]
    exact { related with skip := congrArg (· - 1) related.skip }

/-- An instruction that ends in a fault, or in none, has the outcome of its counterpart with the
same fault.
-/
theorem ending (related : likeness.Relates m other) (position : Nat)
    (instruction : Instruction) (fault : Option Fault)
    : other.ending (likeness.place position) (instruction.turned likeness.turn) fault
      = likeness.outcome (m.ending position instruction fault) := by
  have moved : other.address = likeness.move m.address := likeness.address related.store
  cases fault <;> simp only [Machine.ending, outcome, moved]

/-- A bracket that fails has the outcome of its counterpart with the same fault. -/
theorem outcome_of_bracket (related : likeness.Relates m other) (position : Nat)
    {instruction : Instruction}
    (bracket : instruction = .loopStart ∨ instruction = .loopEnd) (fault : Fault)
    : Outcome.failed ⟨likeness.place position, other.address, instruction, fault⟩
      = likeness.outcome (.failed ⟨position, m.address, instruction, fault⟩) := by
  -- Brackets are not exchanged.
  have kept : instruction.turned likeness.turn = instruction := by
    rcases bracket with rfl | rfl <;> rfl
  have moved : other.address = likeness.move m.address := likeness.address related.store
  simp only [outcome, kept, moved]

/-- A loop start is executed alike: on a zero cell the loop is skipped, and on any other one it is
entered, unless as many loops were entered as are allowed.
-/
theorem step_of_loopStart (related : likeness.Relates m other)
    (here : m.Dispatches position .loopStart)
    (there : other.Dispatches (likeness.place position) .loopStart)
    (next : likeness.place (position + 1) = likeness.place position + 1)
    (admitted : m.tape.refuses m.address = false)
    : other.step.1 = likeness.outcome m.step.1
      ∧ likeness.Relates m.step.2 other.step.2 := by
  have otherAdmitted : other.tape.refuses other.address = false := by
    rw [related.refuses_eq, admitted]
  have cell := related.peek_eq
  have depth : other.loops.length = m.loops.length := by rw [related.loops, List.length_map]
  have past := related.advanced here.fetched.pc next (likeness.reached related.store)
  by_cases zero : m.tape.peek m.address = 0
  · obtain ⟨journal, stepped⟩ := here.step_of_bypass admitted zero
    obtain ⟨otherJournal, same⟩ := there.step_of_bypass otherAdmitted (cell.trans zero)
    rw [stepped, same]
    exact ⟨rfl, { past journal otherJournal with skip := rfl }⟩
  · have nonzero : other.tape.peek other.address ≠ 0 := by rwa [cell]
    by_cases deep : m.maxDepth ≤ m.loops.length
    · obtain ⟨journal, stepped⟩ := here.step_of_overflow admitted zero deep
      obtain ⟨otherJournal, same⟩ :=
        there.step_of_overflow otherAdmitted nonzero (by rwa [related.maxDepth, depth])
      rw [stepped, same]
      exact ⟨related.outcome_of_bracket position (Or.inl rfl) .loopOverflow,
        past journal otherJournal⟩
    · obtain ⟨journal, stepped⟩ := here.step_of_entry admitted zero (Int.not_le.mp deep)
      obtain ⟨otherJournal, same⟩ := there.step_of_entry otherAdmitted nonzero
        (by rw [related.maxDepth, depth]; exact Int.not_le.mp deep)
      rw [stepped, same]
      refine ⟨rfl, { past journal otherJournal with loops := ?_ }⟩
      exact congrArg (List.cons _) related.loops

/-- A loop end is executed alike: it takes off the innermost loop, if there is one, and goes back
to its start unless the cell is zero.
-/
theorem step_of_loopEnd (related : likeness.Relates m other)
    (here : m.Dispatches position .loopEnd)
    (there : other.Dispatches (likeness.place position) .loopEnd)
    (next : likeness.place (position + 1) = likeness.place position + 1)
    (admitted : m.tape.refuses m.address = false)
    : other.step.1 = likeness.outcome m.step.1
      ∧ likeness.Relates m.step.2 other.step.2 := by
  have otherAdmitted : other.tape.refuses other.address = false := by
    rw [related.refuses_eq, admitted]
  have cell := related.peek_eq
  have past := related.advanced here.fetched.pc next (likeness.reached related.store)
  have entered := related.loops
  cases inside : m.loops with
  | nil =>
      rw [inside, List.map_nil] at entered
      obtain ⟨journal, stepped⟩ := here.step_of_unmatched admitted inside
      obtain ⟨otherJournal, same⟩ := there.step_of_unmatched otherAdmitted entered
      rw [stepped, same]
      exact ⟨related.outcome_of_bracket position (Or.inr rfl) .unmatchedLoopEnd,
        past journal otherJournal⟩
  | cons start loops =>
      rw [inside, List.map_cons] at entered
      by_cases zero : m.tape.peek m.address = 0
      · obtain ⟨journal, stepped⟩ := here.step_of_leave admitted zero inside
        obtain ⟨otherJournal, same⟩ :=
          there.step_of_leave otherAdmitted (cell.trans zero) entered
        rw [stepped, same]
        exact ⟨rfl, { past journal otherJournal with loops := rfl }⟩
      · obtain ⟨journal, stepped⟩ := here.step_of_jump admitted zero inside
        obtain ⟨otherJournal, same⟩ :=
          there.step_of_jump otherAdmitted (by rwa [cell]) entered
        rw [stepped, same]
        exact ⟨rfl, { past journal otherJournal with pc := ⟨start, rfl, rfl⟩, loops := rfl }⟩

/-- A command is executed alike, as corresponding stores say. -/
theorem step_of_command (related : likeness.Relates m other) {command : StoreCommand}
    (here : m.Dispatches position command.toInstruction)
    (there
      : other.Dispatches (likeness.place position) (likeness.turn command).toInstruction)
    (next : likeness.place (position + 1) = likeness.place position + 1)
    : other.step.1 = likeness.outcome m.step.1
      ∧ likeness.Relates m.step.2 other.step.2 := by
  obtain ⟨journal, stepped⟩ := here.step_of_command
  obtain ⟨otherJournal, same⟩ := there.step_of_command
  obtain ⟨fault, stores⟩ := likeness.exec m.endOfInput command related.store
  rw [stepped, same, related.endOfInput, fault, ← Instruction.turned_toInstruction]
  exact ⟨related.ending _ _ _, related.advanced here.fetched.pc next stores _ _⟩

/-- A bracket on a refused cell fails alike. -/
theorem step_of_refused (related : likeness.Relates m other) {instruction : Instruction}
    (bracket : instruction = .loopStart ∨ instruction = .loopEnd)
    (here : m.Dispatches position instruction)
    (there : other.Dispatches (likeness.place position) instruction)
    (next : likeness.place (position + 1) = likeness.place position + 1)
    (refused : m.tape.refuses m.address = true)
    : other.step.1 = likeness.outcome m.step.1
      ∧ likeness.Relates m.step.2 other.step.2 := by
  have cause : (⟨other.address, other.tape.limit⟩ : Exhausted) = ⟨m.address, m.tape.limit⟩ :=
    likeness.cause related.store refused
  obtain ⟨journal, stepped⟩ := here.step_of_refused bracket refused
  obtain ⟨otherJournal, same⟩ :=
    there.step_of_refused bracket (related.refuses_eq.trans refused)
  rw [stepped, same, cause]
  exact ⟨related.outcome_of_bracket position bracket _,
    related.advanced here.fetched.pc next related.store journal otherJournal⟩

/-- Where one machine takes an instruction and the other one its counterpart, their steps
correspond.
-/
theorem step (related : likeness.Relates m other) {instruction : Instruction}
    (here : m.Fetches position instruction.toByte)
    (there
      : other.Fetches (likeness.place position) (instruction.turned likeness.turn).toByte)
    (next : likeness.place (position + 1) = likeness.place position + 1)
    : other.step.1 = likeness.outcome m.step.1
      ∧ likeness.Relates m.step.2 other.step.2 := by
  by_cases skipping : 0 < m.skip
  · rw [here.step_of_skipping skipping, there.step_of_skipping (by rwa [related.skip])]
    refine ⟨rfl, countBracket ?_ instruction⟩
    exact { related with pc := related.onward here.pc next }
  have mine : m.Dispatches position instruction := ⟨here, skipping⟩
  have its : other.Dispatches (likeness.place position) (instruction.turned likeness.turn) :=
    ⟨there, by rwa [related.skip]⟩
  rcases instruction.command_or_bracket with ⟨command, rfl⟩ | bracket
  · rw [Instruction.turned_toInstruction] at its
    exact related.step_of_command mine its next
  -- Commands find out about the current cell themselves; of a bracket, it is read beforehand.
  have kept : instruction.turned likeness.turn = instruction := by
    rcases bracket with rfl | rfl <;> rfl
  rw [kept] at its
  cases refused : m.tape.refuses m.address with
  | true => exact related.step_of_refused bracket mine its next refused
  | false =>
      rcases bracket with rfl | rfl
      · exact related.step_of_loopStart mine its next refused
      · exact related.step_of_loopEnd mine its next refused

/-- Where both machines take the same comment, both pass it or both are interrupted. -/
theorem step_of_comment (related : likeness.Relates m other) {byte : UInt8}
    (here : m.Fetches position byte) (there : other.Fetches (likeness.place position) byte)
    (next : likeness.place (position + 1) = likeness.place position + 1)
    (breakpoints : other.breakpoints = m.breakpoints)
    (comment : Instruction.ofByte? byte = none)
    : other.step.1 = likeness.outcome m.step.1
      ∧ likeness.Relates m.step.2 other.step.2 := by
  have past : likeness.Relates { m with pc := m.pc + 1 } { other with pc := other.pc + 1 } :=
    { related with pc := related.onward here.pc next }
  by_cases skipping : 0 < m.skip
  · rw [here.step_of_skipping skipping, there.step_of_skipping (by rwa [related.skip]),
      Machine.countBracket_of_comment _ comment, Machine.countBracket_of_comment _ comment]
    exact ⟨rfl, past⟩
  have normal : ¬0 < other.skip := by rwa [related.skip]
  by_cases marked : byte = breakMark ∧ m.breakpoints = true
  · obtain ⟨rfl, breaks⟩ := marked
    obtain ⟨journal, stepped⟩ := here.step_of_break skipping breaks
    obtain ⟨otherJournal, same⟩ := there.step_of_break normal (breakpoints.trans breaks)
    rw [stepped, same]
    exact ⟨rfl, related.advanced here.pc next related.store journal otherJournal⟩
  · rw [here.step_of_comment skipping comment marked,
      there.step_of_comment normal comment (by rwa [breakpoints])]
    exact ⟨rfl, past⟩

/-- Where one machine takes a byte and the other one what stands for it, their steps correspond. -/
theorem step_of_counterpart (related : likeness.Relates m other) {byte otherByte : UInt8}
    (here : m.Fetches position byte)
    (there : other.Fetches (likeness.place position) otherByte)
    (next : likeness.place (position + 1) = likeness.place position + 1)
    (breakpoints : other.breakpoints = m.breakpoints)
    (counterpart : likeness.Counterpart byte otherByte)
    : other.step.1 = likeness.outcome m.step.1
      ∧ likeness.Relates m.step.2 other.step.2 := by
  cases counterpart with
  | instruction instruction => exact related.step here there next
  | comment meaningless => exact related.step_of_comment here there next breakpoints meaningless

end Relates

end Likeness

end TapeMachine
