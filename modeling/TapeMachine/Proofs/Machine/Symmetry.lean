import TapeMachine.Proofs.Machine.Likeness
import TapeMachine.Proofs.Tape.Memory

/-! A tape without a limit has no preferred place and no preferred direction. Moving all addresses
by the same distance, or mirroring them and exchanging the two moves in the program, gives the same
run at other addresses. The two halves of the tape do not matter, as a run only sees the bytes at
its addresses.
-/

namespace TapeMachine

-----------------------------------------------------------------------------------------
-- Symmetries of the addresses
-----------------------------------------------------------------------------------------

/-- A way to exchange addresses that keeps neighbours, in the same direction or in the opposite
one.
-/
structure TapeSymmetry where
  move : Address → Address
  mirrors : Bool
  injective : Function.Injective move
  above
    : ∀ address,
        move (address + 1) = if mirrors then move address - 1 else move address + 1
  below
    : ∀ address,
        move (address - 1) = if mirrors then move address + 1 else move address - 1

/-- The move in the opposite direction; all other commands stay. -/
def StoreCommand.mirrored : StoreCommand → StoreCommand
  | right => left
  | left => right
  | command => command

/-- The byte of the move in the opposite direction; all other bytes stay. -/
def mirroredByte (byte : UInt8) : UInt8 :=
  if byte = Instruction.right.toByte then Instruction.left.toByte
  else if byte = Instruction.left.toByte then Instruction.right.toByte
  else byte

/-- The program with its moves in the opposite directions. -/
def Program.mirrored (program : Program) : Program :=
  { program with code := program.code.map mirroredByte }

namespace TapeSymmetry

/-- Every address is exchanged for its negation. -/
def mirror : TapeSymmetry where
  move := fun address => -address
  mirrors := true
  injective := fun _ _ => Int64.neg_inj.mp
  above := fun address => by simp only [if_true]; grind
  below := fun address => by simp only [if_true]; grind

/-- Every address is moved by the same distance. -/
def shift (distance : Address) : TapeSymmetry where
  move := fun address => address + distance
  mirrors := false
  injective := fun _ _ => (Int64.add_left_inj distance).mp
  above := fun address => by simp only [Bool.false_eq_true, if_false]; grind
  below := fun address => by simp only [Bool.false_eq_true, if_false]; grind

/-- The command that does at exchanged addresses what a command does. -/
def turn (symmetry : TapeSymmetry) (command : StoreCommand) : StoreCommand :=
  if symmetry.mirrors then command.mirrored else command

/-- The byte that stands at the place of a byte in a program for exchanged addresses. -/
def byte (symmetry : TapeSymmetry) (byte : UInt8) : UInt8 :=
  if symmetry.mirrors then mirroredByte byte else byte

/-- The byte of an instruction is exchanged for that of the exchanged instruction. -/
theorem byte_toByte (symmetry : TapeSymmetry) (instruction : Instruction)
    : symmetry.byte instruction.toByte = (instruction.turned symmetry.turn).toByte := by
  cases mirrors : symmetry.mirrors <;> cases instruction <;>
    simp only [byte, turn, Instruction.turned, mirrors, Bool.false_eq_true, if_true,
      if_false] <;> decide

/-- Comments are the same for exchanged addresses. -/
theorem byte_of_comment (symmetry : TapeSymmetry) {byte : UInt8}
    (comment : Instruction.ofByte? byte = none)
    : symmetry.byte byte = byte := by
  have other (instruction : Instruction) : byte ≠ instruction.toByte := by
    rintro rfl
    rw [Instruction.ofByte?_toByte] at comment
    cases comment
  unfold TapeSymmetry.byte mirroredByte
  rw [if_neg (other .right), if_neg (other .left), ite_self]

-----------------------------------------------------------------------------------------
-- Stores at exchanged addresses
-----------------------------------------------------------------------------------------

/-- The tapes of two stores without limits hold the same bytes at exchanged addresses. -/
structure Stores (symmetry : TapeSymmetry) (store other : Store) : Prop where
  address : other.address = symmetry.move store.address
  peek : ∀ address, other.tape.peek (symmetry.move address) = store.tape.peek address
  limit : store.tape.limit ≤ 0
  otherLimit : other.tape.limit ≤ 0
  input : other.input = store.input
  output : other.output = store.output

namespace Stores

variable {symmetry : TapeSymmetry} {store other : Store}

/-- Cells that come into being do not show, wherever they are. -/
theorem extend (same : symmetry.Stores store other) (address otherAddress : Address)
    : symmetry.Stores { store with tape := store.tape.extend address }
        { other with tape := other.tape.extend otherAddress } where
  address := same.address
  peek := by
    intro address
    rw [Tape.peek_extend, Tape.peek_extend, same.peek]
  limit := by rw [Tape.limit_extend]; exact same.limit
  otherLimit := by rw [Tape.limit_extend]; exact same.otherLimit
  input := same.input
  output := same.output

/-- The same byte is put at exchanged addresses. -/
theorem put (same : symmetry.Stores store other) {address : Address} (value : UInt8)
    (held : store.tape.Holds address) (otherHeld : other.tape.Holds (symmetry.move address))
    : symmetry.Stores { store with tape := store.tape.put address value }
        { other with tape := other.tape.put (symmetry.move address) value } where
  address := same.address
  peek := by
    intro looked
    -- No other address is exchanged for the one that was written at.
    simp only [Tape.peek_put held, Tape.peek_put otherHeld, Function.update_apply,
      symmetry.injective.eq_iff, same.peek]
  limit := by rw [Tape.limit_put]; exact same.limit
  otherLimit := by rw [Tape.limit_put]; exact same.otherLimit
  input := same.input
  output := same.output

theorem goTo (same : symmetry.Stores store other) (address : Address)
    : (other.goTo (symmetry.move address)).1 = (store.goTo address).1
      ∧ symmetry.Stores (store.goTo address).2 (other.goTo (symmetry.move address)).2 := by
  simp only [Store.goTo, Tape.resolve_of_unlimited same.limit,
    Tape.resolve_of_unlimited same.otherLimit, true_and]
  exact { same.extend address (symmetry.move address) with address := rfl }

/-- A byte put into the current cells, which exist afterwards. -/
theorem write (same : symmetry.Stores store other) (value : UInt8)
    : symmetry.Stores
        { store with tape := (store.tape.extend store.address).put store.address value }
        { other with tape := (other.tape.extend other.address).put other.address value } := by
  have grown := same.extend store.address other.address
  have otherHeld := other.tape.holds_extend other.address
  rw [same.address] at otherHeld grown ⊢
  exact grown.put value (store.tape.holds_extend store.address) otherHeld

theorem update (same : symmetry.Stores store other) (change : UInt8 → UInt8)
    : (other.update change).1 = (store.update change).1
      ∧ symmetry.Stores (store.update change).2 (other.update change).2 := by
  have cell : other.tape.peek other.address = store.tape.peek store.address := by
    rw [same.address, same.peek]
  simp only [Store.update, Tape.get_eq, Tape.refuses_of_unlimited same.limit,
    Tape.refuses_of_unlimited same.otherLimit, cell, Bool.false_eq_true, if_false, true_and]
  exact same.write _

theorem emit (same : symmetry.Stores store other)
    : other.emit.1 = store.emit.1 ∧ symmetry.Stores store.emit.2 other.emit.2 := by
  have cell : other.tape.peek other.address = store.tape.peek store.address := by
    rw [same.address, same.peek]
  have grown := same.extend store.address other.address
  simp only [Store.emit, Tape.get_eq, Tape.refuses_of_unlimited same.limit,
    Tape.refuses_of_unlimited same.otherLimit, cell, same.output, Bool.false_eq_true, if_false]
  rcases store.output.write (store.tape.peek store.address) with ⟨failure, output⟩
  cases failure with
  | some reason => exact ⟨rfl, { grown with output := rfl }⟩
  | none => exact ⟨rfl, { grown with output := rfl }⟩

theorem fill (same : symmetry.Stores store other) (value? : Option UInt8)
    : (other.fill value?).1 = (store.fill value?).1
      ∧ symmetry.Stores (store.fill value?).2 (other.fill value?).2 := by
  cases value? with
  | none =>
      simp only [Store.fill, Tape.resolve_of_unlimited same.limit,
        Tape.resolve_of_unlimited same.otherLimit, true_and]
      exact same.extend store.address other.address
  | some value =>
      simp only [Store.fill, Tape.set_eq, Tape.refuses_of_unlimited same.limit,
        Tape.refuses_of_unlimited same.otherLimit, Bool.false_eq_true, if_false, true_and]
      exact same.write value

theorem accept (same : symmetry.Stores store other) (policy : EndOfInput)
    : (other.accept policy).1 = (store.accept policy).1
      ∧ symmetry.Stores (store.accept policy).2 (other.accept policy).2 := by
  unfold Store.accept
  rw [same.input]
  rcases store.input.read with ⟨reading, input⟩
  have taken : symmetry.Stores { store with input } { other with input } :=
    { same with input := rfl }
  cases reading with
  | byte value => exact taken.fill (some value)
  | ended => exact taken.fill policy.stored?
  | failed reason => exact ⟨rfl, taken⟩

/-- Every command does at exchanged addresses what its counterpart does, by the commands. -/
theorem exec (same : symmetry.Stores store other) (policy : EndOfInput)
    (command : StoreCommand)
    : ((symmetry.turn command).exec policy other).1 = (command.exec policy store).1
      ∧ symmetry.Stores (command.exec policy store).2
          ((symmetry.turn command).exec policy other).2 := by
  have kept (command : StoreCommand) (still : command.mirrored = command)
      : symmetry.turn command = command := by
    rw [turn, still, ite_self]
  -- Only the two moves depend on the direction.
  cases command with
  | right =>
      have gone := same.goTo (store.address + 1)
      rw [symmetry.above, ← same.address] at gone
      cases mirrors : symmetry.mirrors <;>
        simpa [turn, mirrors, StoreCommand.mirrored, StoreCommand.exec] using gone
  | left =>
      have gone := same.goTo (store.address - 1)
      rw [symmetry.below, ← same.address] at gone
      cases mirrors : symmetry.mirrors <;>
        simpa [turn, mirrors, StoreCommand.mirrored, StoreCommand.exec] using gone
  | increment => rw [kept .increment rfl]; exact same.update (· + 1)
  | decrement => rw [kept .decrement rfl]; exact same.update (· - 1)
  | output => rw [kept .output rfl]; exact same.emit
  | input => rw [kept .input rfl]; exact same.accept policy

end Stores

/-- A machine found again at exchanged addresses, at the same positions of its program. -/
def likeness (symmetry : TapeSymmetry) : Likeness where
  place := id
  move := symmetry.move
  turn := symmetry.turn
  Stores := symmetry.Stores
  address := fun same => same.address
  peek := fun same => by rw [same.address, same.peek]
  refuses := fun same => by
    rw [Tape.refuses_of_unlimited same.limit, Tape.refuses_of_unlimited same.otherLimit]
  cause := fun same refused => by
    rw [Tape.refuses_of_unlimited same.limit] at refused
    cases refused
  reached := fun {store other} same => same.extend store.address other.address
  exec := fun policy command same => same.exec policy command

/-- In a program for exchanged addresses every byte is replaced by its counterpart. -/
theorem counterpart (symmetry : TapeSymmetry) (byte : UInt8)
    : symmetry.likeness.Counterpart byte (symmetry.byte byte) := by
  cases means : Instruction.ofByte? byte with
  | some instruction =>
      obtain rfl := Instruction.ofByte?_eq_some_iff.mp means
      rw [symmetry.byte_toByte]
      exact .instruction instruction
  | none =>
      rw [symmetry.byte_of_comment means]
      exact .comment means

-----------------------------------------------------------------------------------------
-- Machines at exchanged addresses
-----------------------------------------------------------------------------------------

/-- One machine runs a program and the other one the program for exchanged addresses, and so far
they did the same.
-/
structure Relates (symmetry : TapeSymmetry) (m other : Machine) : Prop where
  program
    : ∀ position,
        other.program.byte? position = (m.program.byte? position).map symmetry.byte
  breakpoints : other.breakpoints = m.breakpoints
  related : symmetry.likeness.Relates m other

namespace Relates

variable {symmetry : TapeSymmetry} {m other : Machine}

theorem pc_eq (same : symmetry.Relates m other) : other.pc = m.pc := by
  obtain ⟨position, here, there⟩ := same.related.pc
  rw [here, there]
  rfl

theorem fetches (same : symmetry.Relates m other) {position : Nat} {byte : UInt8}
    (fetched : m.Fetches position byte)
    : other.Fetches position (symmetry.byte byte) :=
  ⟨same.pc_eq.trans fetched.pc, by rw [same.program, fetched.byte, Option.map_some]⟩

theorem done_iff (same : symmetry.Relates m other) : other.done = true ↔ m.done = true := by
  obtain ⟨position, here, _⟩ := same.related.pc
  have ends (m : Machine) (position : Nat) (pc : m.pc = position)
      : m.done = true ↔ m.program.byte? position = none := by
    rw [Machine.done, pc, decide_eq_true_eq, Int.ofNat_le, Program.byte?, Program.size,
      Array.getElem?_eq_none_iff]
  rw [ends m position here, ends other position (same.pc_eq.trans here), same.program,
    Option.map_eq_none_iff]

/-- One step at exchanged addresses, by what the step takes. -/
theorem step (same : symmetry.Relates m other)
    : other.step.1 = symmetry.likeness.outcome m.step.1
      ∧ symmetry.Relates m.step.2 other.step.2 := by
  have settings := m.sameSettings_step
  have otherSettings := other.sameSettings_step
  -- Programs and breakpoints do not change, so only the registers and stores are left.
  suffices stepped : other.step.1 = symmetry.likeness.outcome m.step.1
      ∧ symmetry.likeness.Relates m.step.2 other.step.2 by
    refine ⟨stepped.1, ?_, ?_, stepped.2⟩
    · rw [settings.program, otherSettings.program]
      exact same.program
    · rw [settings.breakpoints, otherSettings.breakpoints, same.breakpoints]
  by_cases past : m.done = true
  · rw [Machine.step_of_done past, Machine.step_of_done (same.done_iff.mpr past)]
    exact ⟨rfl, same.related⟩
  obtain ⟨_, here, _⟩ := same.related.pc
  obtain ⟨position, byte, fetched⟩ :=
    Machine.fetches_of_inside (Bool.eq_false_iff.mpr past) (by omega)
  exact same.related.step_of_counterpart fetched (same.fetches fetched) rfl same.breakpoints
    (symmetry.counterpart byte)

/-- Any number of steps at exchanged addresses, by induction on the number. -/
theorem after (same : symmetry.Relates m other) (count : Nat)
    : symmetry.Relates (m.after count) (other.after count) := by
  induction count with
  | zero => exact same
  | succ count ih => exact ih.step.2

end Relates

end TapeSymmetry

/-- An outcome at an exchanged address, with an exchanged command. Position and fault stay. -/
def Outcome.moved (move : Address → Address) (turn : StoreCommand → StoreCommand)
    : Outcome → Outcome
  | failed error =>
    .failed
      { error with
        address := move error.address
        instruction := error.instruction.turned turn }
  | outcome => outcome

namespace Machine

/-- Two machines do the same at exchanged addresses: they agree on everything but the addresses,
hold the same bytes at exchanged addresses, and their next steps lead to the same, too.
-/
structure SameElsewhere (move : Address → Address) (turn : StoreCommand → StoreCommand)
    (m other : Machine) : Prop where
  pc : other.pc = m.pc
  loops : other.loops = m.loops
  skip : other.skip = m.skip
  steps : other.steps = m.steps
  input : other.input = m.input
  output : other.output = m.output
  address : other.address = move m.address
  peek : ∀ address, other.tape.peek (move address) = m.tape.peek address
  outcome : other.step.1 = m.step.1.moved move turn

/-- Machines that do the same by a symmetry of the addresses. -/
theorem sameElsewhere_of_relates {symmetry : TapeSymmetry} {m other : Machine}
    (same : symmetry.Relates m other)
    : SameElsewhere symmetry.move symmetry.turn m other where
  pc := same.pc_eq
  loops := same.related.loops.trans (List.map_id _)
  skip := same.related.skip
  steps := same.related.steps
  input := same.related.store.input
  output := same.related.store.output
  address := same.related.store.address
  peek := same.related.store.peek
  outcome := by
    rw [same.step.1]
    cases m.step.1 <;> rfl

end Machine

namespace Setup

/-- A setup with the moves of its program in the opposite directions. -/
def mirrored (setup : Setup) : Setup :=
  { setup with
    program := setup.program.mirrored
    size_lt := by
      change (setup.program.code.map mirroredByte).size < _
      rw [Array.size_map]
      exact setup.size_lt
    empty_of_absent := by
      intro absent
      change setup.program.code.map mirroredByte = #[]
      rw [setup.empty_of_absent absent, Array.map_empty] }

/-- On a blank tape, the program for exchanged addresses runs at exchanged addresses when it starts
where the symmetry takes the origin.
-/
theorem relates_exchanged (setup : Setup) (unlimited : setup.maxCells ≤ 0)
    (symmetry : TapeSymmetry) {program : Program} {start : Address}
    (exchanged
      : ∀ position,
          program.byte? position = (setup.program.byte? position).map symmetry.byte)
    (origin : start = symmetry.move 0)
    : symmetry.Relates setup.machine { setup.machine with program, address := start } where
  program := exchanged
  breakpoints := rfl
  related := {
    pc := ⟨0, rfl, rfl⟩
    loops := (List.map_id _).symm
    skip := rfl
    steps := rfl
    maxDepth := rfl
    endOfInput := rfl
    store := {
      address := origin
      peek := fun _ => (Tape.peek_blank _ _).trans (Tape.peek_blank _ _).symm
      limit := unlimited
      otherLimit := unlimited
      input := rfl
      output := rfl
    }
  }

theorem relates_mirrored (setup : Setup) (unlimited : setup.maxCells ≤ 0)
    : TapeSymmetry.mirror.Relates setup.machine setup.mirrored.machine :=
  setup.relates_exchanged unlimited .mirror (fun _ => Array.getElem?_map) Int64.neg_zero.symm

theorem relates_shifted (setup : Setup) (unlimited : setup.maxCells ≤ 0) (start : Address)
    : (TapeSymmetry.shift start).Relates setup.machine
        { setup.machine with address := start } :=
  setup.relates_exchanged unlimited (.shift start) (fun _ => Option.map_id_apply.symm)
    (Int64.zero_add start).symm

/-- An unlimited tape has no preferred place and no preferred direction. After any number of steps
of any program on any input, the program with its moves exchanged did the same at the negated
addresses, and the program that started at another address of the blank tape did the same at the
shifted ones.
-/
theorem same_elsewhere (setup : Setup) (unlimited : setup.maxCells ≤ 0) (count : Nat)
    : Machine.SameElsewhere (fun address => -address) StoreCommand.mirrored
        (setup.machine.after count) (setup.mirrored.machine.after count)
      ∧ ∀ start : Address,
          Machine.SameElsewhere (fun address => address + start) id
            (setup.machine.after count)
            (Machine.after { setup.machine with address := start } count) :=
  ⟨Machine.sameElsewhere_of_relates ((setup.relates_mirrored unlimited).after count),
    fun start =>
      Machine.sameElsewhere_of_relates ((setup.relates_shifted unlimited start).after count)⟩

/-- A program that steps over the seam between the halves of the tape and fails behind it. -/
def seam : Setup :=
  { program := { code := #[0x3c, 0x2b, 0x3e, 0x3e, 0x2d, 0x5d] }
    size_lt := by decide
    empty_of_absent := by decide }

theorem same_elsewhere_seam
    : seam.maxCells ≤ 0
      ∧ (seam.machine.after 5).address = 1
      ∧ (seam.machine.after 5).tape.peek (-1) = 1
      ∧ (seam.mirrored.machine.after 5).address = -1
      ∧ (seam.mirrored.machine.after 5).tape.peek 1 = 1
      ∧ (Machine.after { seam.machine with address := -1 } 5).step.1
        = .failed ⟨5, 0, .loopEnd, .unmatchedLoopEnd⟩ := by
  have unlimited : seam.maxCells ≤ 0 := by decide
  have place : (seam.machine.after 5).address = 1 := by decide
  have cell : (seam.machine.after 5).tape.peek (-1) = 1 := by decide
  have fails : (seam.machine.after 5).step.1
      = .failed ⟨5, 1, .loopEnd, .unmatchedLoopEnd⟩ := by decide
  obtain ⟨mirrored, shifted⟩ := same_elsewhere seam unlimited 5
  refine ⟨unlimited, place, cell, ?_, ?_, ?_⟩
  · rw [mirrored.address, place]
  · exact (mirrored.peek (-1)).trans cell
  · rw [(shifted (-1)).outcome, fails]
    decide

end Setup

end TapeMachine
