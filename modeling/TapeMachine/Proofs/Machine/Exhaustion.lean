import TapeMachine.Proofs.Machine.Failure
import TapeMachine.Proofs.Snapshot.Safety
import TapeMachine.Proofs.Tape.Memory

/-! Only moves exhaust the tape. From the blank tape on, and from every tape that was taken back,
the current cell exists or lies below the limit, so no instruction that works on it fails for want
of room. A move fails exactly if it would leave the cells that the limit allows, at either end.
-/

namespace TapeMachine

-----------------------------------------------------------------------------------------
-- Which commands can exhaust the tape
-----------------------------------------------------------------------------------------

/-- Where a command moves to from an address. -/
def StoreCommand.target? (address : Address) : StoreCommand → Option Address
  | right => some (address + 1)
  | left => some (address - 1)
  | _ => none

/-- A result fails as the tape is exhausted. -/
def Store.Exhausts (result : Option Fault × Store) : Prop :=
  result.1.any Fault.isExhaustion = true

namespace Store

variable {store : Store}

theorem exhausts_goTo_iff (address : Address)
    : Exhausts (store.goTo address) ↔ store.tape.refuses address = true := by
  unfold Exhausts goTo Tape.resolve
  cases store.tape.refuses address <;> simp [Fault.isExhaustion]

theorem not_exhausts_update (admitted : store.tape.refuses store.address = false)
    (change : UInt8 → UInt8)
    : ¬Exhausts (store.update change) := by
  simp [Exhausts, update, Tape.get_eq, admitted]

theorem not_exhausts_emit (admitted : store.tape.refuses store.address = false)
    : ¬Exhausts store.emit := by
  simp only [Exhausts, emit, Tape.get_eq, admitted, Bool.false_eq_true, if_false]
  cases store.output.write (store.tape.peek store.address) with
  | mk failure output => cases failure <;> simp [Option.any_map, Fault.isExhaustion]

theorem not_exhausts_fill (admitted : store.tape.refuses store.address = false)
    (value? : Option UInt8)
    : ¬Exhausts (store.fill value?) := by
  cases value? <;> simp [Exhausts, fill, Tape.set_eq, Tape.resolve, admitted]

theorem not_exhausts_accept (admitted : store.tape.refuses store.address = false)
    (policy : EndOfInput)
    : ¬Exhausts (store.accept policy) := by
  unfold accept
  rcases store.input.read with ⟨reading, input⟩
  have read : { store with input }.tape.refuses { store with input }.address = false := admitted
  cases reading with
  | byte value => exact not_exhausts_fill read _
  | ended => exact not_exhausts_fill read _
  | failed reason => simp [Exhausts, Fault.isExhaustion]

/-- A byte that is read while the current cell is not refused is stored there. -/
theorem accept_of_byte (admitted : store.tape.refuses store.address = false)
    (policy : EndOfInput) {value : UInt8} (taken : store.input.read.1 = .byte value)
    : store.accept policy
      = (none,
          { store with
            input := store.input.read.2
            tape := (store.tape.extend store.address).put store.address value }) := by
  unfold accept
  rcases read : store.input.read with ⟨reading, input⟩
  rw [read] at taken
  obtain rfl : reading = .byte value := taken
  simp [fill, Tape.set_eq, admitted]

end Store

/-- While the current cell is not refused, a command exhausts the tape just if it moves to a cell
that is refused.
-/
theorem StoreCommand.exhausts_exec_iff {store : Store}
    (admitted : store.tape.refuses store.address = false) (policy : EndOfInput)
    (command : StoreCommand)
    : Store.Exhausts (command.exec policy store)
      ↔ ∃ target,
          command.target? store.address = some target
          ∧ store.tape.refuses target = true := by
  cases command with
  | right | left => simpa [target?, exec] using Store.exhausts_goTo_iff _
  | increment | decrement => simpa [target?, exec] using Store.not_exhausts_update admitted _
  | output => simpa [target?, exec] using Store.not_exhausts_emit admitted
  | input => simpa [target?, exec] using Store.not_exhausts_accept admitted policy

-----------------------------------------------------------------------------------------
-- Which steps do
-----------------------------------------------------------------------------------------

namespace Machine

/-- The next step executes a move, and moves to an address. -/
inductive MovesTo (m : Machine) : Address → Prop
  | right {position} (dispatched : m.Dispatches position .right)
    : MovesTo m (m.address + 1)
  | left {position} (dispatched : m.Dispatches position .left)
    : MovesTo m (m.address - 1)

/-- A step that executes a command with a target moves there. -/
theorem Dispatches.movesTo {m : Machine} {position : Nat} {command : StoreCommand}
    {target : Address} (dispatched : m.Dispatches position command.toInstruction)
    (moves : command.target? m.address = some target)
    : m.MovesTo target := by
  cases command with
  | right =>
      obtain rfl := Option.some.inj moves
      exact .right dispatched
  | left =>
      obtain rfl := Option.some.inj moves
      exact .left dispatched
  | increment | decrement | output | input => cases moves

/-- Outside of brackets, an outcome is exhaustion just if the fault is. -/
theorem isExhaustion_ending (m : Machine) (position : Nat) (instruction : Instruction)
    (fault? : Option Fault)
    : (m.ending position instruction fault?).isExhaustion = fault?.any Fault.isExhaustion := by
  cases fault? <;> rfl

/-- A step that executes a command on a cell that is not refused exhausts the tape just if the
command does.
-/
theorem Dispatches.exhausts_iff {m : Machine} {position : Nat} {command : StoreCommand}
    (dispatched : m.Dispatches position command.toInstruction)
    (admitted : m.tape.refuses m.address = false)
    : m.step.1.isExhaustion = true
      ↔ ∃ target,
          command.target? m.address = some target
          ∧ m.tape.refuses target = true := by
  have reachable : m.store.tape.refuses m.store.address = false := admitted
  obtain ⟨journal, stepped⟩ := dispatched.step_of_command
  rw [stepped, isExhaustion_ending]
  exact command.exhausts_exec_iff reachable m.endOfInput

/-- While the current cell is not refused, a step exhausts the tape just if it moves to a cell
that is refused; by the cases of a step.
-/
theorem exhausts_step_iff {m : Machine} (admitted : m.tape.refuses m.address = false)
    : m.step.1.isExhaustion = true
      ↔ ∃ target, m.MovesTo target ∧ m.tape.refuses target = true := by
  constructor
  · intro exhausts
    rcases stepped : m.step with ⟨outcome, next⟩
    cases transition_of_step stepped with
    | ended | misplaced | scanned | passed | interrupted | bypassed | overflowed | entered
    | unmatched | left | repeated =>
        rw [stepped] at exhausts
        cases exhausts
    | refused _ _ _ refused =>
        rw [admitted] at refused
        cases refused
    | commanded _ dispatched =>
        obtain ⟨target, moves, refused⟩ := (dispatched.exhausts_iff admitted).mp exhausts
        exact ⟨target, dispatched.movesTo moves, refused⟩
  · rintro ⟨target, moves, refused⟩
    cases moves with
    | right dispatched =>
        have right : m.Dispatches _ StoreCommand.right.toInstruction := dispatched
        exact (right.exhausts_iff admitted).mpr ⟨_, rfl, refused⟩
    | left dispatched =>
        have left : m.Dispatches _ StoreCommand.left.toInstruction := dispatched
        exact (left.exhausts_iff admitted).mpr ⟨_, rfl, refused⟩

/-- Without a limit nothing exhausts the tape. -/
theorem not_exhausts_of_unlimited {m : Machine} (unlimited : m.tape.limit ≤ 0)
    : m.step.1.isExhaustion = false := by
  rw [← Bool.not_eq_true, exhausts_step_iff (Tape.refuses_of_unlimited unlimited m.address)]
  rintro ⟨target, _, refused⟩
  rw [Tape.refuses_of_unlimited unlimited target] at refused
  cases refused

end Machine

-----------------------------------------------------------------------------------------
-- Where the limit stands in the way
-----------------------------------------------------------------------------------------

namespace WithinLimit

variable {tape : Tape} {address : Address}

/-- On a tape below its limit, exactly the cells beyond the limit are refused. -/
theorem refuses_iff (within : WithinLimit tape address) (limited : 0 < tape.limit)
    (target : Address)
    : tape.refuses target = true
      ↔ ¬(-tape.limit ≤ target.toInt ∧ target.toInt < tape.limit) := by
  -- A cell that exists is below the limit, so whether it exists makes no difference.
  have size := within.size_le limited target.half
  rw [← Address.index_lt_iff]
  simp only [Tape.refuses, Bool.and_eq_true, decide_eq_true_eq]
  omega

/-- A move to the right is refused at the last cell of the positive half only. The limit is a
word, so no address below it is the greatest.
-/
theorem refuses_succ_iff (within : WithinLimit tape address) (limited : 0 < tape.limit)
    (word : tape.limit < 0x8000000000000000)
    : tape.refuses (address + 1) = true ↔ address.toInt = tape.limit - 1 := by
  obtain ⟨lower, upper⟩ := Address.index_lt_iff.mp (within.index_lt limited)
  rw [within.refuses_iff limited, toInt_succ_of_lt (by omega)]
  omega

/-- A move to the left is refused at the last cell of the negative half only. -/
theorem refuses_pred_iff (within : WithinLimit tape address) (limited : 0 < tape.limit)
    (word : tape.limit < 0x8000000000000000)
    : tape.refuses (address - 1) = true ↔ address.toInt = -tape.limit := by
  obtain ⟨lower, upper⟩ := Address.index_lt_iff.mp (within.index_lt limited)
  rw [within.refuses_iff limited, toInt_pred_of_lt (by omega)]
  omega

end WithinLimit

-----------------------------------------------------------------------------------------
-- Whole runs
-----------------------------------------------------------------------------------------

namespace Machine

/-- A machine from which a run begins: a new one with its settings made, or any machine that took a
snapshot back.
-/
inductive Begins : Machine → Prop
  | new (setup : Setup)
    : Begins setup.machine
  | restored {m restored : Machine} {bytes : List UInt8}
    (taken : m.restore bytes = .ok restored)
    : Begins restored

/-- However a run began, the tape and the address stay below the limit. -/
theorem Begins.withinLimit_after {m : Machine} (begins : m.Begins) (count : Nat)
    : WithinLimit (m.after count).tape (m.after count).address := by
  cases begins with
  | new setup => exact setup.withinLimit_after count
  | restored taken => exact (confined_of_restore taken).2.within.after count

/-- How the next step of a machine may exhaust its tape, of which each half has so many cells. -/
structure ExhaustedByMoves (m : Machine) (cells : Int) : Prop where
  moves
    : 0 < cells
      → (m.step.1.isExhaustion = true
        ↔ (∃ position, m.Dispatches position .right ∧ m.address.toInt = cells - 1)
          ∨ (∃ position, m.Dispatches position .left ∧ m.address.toInt = -cells))
  others
    : ∀ position instruction,
        m.Dispatches position instruction
        → instruction ≠ .right
        → instruction ≠ .left
        → m.step.1.isExhaustion = false
  /-- No byte is read that cannot be stored. -/
  stored
    : ∀ position value,
        m.Dispatches position .input
        → m.input.read.1 = .byte value
        → m.step.1 = .next ∧ m.step.2.tape.peek m.address = value
  unlimited : cells ≤ 0 → m.step.1.isExhaustion = false

/-- Below the limit, a step that reads a byte stores it in the current cell. -/
theorem Dispatches.stores {m : Machine} {position : Nat} {value : UInt8}
    (dispatched : m.Dispatches position .input) (admitted : m.tape.refuses m.address = false)
    (taken : m.input.read.1 = .byte value)
    : m.step.1 = .next ∧ m.step.2.tape.peek m.address = value := by
  have reads : m.Dispatches position StoreCommand.input.toInstruction := dispatched
  have reachable : m.store.tape.refuses m.store.address = false := admitted
  have accepted := Store.accept_of_byte reachable m.endOfInput taken
  obtain ⟨journal, stepped⟩ := reads.step_of_command
  simp only [StoreCommand.exec, accepted] at stepped
  refine ⟨by rw [stepped]; rfl, ?_⟩
  have written : m.step.2.tape = (m.tape.extend m.address).put m.address value := by
    rw [stepped]
    rfl
  rw [written, Tape.peek_put (Tape.holds_extend _ _), Function.update_self]

/-- On a tape below its limit, the next step exhausts it only by a move over either end. -/
theorem exhaustedByMoves_of_within {m : Machine} (within : WithinLimit m.tape m.address)
    (word : m.tape.limit < 0x8000000000000000)
    : m.ExhaustedByMoves m.tape.limit := by
  have admitted := within.admitted
  refine ⟨fun limited => ?_, fun position instruction dispatched notRight notLeft => ?_,
    fun position value dispatched taken => dispatched.stores admitted taken,
    not_exhausts_of_unlimited⟩
  · rw [exhausts_step_iff admitted]
    constructor
    · rintro ⟨target, moves, refused⟩
      cases moves with
      | right dispatched =>
          exact .inl ⟨_, dispatched, (within.refuses_succ_iff limited word).mp refused⟩
      | left dispatched =>
          exact .inr ⟨_, dispatched, (within.refuses_pred_iff limited word).mp refused⟩
    · rintro (⟨_, dispatched, last⟩ | ⟨_, dispatched, last⟩)
      · exact ⟨_, .right dispatched, (within.refuses_succ_iff limited word).mpr last⟩
      · exact ⟨_, .left dispatched, (within.refuses_pred_iff limited word).mpr last⟩
  · rw [← Bool.not_eq_true, exhausts_step_iff admitted]
    rintro ⟨target, moves, _⟩
    cases moves with
    | right moving => exact notRight (moving.unique dispatched)
    | left moving => exact notLeft (moving.unique dispatched)

/-- Only moves exhaust the tape. Of a run that began with a new machine or with one that took a
snapshot back, every step, whatever happened before it, exhausts the tape just if it moves right
from the last cell of the positive half or left from the last one of the negative half. The limit
is a word; without one, nothing exhausts the tape.
-/
theorem exhausted_by_moves_only (m : Machine) (begins : m.Begins) (cells : Int64)
    (limit : m.tape.limit = cells.toInt) (count : Nat)
    : (m.after count).ExhaustedByMoves cells.toInt := by
  have kept : (m.after count).tape.limit = cells.toInt :=
    (m.sameSettings_after count).limit.trans limit
  have word : (m.after count).tape.limit < 0x8000000000000000 := by
    rw [kept]
    exact cells.toInt_lt
  rw [← kept]
  exact exhaustedByMoves_of_within (begins.withinLimit_after count) word

/-- A program that reads into the last cell on the left and then moves on, with one cell on each
side.
-/
def leftmost : Setup :=
  { program := { code := #[0x3c, 0x2c, 0x3c] }
    input := { pending := [7] }
    maxCells := 1
    size_lt := by decide
    empty_of_absent := by decide }

theorem exhausted_by_moves_only_leftmost
    : (leftmost.machine.after 1).step.2.tape.peek (-1) = 7
      ∧ (leftmost.machine.after 2).step.1.isExhaustion = true := by
  have begins : leftmost.machine.Begins := .new leftmost
  have reading := exhausted_by_moves_only leftmost.machine begins 1 (by decide) 1
  have moving := exhausted_by_moves_only leftmost.machine begins 1 (by decide) 2
  refine ⟨(reading.stored 1 7 ⟨⟨by decide, by decide⟩, by decide⟩ (by decide)).2, ?_⟩
  exact (moving.moves (by decide)).mpr
    (.inr ⟨2, ⟨⟨by decide, by decide⟩, by decide⟩, by decide⟩)

end Machine

end TapeMachine
