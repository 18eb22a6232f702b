import Mathlib.Order.Bounds.Basic
import TapeMachine.Proofs.Machine.Failure
import TapeMachine.Proofs.Tape.Memory

/-! The tape grows lazily and tightly. A step brings cells into being only to work at the one that
its instruction needs, and an instruction needs no cell that is farther than the next one. So the
halves of a tape reach exactly as far as a run from the blank tape ever went, and a step adds one
cell at most. The start is the one exception: its cell does not exist before it is worked at.
-/

namespace TapeMachine

-----------------------------------------------------------------------------------------
-- The cell that an instruction needs
-----------------------------------------------------------------------------------------

/-- The cell that an instruction needs at an address: the one it moves to, or the current one. -/
def Instruction.neededCell (address : Address) : Instruction → Address
  | right => address + 1
  | left => address - 1
  | _ => address

/-- No instruction needs a cell beyond the next ones, at an address that has a next one on both
sides; and none but a move to the right needs one beyond the current cell on that side.
-/
theorem Instruction.toInt_neededCell {address : Address} (instruction : Instruction)
    (lower : -0x8000000000000000 < address.toInt)
    (upper : address.toInt + 1 < 0x8000000000000000)
    : address.toInt - 1 ≤ (instruction.neededCell address).toInt
      ∧ (instruction.neededCell address).toInt ≤ address.toInt + 1
      ∧ (instruction ≠ .right → (instruction.neededCell address).toInt ≤ address.toInt) := by
  cases instruction with
  | right =>
      simp only [neededCell, toInt_succ_of_lt upper]
      exact ⟨by omega, by omega, fun other => absurd rfl other⟩
  | left =>
      simp only [neededCell, toInt_pred_of_lt lower]
      omega
  | increment | decrement | output | input | loopStart | loopEnd =>
      simp only [neededCell]
      omega

namespace Tape.WorkedAt

variable {tape next : Tape} {address : Address}

/-- Work at an address that is not below zero makes the positive half reach up to it. -/
theorem size_positive (work : tape.WorkedAt address next)
    : (next.positive.size : Int)
      = if address.toInt < 0 then (tape.positive.size : Int)
        else max (tape.positive.size : Int) (address.toInt + 1) := by
  have size : next.positive.size = _ := work.size_cells .positive
  have index := address.index_eq
  simp only [Address.half_eq, Tape.cells] at size
  simp only [Int64.lt_iff_toInt_lt, Int64.toInt_zero] at index
  by_cases below : address.toInt < 0
  · simp only [below, if_true, reduceCtorEq, if_false] at size ⊢
    omega
  · simp only [below, if_false, if_true] at size index ⊢
    omega

/-- Work at an address below zero makes the negative half reach down to it. -/
theorem size_negative (work : tape.WorkedAt address next)
    : (next.negative.size : Int)
      = if address.toInt < 0 then max (tape.negative.size : Int) (-address.toInt)
        else (tape.negative.size : Int) := by
  have size : next.negative.size = _ := work.size_cells .negative
  have index := address.index_eq
  simp only [Address.half_eq, Tape.cells] at size
  simp only [Int64.lt_iff_toInt_lt, Int64.toInt_zero] at index
  by_cases below : address.toInt < 0
  · simp only [below, if_true] at size index ⊢
    omega
  · simp only [below, if_false, reduceCtorEq] at size ⊢
    omega

end Tape.WorkedAt

namespace Store

variable {store next : Store}

/-- A move that succeeds leads to its cell. -/
theorem goTo_of_success {address : Address} (moved : store.goTo address = (none, next))
    : store.tape.WorkedAt address next.tape ∧ next.address = address := by
  unfold goTo Tape.resolve at moved
  split at moved
  · cases moved
  · rename_i resolved
    split at resolved <;> cases resolved
    cases moved
    exact ⟨.grown, rfl⟩

@[simp]
theorem address_update (store : Store) (change : UInt8 → UInt8)
    : (store.update change).2.address = store.address := by
  unfold update
  split <;> rfl

@[simp]
theorem address_emit (store : Store) : store.emit.2.address = store.address := by
  unfold emit
  split
  · rfl
  · split <;> rfl

@[simp]
theorem address_fill (store : Store) (value? : Option UInt8)
    : (store.fill value?).2.address = store.address := by
  unfold fill
  cases value? with
  | none => dsimp only; split <;> rfl
  | some value => dsimp only; split <;> rfl

@[simp]
theorem address_accept (store : Store) (policy : EndOfInput)
    : (store.accept policy).2.address = store.address := by
  unfold accept
  split <;> simp

/-- What succeeded at the current cell worked there: if it left the tape alone, the cell existed. -/
theorem Orderly.workedAt {result : Option Fault × Store} (orderly : store.Orderly result)
    (success : result.1 = none) (stays : result.2.address = store.address)
    : store.tape.WorkedAt store.address result.2.tape := by
  have held := orderly.holds success
  have effect := orderly.effect
  unfold HoldsCell at held
  rw [stays] at held effect
  generalize result.2.tape = tape at held effect
  cases effect with
  | kept =>
      have extended : store.tape.WorkedAt store.address (store.tape.extend store.address) :=
        .grown
      rwa [held.extend_eq] at extended
  | worked _ work => exact work

end Store

/-- A command that succeeds worked at the cell that it needs, which is the current one then. -/
theorem StoreCommand.workedAt_of_success {store next : Store} {policy : EndOfInput}
    {command : StoreCommand} (executed : command.exec policy store = (none, next))
    : store.tape.WorkedAt (command.toInstruction.neededCell store.address) next.tape
      ∧ next.address = command.toInstruction.neededCell store.address := by
  have orderly := command.orderly_exec policy store
  -- All but the moves stay where they are.
  have stays (same : (command.exec policy store).2.address = store.address)
      : store.tape.WorkedAt store.address next.tape ∧ next.address = store.address := by
    rw [executed] at orderly same
    exact ⟨orderly.workedAt rfl same, same⟩
  cases command with
  | right | left => exact Store.goTo_of_success executed
  | increment | decrement => exact stays (store.address_update _)
  | output => exact stays store.address_emit
  | input => exact stays (store.address_accept policy)

-----------------------------------------------------------------------------------------
-- What a step does to the cells
-----------------------------------------------------------------------------------------

namespace Machine

/-- The next step executes an instruction that needs the cell at an address. -/
def NeedsCell (m : Machine) (cell : Address) : Prop :=
  ∃ position instruction,
    m.Dispatches position instruction ∧ cell = instruction.neededCell m.address

/-- What a step does to the tape and the address. It leaves both alone if it needs no cell, or if
it fails; otherwise it works at the cell that it needs, and is there afterwards. A move that fails
works nowhere.
-/
inductive CellWork (m : Machine) (outcome : Outcome) : Tape → Address → Prop
  | idle (free : ∀ cell, ¬m.NeedsCell cell)
    : CellWork m outcome m.tape m.address
  | failed (fails : outcome.isFailure = true)
    : CellWork m outcome m.tape m.address
  | worked {cell next} (needs : m.NeedsCell cell) (work : m.tape.WorkedAt cell next)
    (moves : cell ≠ m.address → outcome.isFailure = false)
    : CellWork m outcome next cell

/-- A step needs one cell at most. -/
theorem NeedsCell.unique {m : Machine} {cell other : Address} (needs : m.NeedsCell cell)
    (again : m.NeedsCell other)
    : other = cell := by
  obtain ⟨_, instruction, dispatched, rfl⟩ := needs
  obtain ⟨_, otherInstruction, otherDispatched, rfl⟩ := again
  rw [dispatched.unique otherDispatched]

/-- A machine that takes no byte needs no cell. -/
theorem not_needsCell_of_idle {m : Machine} (idle : ∀ position byte, ¬m.Fetches position byte)
    (cell : Address)
    : ¬m.NeedsCell cell := by
  rintro ⟨position, instruction, dispatched, _⟩
  exact idle position _ dispatched.fetched

/-- A byte that is skipped or stands for no instruction needs no cell. -/
theorem Fetches.not_needsCell {m : Machine} {position : Nat} {byte : UInt8}
    (fetched : m.Fetches position byte)
    (passes : 0 < m.skip ∨ Instruction.ofByte? byte = none) (cell : Address)
    : ¬m.NeedsCell cell := by
  rintro ⟨other, instruction, dispatched, _⟩
  have comment := passes.resolve_left dispatched.normal
  rw [← (fetched.unique dispatched.fetched).2, Instruction.ofByte?_toByte] at comment
  cases comment

/-- A bracket needs the current cell. -/
theorem Dispatches.needsCell_of_bracket {m : Machine} {position : Nat} {instruction : Instruction}
    (dispatched : m.Dispatches position instruction)
    (bracket : instruction = .loopStart ∨ instruction = .loopEnd)
    : m.NeedsCell m.address := by
  refine ⟨position, instruction, dispatched, ?_⟩
  rcases bracket with rfl | rfl <;> rfl

/-- The cells after a command: those of a command that succeeds, or what a fault spared. -/
theorem Dispatches.cellWork_of_command {m : Machine} {position : Nat} {command : StoreCommand}
    (dispatched : m.Dispatches position command.toInstruction)
    : m.CellWork (m.ending position command.toInstruction (command.exec m.endOfInput m.store).1)
        (command.exec m.endOfInput m.store).2.tape
        (command.exec m.endOfInput m.store).2.address := by
  rcases executed : command.exec m.endOfInput m.store with ⟨fault?, store⟩
  cases fault? with
  | none =>
      obtain ⟨work, there⟩ := StoreCommand.workedAt_of_success executed
      rw [there]
      exact .worked ⟨position, _, dispatched, rfl⟩ work fun _ => rfl
  | some fault =>
      have spared := command.spares executed
      cases command with
      | right | left =>
          obtain rfl := Store.goTo_of_fault executed
          exact .failed rfl
      | increment | decrement | output | input =>
          rw [spared.address]
          rcases spared.tape with same | extended
          · rw [same]
            exact .failed rfl
          · rw [extended]
            exact .worked ⟨position, _, dispatched, rfl⟩ .grown fun other => absurd rfl other

/-- Every step works on the cells as it needs them, by the cases of a step. -/
theorem cellWork_step (m : Machine) : m.CellWork m.step.1 m.step.2.tape m.step.2.address := by
  rcases stepped : m.step with ⟨outcome, next⟩
  cases transition_of_step stepped with
  | ended past =>
      refine .idle (not_needsCell_of_idle fun position byte fetched => ?_)
      rw [fetched.inside] at past
      cases past
  | misplaced before =>
      refine .idle (not_needsCell_of_idle fun position byte fetched => ?_)
      have pc := fetched.pc
      omega
  | scanned fetched skipping =>
      have free := fetched.not_needsCell (.inl skipping)
      unfold countBracket
      split <;> exact .idle free
  | passed fetched _ comment => exact .idle (fetched.not_needsCell (.inr comment))
  | interrupted _ fetched => exact .idle (fetched.not_needsCell (.inr (by decide)))
  | commanded _ dispatched => exact dispatched.cellWork_of_command
  | refused => exact .failed rfl
  | bypassed _ dispatched | overflowed _ dispatched | entered _ dispatched =>
      exact .worked (dispatched.needsCell_of_bracket (.inl rfl)) .grown fun other =>
        absurd rfl other
  | unmatched _ dispatched | left _ dispatched | repeated _ dispatched =>
      exact .worked (dispatched.needsCell_of_bracket (.inr rfl)) .grown fun other =>
        absurd rfl other

-----------------------------------------------------------------------------------------
-- How far the halves reach
-----------------------------------------------------------------------------------------

/-- The addresses at which a machine stood in the course of a number of steps. -/
def visited (m : Machine) (count : Nat) : Set Int :=
  {address | ∃ index ≤ count, (m.after index).address.toInt = address}

/-- No cell of the positive half was needed in the course of a number of steps. -/
def LeavesPositive (m : Machine) (count : Nat) : Prop :=
  ∀ index < count, ∀ cell, (m.after index).NeedsCell cell → cell.toInt < 0

/-- The halves of the tape reach exactly as far as the addresses that were visited, but for the cell
at the start: it exists from when it, or one beyond it, was first needed.
-/
structure Extent (m : Machine) (count : Nat) (highest lowest : Int) : Prop where
  greatest : IsGreatest (m.visited count) highest
  least : IsLeast (m.visited count) lowest
  negative : ((m.after count).tape.negative.size : Int) = -lowest
  positive
    : ¬(highest = 0 ∧ m.LeavesPositive count)
      → ((m.after count).tape.positive.size : Int) = highest + 1
  blank : highest = 0 → m.LeavesPositive count → (m.after count).tape.positive.size = 0

theorem visited_zero (m : Machine) : m.visited 0 = {m.address.toInt} := by
  ext address
  constructor
  · rintro ⟨index, start, rfl⟩
    obtain rfl : index = 0 := by omega
    rfl
  · rintro rfl
    exact ⟨0, Nat.le_refl 0, rfl⟩

/-- Another step adds the address to which it leads. -/
theorem visited_succ (m : Machine) (count : Nat)
    : m.visited (count + 1) = insert (m.after (count + 1)).address.toInt (m.visited count) := by
  ext address
  constructor
  · rintro ⟨index, before, rfl⟩
    rcases Nat.le_succ_iff.mp before with earlier | rfl
    · exact .inr ⟨index, earlier, rfl⟩
    · exact .inl rfl
  · rintro (rfl | ⟨index, earlier, rfl⟩)
    · exact ⟨count + 1, Nat.le_refl _, rfl⟩
    · exact ⟨index, by omega, rfl⟩

theorem leavesPositive_succ {m : Machine} {count : Nat}
    : m.LeavesPositive (count + 1)
      ↔ m.LeavesPositive count ∧ ∀ cell, (m.after count).NeedsCell cell → cell.toInt < 0 := by
  simp only [LeavesPositive, Nat.lt_succ_iff_lt_or_eq, or_imp, forall_and, forall_eq]

/-- The machine stands between the ends of what it visited. -/
theorem Extent.between {m : Machine} {count : Nat} {highest lowest : Int}
    (extent : m.Extent count highest lowest)
    : lowest ≤ (m.after count).address.toInt ∧ (m.after count).address.toInt ≤ highest :=
  ⟨extent.least.2 ⟨count, Nat.le_refl _, rfl⟩, extent.greatest.2 ⟨count, Nat.le_refl _, rfl⟩⟩

/-- A step after which tape and address are the same, and that needed no cell, keeps the extent. -/
theorem Extent.idle {m : Machine} {count : Nat} {highest lowest : Int}
    (extent : m.Extent count highest lowest)
    (tape : (m.after (count + 1)).tape = (m.after count).tape)
    (address : (m.after (count + 1)).address = (m.after count).address)
    (free : ∀ cell, ¬(m.after count).NeedsCell cell)
    : m.Extent (count + 1) highest lowest := by
  have visited : m.visited (count + 1) = m.visited count := by
    rw [visited_succ, address]
    exact Set.insert_eq_of_mem ⟨count, Nat.le_refl _, rfl⟩
  have leaves : m.LeavesPositive (count + 1) ↔ m.LeavesPositive count :=
    leavesPositive_succ.trans (and_iff_left fun cell needs => absurd needs (free cell))
  refine ⟨?_, ?_, ?_, ?_, ?_⟩
  · rw [visited]
    exact extent.greatest
  · rw [visited]
    exact extent.least
  · rw [tape]
    exact extent.negative
  · rw [leaves, tape]
    exact extent.positive
  · rw [leaves, tape]
    exact extent.blank

/-- A step that works at a cell makes its half reach up to it. -/
theorem Extent.worked {m : Machine} {count : Nat} {highest lowest : Int}
    (extent : m.Extent count highest lowest) (origin : m.address = 0) {cell : Address}
    (needs : (m.after count).NeedsCell cell)
    (work : (m.after count).tape.WorkedAt cell (m.after (count + 1)).tape)
    (there : (m.after (count + 1)).address = cell)
    : m.Extent (count + 1) (max cell.toInt highest) (min cell.toInt lowest) := by
  have start : (0 : Int) ∈ m.visited count :=
    ⟨0, Nat.zero_le _, by rw [after, origin, Int64.toInt_zero]⟩
  have below := extent.least.2 start
  have above := extent.greatest.2 start
  have positive := work.size_positive
  have negative := work.size_negative
  have reached := extent.negative
  have visited := m.visited_succ count
  rw [there] at visited
  have ends
      : IsGreatest (m.visited (count + 1)) (max cell.toInt highest)
        ∧ IsLeast (m.visited (count + 1)) (min cell.toInt lowest) := by
    rw [visited]
    exact ⟨extent.greatest.insert _, extent.least.insert _⟩
  by_cases left : cell.toInt < 0
  · -- The positive half is as before, and so is what was needed of it.
    have leaves : m.LeavesPositive (count + 1) ↔ m.LeavesPositive count :=
      leavesPositive_succ.trans (and_iff_left fun _ again => needs.unique again ▸ left)
    have highest : max cell.toInt highest = highest := by omega
    rw [if_pos left] at positive negative
    refine ⟨ends.1, ends.2, by omega, ?_, ?_⟩
    · rw [leaves, highest, positive]
      exact extent.positive
    · rw [leaves, highest, Int.ofNat_inj.mp positive]
      exact extent.blank
  · -- A cell of the positive half was needed, so this half reaches as far as was visited.
    have needed : ¬m.LeavesPositive (count + 1) := fun leaves =>
      left ((leavesPositive_succ.mp leaves).2 cell needs)
    rw [if_neg left] at positive negative
    refine ⟨ends.1, ends.2, by omega, fun _ => ?_, fun _ leaves => absurd leaves needed⟩
    by_cases blank : highest = 0 ∧ m.LeavesPositive count
    · have none := extent.blank blank.1 blank.2
      omega
    · have some := extent.positive blank
      omega

/-- Before the first step nothing was visited but the start, and no cell exists. -/
theorem extent_zero {m : Machine} (origin : m.address = 0) (positive : m.tape.positive = #[])
    (negative : m.tape.negative = #[])
    : m.Extent 0 0 0 := by
  have start : m.visited 0 = {0} := by rw [visited_zero, origin, Int64.toInt_zero]
  refine ⟨?_, ?_, ?_, fun taken => ?_, fun _ _ => ?_⟩
  · rw [start]
    exact isGreatest_singleton
  · rw [start]
    exact isLeast_singleton
  · simp [after, negative]
  · exact absurd ⟨rfl, fun index before => absurd before (Nat.not_lt_zero index)⟩ taken
  · simp [after, positive]

/-- After every number of steps before the first failure, the halves of a tape that was blank reach
as far as the run went; by induction on the steps.
-/
theorem exists_extent {m : Machine} (origin : m.address = 0) (positive : m.tape.positive = #[])
    (negative : m.tape.negative = #[]) {count : Nat} (clean : m.ErrorFree count)
    : ∃ highest lowest, m.Extent count highest lowest := by
  induction count with
  | zero => exact ⟨0, 0, extent_zero origin positive negative⟩
  | succ count ih =>
      obtain ⟨highest, lowest, extent⟩ := ih (clean.of_le (Nat.le_succ count))
      have succeeds : (m.after count).step.1.isFailure = false := clean count (Nat.lt_succ_self _)
      have tape : (m.after (count + 1)).tape = (m.after count).step.2.tape := rfl
      have address : (m.after (count + 1)).address = (m.after count).step.2.address := rfl
      have effect := (m.after count).cellWork_step
      generalize (m.after count).step.2.tape = next at effect tape
      generalize (m.after count).step.2.address = target at effect address
      cases effect with
      | idle free => exact ⟨highest, lowest, extent.idle tape address free⟩
      | failed fails =>
          rw [succeeds] at fails
          cases fails
      | worked needs work => exact ⟨_, _, extent.worked origin needs (tape ▸ work) address⟩

-----------------------------------------------------------------------------------------
-- How much a step adds
-----------------------------------------------------------------------------------------

/-- Fewer steps than there are addresses on one side do not lead round to the other side; by
induction on the steps, whether they fail or not.
-/
theorem address_after_le {m : Machine} (origin : m.address = 0) {count : Nat}
    (few : count < 0x8000000000000000)
    : -(count : Int) ≤ (m.after count).address.toInt
      ∧ (m.after count).address.toInt ≤ count := by
  induction count with
  | zero => simp [after, origin]
  | succ count ih =>
      obtain ⟨lower, upper⟩ := ih (by omega)
      have effect := (m.after count).cellWork_step
      change CellWork _ _ _ (m.after (count + 1)).address at effect
      generalize (m.after (count + 1)).address = target at effect
      generalize (m.after count).step.2.tape = next at effect
      cases effect with
      | idle | failed => omega
      | worked needs =>
          obtain ⟨_, instruction, _, rfl⟩ := needs
          obtain ⟨left, right, _⟩ :=
            instruction.toInt_neededCell (by omega : _ < (m.after count).address.toInt) (by omega)
          omega

end Machine

/-- One half of a tape is longer by some cells, and the other as long as before. -/
def Tape.LengthenedBy (tape : Tape) (half : Half) (cells : Nat) (next : Tape) : Prop :=
  ∀ other, (next.cells other).size = (tape.cells other).size + if other = half then cells else 0

namespace Tape

theorem lengthenedBy_zero (tape : Tape) (half : Half) : tape.LengthenedBy half 0 tape := by
  intro other
  split <;> rfl

/-- Work at a cell makes its half longer by the cells that were missing. -/
theorem WorkedAt.lengthenedBy {tape next : Tape} {address : Address}
    (work : tape.WorkedAt address next)
    : tape.LengthenedBy address.half (address.index + 1 - (tape.cells address.half).size)
        next := by
  intro other
  rw [work.size_cells]
  split
  · rename_i same
    rw [same]
    omega
  · rfl

end Tape

namespace Machine

/-- The next step moves right from the start, and no cell of the positive half exists. -/
structure LeavesStart (m : Machine) : Prop where
  moves : ∃ position, m.Dispatches position .right
  start : m.address = 0
  blank : m.tape.positive.size = 0

/-- How many cells the next step may add. Moving right from a start that does not exist yet brings
two cells into being; any other step one cell at most.
-/
structure GrowsTightly (m : Machine) : Prop where
  usual
    : ¬m.LeavesStart
      → ∃ half cells, cells ≤ 1 ∧ m.tape.LengthenedBy half cells m.step.2.tape
  leaving
    : m.LeavesStart
      → m.step.1.isFailure = false
      → m.tape.LengthenedBy .positive 2 m.step.2.tape
  refused : m.LeavesStart → m.step.1.isFailure = true → m.step.2.tape = m.tape

/-- A step from the start to the right needs the cell behind the start. -/
theorem LeavesStart.needsCell {m : Machine} (leaves : m.LeavesStart) : m.NeedsCell 1 := by
  obtain ⟨position, dispatched⟩ := leaves.moves
  exact ⟨position, .right, dispatched, by rw [leaves.start]; rfl⟩

/-- Any other step needs a cell that is there, or the one with which its half goes on. -/
theorem Extent.index_le {m : Machine} {count : Nat} {highest lowest : Int}
    (extent : m.Extent count highest lowest) (origin : m.address = 0)
    (few : count + 1 < 0x8000000000000000) (usual : ¬(m.after count).LeavesStart)
    {cell : Address} (needs : (m.after count).NeedsCell cell)
    : cell.index ≤ ((m.after count).tape.cells cell.half).size := by
  obtain ⟨below, above⟩ := extent.between
  obtain ⟨lower, upper⟩ := address_after_le origin (Nat.lt_of_succ_lt few)
  obtain ⟨position, instruction, dispatched, rfl⟩ := needs
  obtain ⟨left, right, onward⟩ :=
    instruction.toInt_neededCell (by omega : _ < (m.after count).address.toInt) (by omega)
  have index := (instruction.neededCell (m.after count).address).index_eq
  have negative := extent.negative
  simp only [Int64.lt_iff_toInt_lt, Int64.toInt_zero] at index
  rw [Address.half_eq]
  split
  · rename_i under
    rw [if_pos under] at index
    simp only [Tape.cells]
    omega
  · rename_i nonneg
    rw [if_neg nonneg] at index
    simp only [Tape.cells]
    by_cases blank : highest = 0 ∧ m.LeavesPositive count
    · -- The run was never beyond the start, and goes there only by leaving it.
      have none := extent.blank blank.1 blank.2
      by_cases start : (m.after count).address.toInt = 0
      · have stays : instruction ≠ .right := by
          rintro rfl
          exact usual ⟨⟨position, dispatched⟩, Int64.toInt_inj.mp start, none⟩
        have near := onward stays
        omega
      · omega
    · have some := extent.positive blank
      omega

/-- A step from an extent adds one cell at most, unless it leaves a start that does not exist. -/
theorem Extent.growsTightly {m : Machine} {count : Nat} {highest lowest : Int}
    (extent : m.Extent count highest lowest) (origin : m.address = 0)
    (few : count + 1 < 0x8000000000000000)
    : (m.after count).GrowsTightly := by
  have effect := (m.after count).cellWork_step
  have kept : (m.after count).tape.LengthenedBy .positive 0 (m.after count).tape :=
    (m.after count).tape.lengthenedBy_zero .positive
  refine ⟨fun usual => ?_, fun leaves succeeds => ?_, fun leaves fails => ?_⟩
  · generalize (m.after count).step.2.tape = next at effect ⊢
    generalize (m.after count).step.2.address = target at effect
    cases effect with
    | idle | failed => exact ⟨.positive, 0, Nat.zero_le 1, kept⟩
    | worked needs work =>
        have index := extent.index_le origin few usual needs
        exact ⟨_, _, by omega, work.lengthenedBy⟩
  · generalize (m.after count).step.2.tape = next at effect ⊢
    generalize (m.after count).step.2.address = target at effect
    cases effect with
    | idle free => exact absurd leaves.needsCell (free 1)
    | failed fails =>
        rw [succeeds] at fails
        cases fails
    | worked needs work =>
        obtain rfl := leaves.needsCell.unique needs
        have two := work.lengthenedBy
        have half : Address.half 1 = .positive := by decide
        have index : Address.index 1 = 1 := by decide
        have blank : ((m.after count).tape.cells .positive).size = 0 := leaves.blank
        rwa [half, index, blank] at two
  · generalize (m.after count).step.2.tape = next at effect ⊢
    generalize (m.after count).step.2.address = target at effect
    cases effect with
    | idle | failed => rfl
    | worked needs work moves =>
        obtain rfl := leaves.needsCell.unique needs
        rw [leaves.start, fails] at moves
        cases moves (by decide)

end Machine

-----------------------------------------------------------------------------------------
-- Whole runs
-----------------------------------------------------------------------------------------

/-- The tape grows lazily and tightly. For every program, input and settings, in every state that is
reached without an error the negative half has as many cells as the run went below the start, and
the positive half one more than it went above, or none if it never went there nor worked at a cell
on that side. Of fewer steps than there are addresses on one side, each lengthens one half by one
cell at most, but for a move to the right from a start that does not exist yet, which adds two.
-/
theorem Setup.extent_after (setup : Setup) (count : Nat) (clean : setup.machine.ErrorFree count)
    : (∃ highest lowest, setup.machine.Extent count highest lowest)
      ∧ ∀ index ≤ count,
          index + 1 < 0x8000000000000000 → (setup.machine.after index).GrowsTightly := by
  refine ⟨Machine.exists_extent rfl rfl rfl clean, fun index before few => ?_⟩
  obtain ⟨highest, lowest, extent⟩ :=
    Machine.exists_extent (m := setup.machine) rfl rfl rfl (clean.of_le before)
  exact extent.growsTightly rfl few

/-- A program that leaves the start to the right before anything else, and goes on to the left. -/
def bothWays : Setup :=
  { program := { code := #[0x3e, 0x2e, 0x3c, 0x3c] }
    size_lt := by decide
    empty_of_absent := by decide }

theorem Setup.extent_after_bothWays
    : bothWays.machine.ErrorFree 4
      ∧ (∃ highest lowest, bothWays.machine.Extent 4 highest lowest)
      ∧ bothWays.machine.tape.LengthenedBy .positive 2 (bothWays.machine.after 1).tape
      ∧ (bothWays.machine.after 4).tape.positive.size = 2
      ∧ (bothWays.machine.after 4).tape.negative.size = 1 := by
  have clean : bothWays.machine.ErrorFree 4 := by decide
  obtain ⟨extent, tight⟩ := Setup.extent_after bothWays 4 clean
  have leaves : (bothWays.machine.after 0).LeavesStart :=
    ⟨⟨0, ⟨⟨by decide, by decide⟩, by decide⟩⟩, by decide, by decide⟩
  exact ⟨clean, extent, (tight 0 (by decide) (by decide)).leaving leaves (by decide),
    by decide, by decide⟩

end TapeMachine
