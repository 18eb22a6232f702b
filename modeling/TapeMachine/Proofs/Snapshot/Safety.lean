import TapeMachine.Machine.View
import TapeMachine.Proofs.Snapshot.Resume

/-! A snapshot is not trusted: its bytes may have been made up, so that its registers, loops and
tape lengths do not belong together. Whatever was accepted, a machine stays inside its program,
its loops and its tape from then on. The loops need not be those that are open before the program
counter; it is enough that each of them starts with a bracket of the program.
-/

namespace TapeMachine

namespace Machine

-----------------------------------------------------------------------------------------
-- The invariant
-----------------------------------------------------------------------------------------

/-- The registers and the tape of a machine stay in their bounds, however they came about. -/
structure Confined (m : Machine) : Prop where
  pc_nonneg : 0 ≤ m.pc
  pc_le : m.pc ≤ m.program.size
  starts : ∀ start ∈ m.loops, m.program.StartsLoop start
  depth : (m.loops.length : Int) ≤ m.maxDepth
  within : WithinLimit m.tape m.address

/-- The state of an accepted snapshot is in bounds. -/
theorem Accepts.confined {m : Machine} {s : Snapshot} (accepted : m.Accepts s)
    : (m.adopt s).Confined where
  pc_nonneg := accepted.pc_nonneg
  pc_le := accepted.pc_le
  starts := by
    intro start member
    obtain ⟨position, inside, rfl⟩ := List.mem_map.mp (List.mem_reverse.mp member)
    rw [← Int64.toNat_toInt]
    exact (accepted.starts position inside).2
  depth := by
    simpa [adopt] using accepted.depth
  within := by
    refine ⟨fun limited half => ?_, fun limited => ?_⟩
    · cases half with
      | positive => simpa [adopt, Tape.cells] using accepted.positive limited
      | negative => simpa [adopt, Tape.cells] using accepted.negative limited
    · exact Address.index_lt_iff.mpr (accepted.address limited)

/-- A step keeps a machine in bounds, whether it fails or not. A byte that was taken is inside the
program, so the next byte or the end comes after it, and so is every loop that was entered.
-/
theorem Confined.step {m : Machine} (confined : m.Confined) : m.step.2.Confined := by
  have settings := m.sameSettings_step
  have nonneg := confined.pc_nonneg
  have inside := confined.pc_le
  have registers : 0 ≤ m.step.2.pc ∧ m.step.2.pc ≤ m.program.size := by
    rcases m.pc_step with same | ⟨position, byte, fetched, next⟩ | ⟨start, member, back⟩
    · omega
    · have below := fetched.position_lt
      omega
    · have below := (confined.starts start member).position_lt
      omega
  refine ⟨registers.1, ?_, fun start member => ?_, ?_, ?_⟩
  · rw [settings.program]
    exact registers.2
  · rw [settings.program]
    exact (mem_loops_step member).elim (confined.starts start) id
  · rw [settings.maxDepth]
    exact length_loops_step confined.depth
  · exact confined.within.keep m.tapeEffect_step

/-- Reading the current cell works on the tape there or does nothing. -/
theorem cell_eq (m : Machine)
    : ∃ tape journal, m.cell.2 = { m with tape, journal }
        ∧ TapeEffect m.tape m.address tape m.address := by
  unfold cell
  cases refused : m.tape.refuses m.address with
  | true => exact ⟨m.tape, m.journal, by simp, .kept⟩
  | false =>
      obtain ⟨journal, reached⟩ := m.reach_eq m.address
      exact ⟨m.tape.extend m.address, journal, by simp [reached], .worked refused .grown⟩

/-- Reading the current cell keeps a machine in bounds. -/
theorem Confined.cell {m : Machine} (confined : m.Confined) : m.cell.2.Confined := by
  obtain ⟨tape, journal, same, effect⟩ := m.cell_eq
  rw [same]
  exact { confined with within := confined.within.keep effect }

-----------------------------------------------------------------------------------------
-- Calls in any order
-----------------------------------------------------------------------------------------

end Machine

/-- What can be asked of a machine. -/
inductive MachineCall where
  /-- Take a step. -/
  | step
  /-- Give the byte of the current cell, which exists afterwards. -/
  | cell
  /-- Show the registers and the cells around the address. -/
  | view
  /-- Take a snapshot back. -/
  | restore (bytes : List UInt8)

namespace Machine

/-- The machine after a call, whether the call succeeds or not. Showing changes nothing, and
neither does a snapshot that is not accepted.
-/
def afterCall (m : Machine) : MachineCall → Machine
  | .step => m.step.2
  | .cell => m.cell.2
  | .view => m
  | .restore bytes =>
    match m.restore bytes with
    | .ok restored => restored
    | .error _ => m

/-- The machine after a sequence of calls. -/
def afterCalls (m : Machine) (calls : List MachineCall) : Machine :=
  calls.foldl afterCall m

/-- A snapshot that is taken back leaves the settings alone and the machine in bounds. -/
theorem confined_of_restore {m restored : Machine} {bytes : List UInt8}
    (taken : m.restore bytes = .ok restored)
    : m.SameSettings restored ∧ restored.Confined := by
  obtain ⟨s, _, accepted, rfl⟩ := restore_eq_ok_iff.mp taken
  exact ⟨⟨rfl, rfl, rfl, rfl, rfl⟩, accepted.confined⟩

/-- Every call leaves the settings alone and keeps a machine in bounds. -/
theorem Confined.afterCall {m : Machine} (confined : m.Confined) (call : MachineCall)
    : m.SameSettings (m.afterCall call) ∧ (m.afterCall call).Confined := by
  cases call with
  | step => exact ⟨m.sameSettings_step, confined.step⟩
  | cell =>
      obtain ⟨tape, journal, same, effect⟩ := m.cell_eq
      refine ⟨?_, confined.cell⟩
      simp only [Machine.afterCall, same]
      exact ⟨rfl, effect.limit, rfl, rfl, rfl⟩
  | view => exact ⟨SameSettings.refl m, confined⟩
  | restore bytes =>
      cases taken : m.restore bytes with
      | error cause =>
          simp only [Machine.afterCall, taken]
          exact ⟨SameSettings.refl m, confined⟩
      | ok restored =>
          simp only [Machine.afterCall, taken]
          exact confined_of_restore taken

/-- Every sequence of calls does, by induction on its length. -/
theorem Confined.afterCalls {m : Machine} (confined : m.Confined) (calls : List MachineCall)
    : m.SameSettings (m.afterCalls calls) ∧ (m.afterCalls calls).Confined := by
  induction calls generalizing m with
  | nil => exact ⟨SameSettings.refl m, confined⟩
  | cons first rest ih =>
      obtain ⟨settings, next⟩ := confined.afterCall first
      obtain ⟨later, last⟩ := ih next
      exact ⟨settings.trans later, last⟩

-----------------------------------------------------------------------------------------
-- Nothing is looked up outside of its bounds
-----------------------------------------------------------------------------------------

/-- Everything that the calls on a machine look up is there. -/
structure LooksInside (m : Machine) : Prop where
  /-- A machine that is not at the end takes a byte of its program. -/
  fetched : m.done = false → ∃ position byte, m.Fetches position byte
  placed : ∀ pc, m.step.1 ≠ .outOfRange pc
  /-- A loop end that succeeds takes off a loop that was entered, and stays in the program. -/
  popped
    : ∀ position,
        m.Dispatches position .loopEnd
        → m.step.1.isFailure = false
        → ∃ start loops,
            m.loops = start :: loops
            ∧ start < m.program.size
            ∧ m.step.2.loops = loops
            ∧ (m.step.2.pc = position + 1 ∨ m.step.2.pc = start)
  /-- A step leaves tape and address alone or has worked on a cell that its half reaches. -/
  touched
    : (m.step.2.tape = m.tape ∧ m.step.2.address = m.address)
      ∨ m.step.2.tape.Holds m.step.2.address
  resolved : ∀ address next, m.tape.resolve address = .ok next → next.Holds address
  /-- The window that is shown can be copied at any address. -/
  shown : (m.tape.range? (m.address - windowRadius) (m.address + windowRadius)).isSome = true

/-- A loop end that succeeds found a loop to take off. -/
theorem loops_of_loopEnd {m : Machine} {position : Nat}
    (dispatched : m.Dispatches position .loopEnd) (success : m.step.1.isFailure = false)
    : ∃ start loops,
        m.loops = start :: loops
        ∧ m.step.2.loops = loops
        ∧ (m.step.2.pc = position + 1 ∨ m.step.2.pc = start) := by
  cases refused : m.tape.refuses m.address with
  | true =>
      obtain ⟨journal, stepped⟩ := dispatched.step_of_refused (Or.inr rfl) refused
      simp [stepped, Outcome.isFailure] at success
  | false =>
      cases entered : m.loops with
      | nil =>
          obtain ⟨journal, stepped⟩ := dispatched.step_of_unmatched refused entered
          simp [stepped, Outcome.isFailure] at success
      | cons start loops =>
          refine ⟨start, loops, rfl, ?_⟩
          by_cases zero : m.tape.peek m.address = 0
          · obtain ⟨journal, stepped⟩ := dispatched.step_of_leave refused zero entered
            rw [stepped]
            exact ⟨rfl, Or.inl (congrArg (· + 1) dispatched.fetched.pc)⟩
          · obtain ⟨journal, stepped⟩ := dispatched.step_of_jump refused zero entered
            rw [stepped]
            exact ⟨rfl, Or.inr rfl⟩

/-- A machine in bounds looks up nothing that is not there. -/
theorem Confined.looksInside {m : Machine} (confined : m.Confined) : m.LooksInside where
  fetched := fun inside => fetches_of_inside inside confined.pc_nonneg
  placed := fun _ misplaced =>
    absurd (before_of_outOfRange misplaced) (Int.not_lt.mpr confined.pc_nonneg)
  popped := by
    intro position dispatched success
    obtain ⟨start, loops, entered, taken, target⟩ := loops_of_loopEnd dispatched success
    have starts := confined.starts start (entered ▸ List.mem_cons_self)
    exact ⟨start, loops, entered, starts.position_lt, taken, target⟩
  touched := by
    have effect := m.tapeEffect_step
    generalize m.step.2.tape = tape at effect ⊢
    generalize m.step.2.address = address at effect ⊢
    cases effect with
    | kept => exact Or.inl ⟨rfl, rfl⟩
    | worked _ work => exact Or.inr work.holds
  resolved := by
    intro address next resolved
    unfold Tape.resolve at resolved
    split at resolved
    · cases resolved
    · obtain rfl := Except.ok.inj resolved
      exact m.tape.holds_extend address
  shown := by
    have width : (m.address + windowRadius) - (m.address - windowRadius) = 16 := by
      unfold windowRadius
      grind
    have narrow : Tape.rangeTooWide (m.address - windowRadius) (m.address + windowRadius)
        = false := by
      unfold Tape.rangeTooWide
      rw [width]
      decide
    simp [Tape.range?, narrow]

/-- The registers and the tape of a machine are in the bounds that a program and two limits set. -/
structure InBounds (m : Machine) (program : Program) (maxDepth maxCells : Int) : Prop where
  pc_nonneg : 0 ≤ m.pc
  pc_le : m.pc ≤ program.size
  starts : ∀ start ∈ m.loops, program.StartsLoop start
  depth : (m.loops.length : Int) ≤ maxDepth
  positive : 0 < maxCells → (m.tape.positive.size : Int) ≤ maxCells
  negative : 0 < maxCells → (m.tape.negative.size : Int) ≤ maxCells
  address : 0 < maxCells → -maxCells ≤ m.address.toInt ∧ m.address.toInt < maxCells

/-- A machine that took a snapshot back is safe, whatever the bytes were. For every program and
limits, every string of bytes that is accepted and every later sequence of calls, of any length
and with errors in between, the registers and the tape stay in their bounds, and nothing is looked
up that is not there.
-/
theorem inBounds_of_restore (m restored : Machine) (bytes : List UInt8)
    (taken : m.restore bytes = .ok restored) (calls : List MachineCall)
    : (restored.afterCalls calls).InBounds m.program m.maxDepth m.tape.limit
      ∧ (restored.afterCalls calls).LooksInside := by
  obtain ⟨first, start⟩ := confined_of_restore taken
  obtain ⟨second, confined⟩ := start.afterCalls calls
  have settings := first.trans second
  refine ⟨?_, confined.looksInside⟩
  rw [← settings.program, ← settings.maxDepth, ← settings.limit]
  exact {
    pc_nonneg := confined.pc_nonneg
    pc_le := confined.pc_le
    starts := confined.starts
    depth := confined.depth
    positive := fun limited => confined.within.size_le limited .positive
    negative := fun limited => confined.within.size_le limited .negative
    address := fun limited => Address.index_lt_iff.mp (confined.within.index_lt limited)
  }

/-- One loop, at most two deep and on one cell in each half. -/
def oneLoop : Machine :=
  { program := { code := #[0x5b, 0x5d] }
    tape := { limit := 1 }
    maxDepth := 2 }

/-- A made-up state of that machine, which no run reaches: the loop was entered twice, and the
machine stands on the negative half. Its cell is not zero, so the loop end jumps back.
-/
def forgedSnapshot : Snapshot :=
  { program := some [0x5b, 0x5d]
    pc := 1
    address := -1
    loops := [0, 0]
    negative := some [1] }

theorem inBounds_of_restore_forged
    : oneLoop.restore forgedSnapshot.encode = .ok (oneLoop.adopt forgedSnapshot)
      ∧ ((oneLoop.adopt forgedSnapshot).afterCalls [.step]).pc = 0
      ∧ ((oneLoop.adopt forgedSnapshot).afterCalls
            [.step, .step, .view, .step, .cell]).InBounds oneLoop.program 2 1
      ∧ ((oneLoop.adopt forgedSnapshot).afterCalls
            [.step, .restore forgedSnapshot.encode, .step]).LooksInside := by
  have taken : oneLoop.restore forgedSnapshot.encode = .ok (oneLoop.adopt forgedSnapshot) := by
    have storable : forgedSnapshot.Storable :=
      ⟨by decide, by decide, by decide, by decide⟩
    rw [restore, Snapshot.decode_encode storable]
    rfl
  exact ⟨taken, by decide,
    (inBounds_of_restore oneLoop _ _ taken [.step, .step, .view, .step, .cell]).1,
    (inBounds_of_restore oneLoop _ _ taken
      [.step, .restore forgedSnapshot.encode, .step]).2⟩

end Machine

end TapeMachine
