import TapeMachine.Proofs.Loops.Stack

/-! The two faults that brackets can raise are decided by the text of the program.
A run cannot get past a loop end without a match and fails on reaching it, and no other loop end
fails for want of a loop. A loop start fails exactly where it would open more loops in the text
than are allowed at once, however often the loops around it were repeated before.
-/

namespace TapeMachine

namespace Machine

/-- The ways in which a step can fail: the store raises a fault, a loop end stands outside of all
loops, or a loop start inside as many as are allowed.
-/
theorem failure_cases {m : Machine} {error : RunError} (failed : m.step.1 = .failed error)
    : error.fault.isOfStore = true
      ∨ (error.fault = .unmatchedLoopEnd
          ∧ m.Dispatches error.position .loopEnd
          ∧ m.loops = [])
      ∨ (error.fault = .loopOverflow
          ∧ m.Dispatches error.position .loopStart
          ∧ m.tape.peek m.address ≠ 0
          ∧ m.maxDepth ≤ m.loops.length) := by
  rcases stepped : m.step with ⟨outcome, next⟩
  rw [stepped] at failed
  cases transition_of_step stepped with
  | ended | misplaced | scanned | passed | interrupted | bypassed | entered | left | repeated =>
      simp at failed
  | @commanded position command =>
      obtain ⟨fault, raised, same⟩ := failed_of_ending failed nofun
      obtain rfl := Outcome.failed.inj same
      exact Or.inl ((command.orderly_exec m.endOfInput m.store).fault fault raised)
  | refused =>
      obtain rfl := Outcome.failed.inj failed
      exact Or.inl rfl
  | unmatched journal dispatched _ empty =>
      obtain rfl := Outcome.failed.inj failed
      exact Or.inr (Or.inl ⟨rfl, dispatched, empty⟩)
  | overflowed journal dispatched _ nonzero deep =>
      obtain rfl := Outcome.failed.inj failed
      exact Or.inr (Or.inr ⟨rfl, dispatched, nonzero, deep⟩)

namespace LoopsFit

variable {m : Machine} {position : Nat} {skipped : List Nat}

/-- A step goes at most one byte ahead: a jump goes back to a loop that was entered before. -/
theorem pc_step_le (fit : m.LoopsFit position skipped) : m.step.2.pc ≤ m.pc + 1 := by
  rcases stepped : m.step with ⟨outcome, next⟩
  cases transition_of_step stepped with
  | ended | misplaced => exact Int.le_add_one (Int.le_refl _)
  | scanned =>
      unfold countBracket
      split <;> exact Int.le_refl _
  | passed | interrupted | commanded | refused | bypassed | overflowed | entered | unmatched
  | left => exact Int.le_refl _
  | @repeated _ start _ _ dispatched _ _ inside =>
      obtain rfl := fit.position_eq dispatched.fetched
      have earlier :=
        (Program.openLoops_of_innermost (fit.innermost dispatched.normal inside)).2.2
      have pc := fit.pc
      change (start : Int) ≤ m.pc + 1
      omega

/-- On reaching a loop end without a match, a machine has entered no loop and skips none, so it
fails there.
-/
theorem step_of_unmatchedEnd (fit : m.LoopsFit position skipped)
    (unmatched : m.program.UnmatchedEnd position)
    (admitted : m.tape.refuses m.address = false)
    : m.step.1 = .failed ⟨position, m.address, .loopEnd, .unmatchedLoopEnd⟩ := by
  have empty := unmatched.ends.unmatched_iff.mp unmatched
  rw [fit.stack, List.append_eq_nil_iff] at empty
  obtain ⟨rfl, loops⟩ := empty
  have normal : ¬0 < m.skip := by
    have count := fit.count
    rw [Int64.lt_iff_toInt_lt, Int64.toInt_zero, ← count]
    exact Int.lt_irrefl 0
  have dispatched : m.Dispatches position .loopEnd := ⟨⟨fit.pc, unmatched.ends⟩, normal⟩
  obtain ⟨journal, stepped⟩ := dispatched.step_of_unmatched admitted loops
  rw [stepped]

/-- Where registers fit, a loop end that fails for want of a loop has no match in the text. -/
theorem unmatchedEnd_of_failure (fit : m.LoopsFit position skipped) {error : RunError}
    (failed : m.step.1 = .failed error) (fault : error.fault = .unmatchedLoopEnd)
    : m.program.UnmatchedEnd position := by
  rcases failure_cases failed with ofStore | ⟨_, dispatched, empty⟩ | ⟨other, _⟩
  · simp [fault, Fault.isOfStore] at ofStore
  · obtain same := fit.position_eq dispatched.fetched
    rw [same] at dispatched
    have ends : m.program.EndsLoop position := dispatched.fetched.byte
    apply ends.unmatched_iff.mpr
    rw [← (fit.loops_eq dispatched.normal).2, empty]
  · simp [fault] at other

/-- Where registers fit, too many loops are exactly as many open loops in the text as are allowed,
before a loop start that is executed on a cell that is not zero.
-/
theorem overflow_iff (fit : m.LoopsFit position skipped)
    (admitted : m.tape.refuses m.address = false) (place : Nat)
    : (∃ error,
          m.step.1 = .failed error
          ∧ error.position = place
          ∧ error.fault = .loopOverflow)
      ↔ m.Dispatches place .loopStart
        ∧ m.tape.peek m.address ≠ 0
        ∧ m.maxDepth ≤ (m.program.openLoops place).length := by
  constructor
  · rintro ⟨error, failed, rfl, fault⟩
    rcases failure_cases failed with ofStore | ⟨other, _⟩ | ⟨_, dispatched, nonzero, deep⟩
    · simp [fault, Fault.isOfStore] at ofStore
    · simp [fault] at other
    · obtain same := fit.position_eq dispatched.fetched
      refine ⟨dispatched, nonzero, ?_⟩
      rwa [same, ← (fit.loops_eq dispatched.normal).2]
  · rintro ⟨dispatched, nonzero, deep⟩
    obtain rfl := fit.position_eq dispatched.fetched
    rw [← (fit.loops_eq dispatched.normal).2] at deep
    obtain ⟨journal, stepped⟩ := dispatched.step_of_overflow admitted nonzero deep
    exact ⟨_, by rw [stepped], rfl, rfl⟩

end LoopsFit

end Machine

-----------------------------------------------------------------------------------------
-- Runs up to their first error
-----------------------------------------------------------------------------------------

/-- A run does not get past a loop end without a match: it would have to step over it, and fails
there instead.
-/
theorem Setup.pc_le_of_unmatchedEnd (setup : Setup) {position count : Nat}
    (unmatched : setup.program.UnmatchedEnd position)
    (clean : setup.machine.ErrorFree count)
    : (setup.machine.after count).pc ≤ position := by
  induction count with
  | zero => exact Int.natCast_nonneg position
  | succ count ih =>
      have earlier := clean.of_le (Nat.le_succ count)
      have before := ih earlier
      obtain ⟨place, skipped, fit⟩ := setup.loopsFit_after earlier
      have program := (setup.machine.sameSettings_after count).program
      have ahead := fit.pc_step_le
      have pc := fit.pc
      have away : place ≠ position := by
        rintro rfl
        have failed := fit.step_of_unmatchedEnd (program ▸ unmatched)
          (setup.withinLimit_after count).admitted
        have passes := clean count (Nat.lt_succ_self count)
        simp [Machine.outcome, failed, Outcome.isFailure] at passes
      change (setup.machine.after count).step.2.pc ≤ position
      omega

/-- A loop start has fewer loops open before it than the program is deep. -/
theorem Program.StartsLoop.length_lt_depth {program : Program} {position : Nat}
    (starts : program.StartsLoop position)
    : (program.openLoops position).length < program.depth := by
  have bound := program.length_openLoops_le_depth (Nat.succ_le_of_lt starts.position_lt)
  rw [openLoops_of_starts starts, List.length_cons] at bound
  omega

/-- The faults of brackets are decided by the text. For a run up to its first error, whatever the
program, the input and the settings:

* no run gets past a loop end without a match, and one that reaches it fails there;
* a program without such a loop end never fails for want of a loop;
* a loop start raises an overflow exactly if it is executed on a cell that is not zero and at
  least as many loops are open in the text before it as are allowed;
* a program that is not nested deeper than allowed never raises an overflow.
-/
theorem Setup.loopFaults_of_text (setup : Setup) (count : Nat)
    (clean : setup.machine.ErrorFree count)
    : let m := setup.machine.after count
      (∀ position : Nat,
          setup.program.UnmatchedEnd position
          → m.pc ≤ position
            ∧ (m.pc = position
                → m.step.1 = .failed ⟨position, m.address, .loopEnd, .unmatchedLoopEnd⟩))
      ∧ ((∀ position, ¬setup.program.UnmatchedEnd position)
          → ∀ error, m.step.1 = .failed error → error.fault ≠ .unmatchedLoopEnd)
      ∧ (∀ position : Nat,
          (∃ error,
              m.step.1 = .failed error
              ∧ error.position = position
              ∧ error.fault = .loopOverflow)
          ↔ m.Dispatches position .loopStart
            ∧ m.tape.peek m.address ≠ 0
            ∧ setup.maxDepth ≤ (setup.program.openLoops position).length)
      ∧ ((setup.program.depth : Int) ≤ setup.maxDepth
          → ∀ error, m.step.1 = .failed error → error.fault ≠ .loopOverflow) := by
  intro m
  obtain ⟨place, skipped, fit⟩ := setup.loopsFit_after clean
  have settings := setup.machine.sameSettings_after count
  have program : m.program = setup.program := settings.program
  have maxDepth : m.maxDepth = setup.maxDepth := settings.maxDepth
  have admitted := (setup.withinLimit_after count).admitted
  have overflow (position : Nat) := fit.overflow_iff admitted position
  change ∀ position : Nat,
    _ ↔ _ ∧ _ ∧ m.maxDepth ≤ (m.program.openLoops position).length at overflow
  rw [program, maxDepth] at overflow
  refine ⟨?_, ?_, overflow, ?_⟩
  · intro position unmatched
    refine ⟨setup.pc_le_of_unmatchedEnd unmatched clean, fun reached => ?_⟩
    obtain rfl : place = position := Int.ofNat_inj.mp (fit.pc.symm.trans reached)
    exact fit.step_of_unmatchedEnd (program ▸ unmatched) admitted
  · intro matched error failed fault
    exact matched place (program ▸ fit.unmatchedEnd_of_failure failed fault)
  · intro shallow error failed fault
    obtain ⟨dispatched, _, deep⟩ := (overflow error.position).mp ⟨error, failed, rfl, fault⟩
    have starts : setup.program.StartsLoop error.position :=
      program ▸ dispatched.fetched.byte
    have bound := starts.length_lt_depth
    omega

/-- After a loop that is left, the loop end behind it has no match. -/
def strayEnd : Setup :=
  { program := { code := #[0x2b, 0x5b, 0x2d, 0x5d, 0x5d, 0x2b] }
    size_lt := by decide
    empty_of_absent := by decide }

theorem Setup.loopFaults_of_text_strayEnd
    : strayEnd.machine.ErrorFree 4
      ∧ strayEnd.program.UnmatchedEnd 4
      ∧ (strayEnd.machine.after 4).step.1
        = .failed ⟨4, 0, .loopEnd, .unmatchedLoopEnd⟩ := by
  have clean : strayEnd.machine.ErrorFree 4 := by decide
  have unmatched : strayEnd.program.UnmatchedEnd 4 :=
    (Program.EndsLoop.unmatched_iff (by decide)).mpr (by decide)
  exact ⟨clean, unmatched,
    ((Setup.loopFaults_of_text strayEnd 4 clean).1 4 unmatched).2 (by decide)⟩

end TapeMachine
