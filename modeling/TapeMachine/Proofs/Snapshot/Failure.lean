import TapeMachine.Proofs.Machine.Failure
import TapeMachine.Proofs.Snapshot.Safety
import TapeMachine.Session.Run

/-! A run that failed can be taken up again from its snapshot. A step goes past its byte before it
executes the instruction, and what a snapshot holds says nothing of a failure, so the resumed run
goes on behind the instruction that failed as if it had been passed.
-/

namespace TapeMachine

namespace Machine

-----------------------------------------------------------------------------------------
-- Where a failure leaves a machine
-----------------------------------------------------------------------------------------

/-- A step that fails leaves the machine behind the instruction that the error names, with no loop
skipped.
-/
theorem step_of_failure {m : Machine} {error : RunError} (fails : m.step.1 = .failed error)
    : m.Dispatches error.position error.instruction
      ∧ m.step.2.pc = error.position + 1
      ∧ m.step.2.skip = m.skip := by
  obtain ⟨dispatched, _, store, journal, stepped, _⟩ := step_eq_of_failure fails
  rw [stepped]
  exact ⟨dispatched, congrArg (· + 1) dispatched.fetched.pc, rfl⟩

/-- A step of a machine behind a position executes an instruction there or leaves it behind the
position, by the cases of a step.
-/
theorem behind_step {m : Machine} {place : Nat} (behind : (place : Int) < m.pc)
    : (∃ position instruction, place < position ∧ m.Dispatches position instruction)
      ∨ (place : Int) < m.step.2.pc := by
  have executes {position : Nat} {instruction : Instruction}
      (dispatched : m.Dispatches position instruction)
      : ∃ position instruction, place < position ∧ m.Dispatches position instruction := by
    have pc := dispatched.fetched.pc
    exact ⟨position, instruction, by omega, dispatched⟩
  have onward : (place : Int) < m.pc + 1 := by omega
  rcases stepped : m.step with ⟨outcome, next⟩
  cases transition_of_step stepped with
  | ended | misplaced => exact Or.inr behind
  | scanned =>
      refine Or.inr ?_
      unfold countBracket
      split <;> exact onward
  | passed | interrupted => exact Or.inr onward
  | commanded _ dispatched | refused _ dispatched | bypassed _ dispatched
  | overflowed _ dispatched | entered _ dispatched | unmatched _ dispatched
  | left _ dispatched | repeated _ dispatched => exact Or.inl (executes dispatched)

/-- A machine behind a position fails there only after it executed an instruction behind it. -/
theorem dispatches_behind {m : Machine} {place : Nat} (behind : (place : Int) < m.pc)
    {later : Nat} {error : RunError} (fails : m.outcome later = .failed error)
    (there : error.position = place)
    : ∃ earlier < later,
        ∃ position instruction,
          place < position ∧ (m.after earlier).Dispatches position instruction := by
  -- By induction on the steps, the machine executed such an instruction or is still behind the
  -- position, where it cannot have failed.
  have reached (count : Nat)
      : (∃ earlier < count,
            ∃ position instruction,
              place < position ∧ (m.after earlier).Dispatches position instruction)
        ∨ (place : Int) < (m.after count).pc := by
    induction count with
    | zero => exact Or.inr behind
    | succ count ih =>
        rcases ih with ⟨earlier, before, executes⟩ | behind
        · exact Or.inl ⟨earlier, by omega, executes⟩
        · rcases behind_step behind with executes | onward
          · exact Or.inl ⟨count, by omega, executes⟩
          · exact Or.inr onward
  rcases reached later with executes | behind
  · exact executes
  · have pc := (step_of_failure fails).1.fetched.pc
    omega

end Machine

-----------------------------------------------------------------------------------------
-- The snapshot that a session leaves
-----------------------------------------------------------------------------------------

namespace Machine

variable {σ : Type}

/-- Of a run that fails later, the first step goes on to the next one, from which it fails as many
steps later.
-/
theorem FailsAfter.next_step {m : Machine} {count : Nat} {error : RunError}
    (fails : m.FailsAfter (count + 1) error) (silent : m.breakpoints = false)
    : m.step.1 = .next ∧ m.step.2.FailsAfter count error := by
  have remaining : m.step.2.FailsAfter count error := by
    refine ⟨fun index below => ?_, (m.outcome_succ_eq count).symm.trans fails.2⟩
    rw [← outcome_succ_eq]
    exact fails.1 (index + 1) (by omega)
  refine ⟨?_, remaining⟩
  have first : m.step.1.isFailure = false := fails.1 0 (Nat.succ_pos count)
  -- A machine that a step leaves alone has the same outcome again and again.
  have moves (still : m.step.2 = m) : m.step.1 = .failed error := by
    have stays (number : Nat) : m.after number = m := by
      induction number with
      | zero => rfl
      | succ number ih => rw [after, ih, still]
    rw [← fails.2, outcome, stays]
  rcases stepped : m.step with ⟨outcome, next⟩
  rw [stepped] at first moves
  cases transition_of_step stepped with
  | ended | misplaced => cases moves rfl
  | scanned | passed | bypassed | entered | left | repeated => rfl
  | interrupted _ _ _ breaks => rw [silent] at breaks; cases breaks
  | refused | overflowed | unmatched => cases first
  | commanded =>
      refine Classical.byContradiction fun stops => ?_
      obtain ⟨_, _, failed⟩ := failed_of_ending rfl stops
      dsimp only at first
      rw [failed] at first
      cases first

/-- An execution that is never cancelled and meets no breaks takes steps until one of them fails;
by induction on the number of steps before that.
-/
theorem execFrom_of_failsAfter (attendant : Attendant σ)
    (going : ∀ state m, attendant.cancelled state m = false) {error : RunError} (state : σ)
    (count : Nat)
    : ∀ (m : Machine) (index fuel : Nat),
        m.FailsAfter count error
        → m.breakpoints = false
        → count < fuel
        → execFrom attendant index fuel state m
          = (.failed error, state, (m.after (count + 1)).record (.runFailed error)) := by
  induction count with
  | zero =>
      rintro m index (_ | fuel) ⟨_, fails⟩ _ enough
      · omega
      · rcases stepped : m.step with ⟨outcome, next⟩
        obtain rfl : outcome = .failed error := by
          rw [← fails, Machine.outcome, after, stepped]
        simp only [execFrom, going, Bool.and_false, Bool.false_eq_true, if_false, stepped, after]
  | succ count ih =>
      rintro m index (_ | fuel) fails silent enough
      · omega
      · obtain ⟨goesOn, failsLater⟩ := fails.next_step silent
        have same := m.after_succ_eq (count + 1)
        have rest := ih m.step.2 (index + 1) fuel failsLater
          (m.sameSettings_step.breakpoints.trans silent) (by omega)
        rcases stepped : m.step with ⟨outcome, next⟩
        rw [stepped] at goesOn rest same
        obtain rfl : outcome = .next := goesOn
        simp only [execFrom, going, Bool.and_false, Bool.false_eq_true, if_false, stepped]
        rw [rest, ← same]

end Machine

theorem Machine.snapshot_record (m : Machine) (event : Event)
    : (m.record event).snapshot = m.snapshot := by
  obtain ⟨journal, recorded⟩ := m.record_eq event
  rw [recorded]
  rfl

namespace Session.Aside

/-- What is said of the records of a machine brings nothing down. -/
theorem crash_drain (aside : Aside) (logger : Log.Logger) (span : String) (m : Machine)
    : (aside.drain logger span m).1.crash = aside.crash := by
  have logged (aside : Aside) (record : Log.Record)
      : (aside.log logger record).crash = aside.crash := by
    unfold log
    split <;> rfl
  unfold drain Machine.takeJournal
  dsimp only
  rw [← Array.foldl_toList]
  induction m.journal.toList generalizing aside with
  | nil => rfl
  | cons event rest ih => exact (ih _).trans (logged aside _)

theorem snapshot_drain (aside : Aside) (logger : Log.Logger) (span : String) (m : Machine)
    : (aside.drain logger span m).2.snapshot = m.snapshot :=
  rfl

end Session.Aside

/-- A session runs a machine without breaks, and is to leave a snapshot of it. -/
structure Session.Running.LeavesSnapshotOf (running : Session.Running) (m : Machine) : Prop where
  machine : running.machine = m
  silent : m.breakpoints = false
  sound : running.aside.crash = none
  asked : running.options.snapshot.isEmpty = false

/-- A session whose program fails leaves the snapshot of the failed machine. -/
theorem Session.Running.LeavesSnapshotOf.snapshot?_of_failsAfter {running : Session.Running}
    {m : Machine} (leaves : running.LeavesSnapshotOf m) {count : Nat} {error : RunError}
    (fails : m.FailsAfter count error) {steps : Nat} (enough : count < steps)
    : (running.advance steps).1 = some (.failed error)
      ∧ (running.advance steps).2.snapshot?
        = some (running.options.snapshot, ⟨(m.after (count + 1)).snapshot.encode.toArray⟩) := by
  obtain ⟨rfl, silent, sound, asked⟩ := leaves
  have executed := Machine.execFrom_of_failsAfter
    { onBreak := Session.tap running.options.logger running.span
      broken := Session.Aside.crashed }
    (fun _ _ => rfl) running.aside count running.machine running.index steps fails silent enough
  have recorded
      : ((running.machine.after (count + 1)).record (.runFailed error)).recordEnd.snapshot
        = (running.machine.after (count + 1)).snapshot := by
    unfold Machine.recordEnd
    rw [Machine.snapshot_record, Machine.snapshot_record]
  unfold Session.Running.advance
  simp only [executed, sound, reduceCtorEq, if_false, true_and, Session.Running.snapshot?, asked,
    Session.Aside.crashed, Session.Aside.crash_drain, Session.Aside.snapshot_drain, recorded,
    Option.isSome_none, Bool.or_self, Bool.false_eq_true]

namespace Setup

/-- From the start on, a machine stays in bounds, whether steps fail or not. -/
theorem confined_after (setup : Setup) (nonneg : 0 ≤ setup.maxDepth) (count : Nat)
    : (setup.machine.after count).Confined := by
  induction count with
  | zero =>
      exact {
        pc_nonneg := Int.le_refl 0
        pc_le := Int.natCast_nonneg _
        starts := fun _ member => by cases member
        depth := nonneg
        within := setup.withinLimit_after 0
      }
  | succ count ih => exact ih.step

/-- A fresh machine takes over the state in which a run failed. -/
theorem takesOver_of_failsAfter (setup : Setup) {count : Nat} {error : RunError}
    (fails : setup.machine.FailsAfter count error) (nonneg : 0 ≤ setup.maxDepth) {m : Machine}
    (streams : m.Continuation)
    : (setup.resuming streams).machine.TakesOver (setup.machine.after (count + 1)) := by
  have same := setup.machine.sameSettings_after (count + 1)
  have program : (setup.machine.after (count + 1)).program = setup.program := same.program
  have confined := setup.confined_after nonneg (count + 1)
  obtain ⟨position, skipped, fit⟩ := setup.loopsFit_after fails.1
  have skip : (setup.machine.after (count + 1)).skip = (setup.machine.after count).skip :=
    (Machine.step_of_failure fails.2).2.2
  exact {
    program := program.symm
    size_lt := by rw [program]; exact setup.size_lt
    empty_of_absent := by rw [program]; exact setup.empty_of_absent
    pc_nonneg := confined.pc_nonneg
    pc_le := confined.pc_le
    skip_nonneg := by rw [skip]; exact fit.mirrors.skip_nonneg
    depth := setup.length_loops_after nonneg (count + 1)
    starts := confined.starts
    limit := same.limit.symm
    within := setup.withinLimit_after (count + 1)
  }

/-- A failure does not last beyond a snapshot. Whatever the program, the input and the settings:
when a run failed, a session that is to leave a snapshot leaves that of the failed machine, and a
fresh machine with the same program and settings takes it back and stands behind the instruction
that failed. From there it goes on in step with the failed machine, and before it can fail at the
same place again it has executed an instruction behind it.
-/
theorem resume_of_failsAfter (setup : Setup) (count : Nat) (error : RunError)
    (fails : setup.machine.FailsAfter count error) (nonneg : 0 ≤ setup.maxDepth)
    (few : (setup.machine.after (count + 1)).loops.length ≤ Cbor.maxElements)
    (streams : (setup.machine.after (count + 1)).Continuation)
    : (∀ running : Session.Running,
        running.LeavesSnapshotOf setup.machine
        → ∀ steps > count,
            (running.advance steps).1 = some (.failed error)
            ∧ (running.advance steps).2.snapshot?
              = some
                  (running.options.snapshot,
                    ⟨(setup.machine.after (count + 1)).snapshot.encode.toArray⟩))
      ∧ ∃ resumed,
          (setup.resuming streams).machine.restore
              (setup.machine.after (count + 1)).snapshot.encode
            = .ok resumed
          ∧ resumed.pc = error.position + 1
          ∧ (∀ later,
              resumed.outcome later = setup.machine.outcome (count + 1 + later)
              ∧ Machine.Alike (setup.machine.after (count + 1)).output.bytes streams.output.bytes
                  (setup.machine.after (count + 1 + later)) (resumed.after later))
          ∧ ∀ later again,
              resumed.outcome later = .failed again
              → again.position = error.position
              → ∃ earlier < later,
                  ∃ position instruction,
                    error.position < position
                    ∧ (resumed.after earlier).Dispatches position instruction := by
  have able := setup.takesOver_of_failsAfter fails nonneg streams
  have alike := setup.alike_withStateOf streams
  have pc : (setup.machine.after (count + 1)).pc = error.position + 1 :=
    (Machine.step_of_failure fails.2).2.1
  refine ⟨fun running leaves steps enough => leaves.snapshot?_of_failsAfter fails enough,
    _, able.restore (setup.addressable_after (count + 1)) few, pc, fun later => ?_,
    fun later again failsAgain there => ?_⟩
  · rw [Machine.outcome_add _ (count + 1) later, Machine.after_add _ (count + 1) later]
    exact ⟨alike.outcome later, alike.after later⟩
  · exact Machine.dispatches_behind (by rw [alike.pc, pc]; omega) failsAgain there

/-- Two loops, of which only one may be entered, and a byte to be written inside of them. -/
def tooDeep : Setup :=
  { program := { code := #[0x2b, 0x5b, 0x5b, 0x2e] }
    maxDepth := 1
    size_lt := by decide
    empty_of_absent := by decide }

/-- No input, and a new output. -/
def tooDeep.streams : (tooDeep.machine.after 3).Continuation where
  input := {}
  output := {}
  rest := ⟨by decide, by decide⟩
  future := ⟨fun _ => rfl, fun _ => rfl⟩

/-- A session that is to leave its snapshot in a file. -/
def tooDeep.running : Session.Running :=
  { options := { snapshot := "s" }, span := "", machine := tooDeep.machine }

theorem resume_of_failsAfter_tooDeep
    : tooDeep.machine.FailsAfter 2 ⟨2, 0, .loopStart, .loopOverflow⟩
      ∧ tooDeep.running.LeavesSnapshotOf tooDeep.machine
      ∧ (tooDeep.running.advance 3).2.snapshot?
        = some ("s", ⟨(tooDeep.machine.after 3).snapshot.encode.toArray⟩)
      ∧ ∃ resumed,
          (tooDeep.resuming tooDeep.streams).machine.restore
              (tooDeep.machine.after 3).snapshot.encode
            = .ok resumed
          ∧ resumed.pc = 3
          ∧ resumed.outcome 1 = .done := by
  have fails : tooDeep.machine.FailsAfter 2 ⟨2, 0, .loopStart, .loopOverflow⟩ := by decide
  have leaves : tooDeep.running.LeavesSnapshotOf tooDeep.machine := ⟨rfl, rfl, rfl, by decide⟩
  obtain ⟨left, resumed, restored, pc, run, _⟩ :=
    resume_of_failsAfter tooDeep 2 _ fails (by decide) (by decide) tooDeep.streams
  refine ⟨fails, leaves, (left _ leaves 3 (by decide)).2, resumed, restored, pc,
    (run 1).1.trans ?_⟩
  decide

/-- A loop end without a match, and a byte to be written behind it. -/
def failsFirst : Setup :=
  { program := { code := #[0x5d, 0x2b, 0x2e] }
    size_lt := by decide
    empty_of_absent := by decide }

/-- No input, and a new output. -/
def failsFirst.streams : (failsFirst.machine.after 1).Continuation where
  input := {}
  output := {}
  rest := ⟨by decide, by decide⟩
  future := ⟨fun _ => rfl, fun _ => rfl⟩

/-- The run fails at its first instruction. Taken up again it executes the other two and ends as if
nothing had failed.
-/
theorem failsFirst_finishes_when_resumed
    : failsFirst.machine.FailsAfter 0 ⟨0, 0, .loopEnd, .unmatchedLoopEnd⟩
      ∧ ∃ resumed,
          failsFirst.machine.restore (failsFirst.machine.after 1).snapshot.encode = .ok resumed
          ∧ resumed.FinishesAfter 2
          ∧ (resumed.after 2).output.bytes = #[1] := by
  have fails : failsFirst.machine.FailsAfter 0 ⟨0, 0, .loopEnd, .unmatchedLoopEnd⟩ := by decide
  have able := failsFirst.takesOver_of_failsAfter fails (by decide) failsFirst.streams
  refine ⟨fails, _, able.restore (failsFirst.addressable_after 1) (by decide), ?_, ?_⟩ <;> decide

end Setup

end TapeMachine
