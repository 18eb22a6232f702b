import TapeMachine.Proofs.Comments.Stripped
import TapeMachine.Proofs.Machine.Debugging
import TapeMachine.Proofs.Machine.Likeness

/-! Comments do not matter. The run of a program and that of the stripped program take the same
instructions in the same order; where the one passes comments, the other one stands still. Both
runs end together, as behind every instruction only finitely many comments are passed before the
next one is taken or the program ends.
-/

namespace TapeMachine

-----------------------------------------------------------------------------------------
-- States that correspond
-----------------------------------------------------------------------------------------

/-- An error with its position exchanged. -/
def RunError.placed (place : Nat → Nat) (error : RunError) : RunError :=
  { error with position := place error.position }

/-- An outcome with its position exchanged. -/
def Outcome.placed (place : Nat → Nat) : Outcome → Outcome
  | interrupted position => .interrupted (place position)
  | failed error => .failed (error.placed place)
  | outcome => outcome

/-- A program found again in its stripped program: by the number of instructions before a position,
with the same store.
-/
def Program.withoutComments (program : Program) : Likeness where
  place := program.rank
  move := id
  turn := id
  Stores := fun store other => other = store
  address := by rintro store _ rfl; rfl
  peek := by rintro store _ rfl; rfl
  refuses := by rintro store _ rfl; rfl
  cause := by rintro store _ rfl _; rfl
  reached := by rintro store _ rfl; rfl
  exec := by rintro store _ policy command rfl; exact ⟨rfl, rfl⟩

/-- Only the position of an outcome changes when comments are removed. -/
theorem Program.outcome_withoutComments (program : Program) (outcome : Outcome)
    : program.withoutComments.outcome outcome = outcome.placed program.rank := by
  cases outcome with
  | failed error =>
      simp only [Likeness.outcome, withoutComments, Instruction.turned_id, id,
        Outcome.placed, RunError.placed]
  | done | next | interrupted | outOfRange => rfl

namespace Machine

/-- The next step takes a byte that stands for an instruction, be it to execute or to skip it. -/
def takesInstruction (m : Machine) : Bool :=
  0 ≤ m.pc && (m.program.byte? m.pc.toNat).any Instruction.spelled

/-- The number of instructions that the first steps take. -/
def instructionsTaken (m : Machine) (count : Nat) : Nat :=
  Nat.count (fun index => (m.after index).takesInstruction = true) count

/-- One machine runs a program and the other one the stripped program, and so far they did the
same.
-/
structure Condenses (m other : Machine) : Prop where
  stripped : other.program = m.program.stripped
  silent : m.breakpoints = false
  related : m.program.withoutComments.Relates m other

/-- Of the instructions that were taken, each was taken by one of the steps. -/
theorem takesInstruction_of_lt {m : Machine} {count index : Nat}
    (earlier : index < m.instructionsTaken count)
    : ∃ found < count,
        m.instructionsTaken found = index ∧ (m.after found).takesInstruction = true := by
  -- The last step took the last instruction, or an earlier step took it.
  induction count with
  | zero => cases earlier
  | succ count ih =>
      by_cases before : index < m.instructionsTaken count
      · obtain ⟨found, below, taken⟩ := ih before
        exact ⟨found, by omega, taken⟩
      · rw [instructionsTaken, Nat.count_succ] at earlier
        split at earlier
        · rename_i takes
          rw [instructionsTaken] at before
          exact ⟨count, by omega, by rw [instructionsTaken]; omega, takes⟩
        · exact absurd earlier before

/-- A machine that takes an instruction does so at a position. -/
theorem fetches_of_takesInstruction {m : Machine} (takes : m.takesInstruction = true)
    : ∃ position instruction, m.Fetches position (Instruction.toByte instruction) := by
  simp only [takesInstruction, Bool.and_eq_true, decide_eq_true_eq, Option.any_eq_true] at takes
  obtain ⟨nonneg, byte, present, spelled⟩ := takes
  obtain ⟨instruction, means⟩ := Option.isSome_iff_exists.mp spelled
  obtain rfl := Instruction.ofByte?_eq_some_iff.mp means
  exact ⟨m.pc.toNat, instruction, (Int.toNat_of_nonneg nonneg).symm, present⟩

/-- A machine that takes a byte takes an instruction just if the byte stands for one. -/
theorem Fetches.takesInstruction_eq {m : Machine} {position : Nat} {byte : UInt8}
    (fetched : m.Fetches position byte)
    : m.takesInstruction = Instruction.spelled byte := by
  have place : m.pc.toNat = position := by rw [fetched.pc, Int.toNat_natCast]
  have nonneg : 0 ≤ m.pc := by rw [fetched.pc]; exact Int.natCast_nonneg _
  simp only [takesInstruction, place, fetched.byte, nonneg, Option.any_some, decide_true,
    Bool.true_and]

/-- While no break interrupts the run, a step over a comment changes nothing but the program
counter, whether a loop is skipped or not.
-/
theorem Fetches.step_of_uninterrupted {m : Machine} {position : Nat} {byte : UInt8}
    (fetched : m.Fetches position byte) (comment : Instruction.spelled byte = false)
    (silent : m.breakpoints = false)
    : m.step = (.next, { m with pc := m.pc + 1 }) := by
  have meaningless : Instruction.ofByte? byte = none := by
    simpa [Instruction.spelled] using comment
  by_cases skipping : 0 < m.skip
  · rw [fetched.step_of_skipping skipping, countBracket_of_comment _ meaningless]
  · exact fetched.step_of_comment skipping meaningless (by simp [silent])

namespace Condenses

variable {m other : Machine}

/-- At the end of the program the stripped program ends, too. -/
theorem done (same : m.Condenses other) (past : m.done = true) : other.done = true := by
  obtain ⟨position, here, there⟩ := same.related.pc
  simp only [Machine.done, decide_eq_true_eq] at past ⊢
  rw [same.stripped, there]
  change _ ≤ (m.program.rank position : Int)
  rw [Program.rank_of_size_le (by omega)]

/-- An instruction that the one machine takes, the other one takes, too. -/
theorem fetches (same : m.Condenses other) {position : Nat} {instruction : Instruction}
    (fetched : m.Fetches position instruction.toByte)
    : other.Fetches (m.program.rank position) instruction.toByte := by
  have spelled : Instruction.spelled instruction.toByte = true := by
    rw [Instruction.spelled, Instruction.ofByte?_toByte, Option.isSome_some]
  refine ⟨same.related.pc_eq fetched.pc, ?_⟩
  rw [same.stripped]
  exact Program.byte?_stripped fetched.byte spelled

theorem inside (same : m.Condenses other) (takes : m.takesInstruction = true)
    : other.done = false := by
  obtain ⟨position, instruction, fetched⟩ := fetches_of_takesInstruction takes
  exact (same.fetches fetched).inside

/-- When the one machine takes an instruction, both take a step with the same outcome. -/
theorem step (same : m.Condenses other) (takes : m.takesInstruction = true)
    : other.step.1 = m.step.1.placed m.program.rank ∧ m.step.2.Condenses other.step.2 := by
  obtain ⟨position, instruction, fetched⟩ := fetches_of_takesInstruction takes
  have next : m.program.rank (position + 1) = m.program.rank position + 1 := by
    rw [Program.rank_succ fetched.byte, ← fetched.takesInstruction_eq, if_pos takes]
  have settings := m.sameSettings_step
  have otherSettings := other.sameSettings_step
  have kept : instruction.turned m.program.withoutComments.turn = instruction :=
    instruction.turned_id
  obtain ⟨outcome, related⟩ :=
    same.related.step fetched (by rw [kept]; exact same.fetches fetched) next
  rw [Program.outcome_withoutComments] at outcome
  refine ⟨outcome, ?_, settings.breakpoints.trans same.silent, ?_⟩
  · rw [otherSettings.program, settings.program, same.stripped]
  · rw [settings.program]
    exact related

/-- When the one machine takes no instruction, the other one stands still: the step passes a
comment or is one at the end of the program.
-/
theorem stay (same : m.Condenses other) (takes : m.takesInstruction = false)
    : (m.done = true ∧ m.step = (.done, m)
        ∨ m.done = false ∧ m.step = (.next, { m with pc := m.pc + 1 }))
      ∧ m.step.2.Condenses other := by
  by_cases past : m.done = true
  · rw [step_of_done past]
    exact ⟨Or.inl ⟨past, rfl⟩, same⟩
  obtain ⟨position, here, there⟩ := same.related.pc
  have inside : m.done = false := by simpa using past
  obtain ⟨found, byte, fetched⟩ := fetches_of_inside inside (by omega)
  have comment : Instruction.spelled byte = false := by
    rw [← fetched.takesInstruction_eq, takes]
  have stands : m.program.rank (found + 1) = m.program.rank found := by
    rw [Program.rank_succ fetched.byte, comment]
    rfl
  have stepped := fetched.step_of_uninterrupted comment same.silent
  rw [stepped]
  refine ⟨Or.inr ⟨inside, rfl⟩, same.stripped, same.silent, ?_⟩
  refine { same.related with pc := ⟨found + 1, ?_, ?_⟩ }
  · dsimp only
    rw [fetched.pc]
    rfl
  · rw [same.related.pc_eq fetched.pc]
    exact congrArg Int.ofNat stands.symm

/-- Only steps that take an instruction fail. -/
theorem takes_of_failure (same : m.Condenses other) (fails : m.step.1.isFailure = true)
    : m.takesInstruction = true := by
  by_contra idle
  rcases (same.stay (Bool.eq_false_iff.mpr idle)).1 with ⟨_, stepped⟩ | ⟨_, stepped⟩
  all_goals rw [stepped] at fails; cases fails

end Condenses

-----------------------------------------------------------------------------------------
-- Runs that correspond
-----------------------------------------------------------------------------------------

namespace Condenses

variable {m other : Machine}

/-- After any number of steps, the machines stand where the same instructions were taken; by
induction on the number of steps.
-/
theorem after (same : m.Condenses other) (count : Nat)
    : (m.after count).Condenses (other.after (m.instructionsTaken count)) := by
  induction count with
  | zero => exact same
  | succ count ih =>
      rw [instructionsTaken, Nat.count_succ]
      cases takes : (m.after count).takesInstruction with
      | true => exact (ih.step takes).2
      | false => exact (ih.stay takes).2

/-- A step that takes an instruction has the same outcome in both runs. -/
theorem outcome (same : m.Condenses other) {count : Nat}
    (takes : (m.after count).takesInstruction = true)
    : other.outcome (m.instructionsTaken count)
      = (m.outcome count).placed m.program.rank := by
  have stepped := ((same.after count).step takes).1
  rwa [(m.sameSettings_after count).program] at stepped

/-- From any number of steps on, comments are passed until an instruction is taken or the program
ends.
-/
theorem settles (same : m.Condenses other) (left : Nat)
    : ∀ count,
        (m.program.size : Int) - (m.after count).pc ≤ left
        → ∃ later, m.instructionsTaken later = m.instructionsTaken count
          ∧ ((m.after later).takesInstruction = true ∨ (m.after later).done = true) := by
  -- Only instructions go back, so the bytes that are left bound the comments to be passed.
  induction left with
  | zero =>
      intro count none
      refine ⟨count, rfl, Or.inr ?_⟩
      rw [Machine.done, (m.sameSettings_after count).program, decide_eq_true_eq]
      omega
  | succ left ih =>
      intro count fewer
      cases takes : (m.after count).takesInstruction with
      | true => exact ⟨count, rfl, Or.inl takes⟩
      | false =>
          rcases ((same.after count).stay takes).1 with ⟨past, _⟩ | ⟨_, stepped⟩
          · exact ⟨count, rfl, Or.inr past⟩
          · have taken : m.instructionsTaken (count + 1) = m.instructionsTaken count := by
              rw [instructionsTaken, instructionsTaken, Nat.count_succ, takes]
              rfl
            have next : (m.after (count + 1)).pc = (m.after count).pc + 1 :=
              congrArg (·.2.pc) stepped
            obtain ⟨later, same, settled⟩ := ih (count + 1) (by omega)
            exact ⟨later, same.trans taken, settled⟩

/-- Each step of the run of the stripped program is one at which the run of the program takes an
instruction, until that run ends.
-/
theorem covers (same : m.Condenses other) (index : Nat)
    : ∃ count,
        (m.instructionsTaken count = index ∧ (m.after count).takesInstruction = true)
        ∨ (m.instructionsTaken count ≤ index ∧ (m.after count).done = true) := by
  -- Induction on the steps of the stripped program: behind the step for each of them, comments are
  -- passed up to the step for the next one.
  have settled (count : Nat) := same.settles
    ((m.program.size : Int) - (m.after count).pc).toNat count (Int.self_le_toNat _)
  induction index with
  | zero =>
      obtain ⟨count, taken, takes | past⟩ := settled 0
      · exact ⟨count, Or.inl ⟨taken, takes⟩⟩
      · exact ⟨count, Or.inr ⟨Nat.le_of_eq taken, past⟩⟩
  | succ index ih =>
      obtain ⟨earlier, ⟨taken, takes⟩ | ⟨few, past⟩⟩ := ih
      · have more : m.instructionsTaken (earlier + 1) = index + 1 := by
          rw [instructionsTaken, Nat.count_succ, if_pos takes]
          exact congrArg (· + 1) taken
        obtain ⟨count, taken, takes | past⟩ := settled (earlier + 1)
        · exact ⟨count, Or.inl ⟨taken.trans more, takes⟩⟩
        · exact ⟨count, Or.inr ⟨Nat.le_of_eq (taken.trans more), past⟩⟩
      · exact ⟨earlier, Or.inr ⟨Nat.le_succ_of_le few, past⟩⟩

/-- Without errors in the one run there are none in the other. -/
theorem errorFree_iff (same : m.Condenses other) (count : Nat)
    : m.ErrorFree count ↔ other.ErrorFree (m.instructionsTaken count) := by
  -- Only steps that take an instruction can fail, and these are steps of both runs.
  have failure (outcome : Outcome)
      : (outcome.placed m.program.rank).isFailure = outcome.isFailure := by
    cases outcome <;> rfl
  constructor
  · intro clean index earlier
    obtain ⟨found, below, rfl, takes⟩ := takesInstruction_of_lt earlier
    rw [same.outcome takes, failure]
    exact clean found below
  · intro clean index below
    by_contra fails
    have takes := (same.after index).takes_of_failure (Bool.not_eq_false _ ▸ fails)
    have earlier : m.instructionsTaken index < m.instructionsTaken count :=
      Nat.lt_of_lt_of_le (Nat.count_lt_count_succ_iff.mpr takes) (Nat.count_monotone _ below)
    have otherFine := clean _ earlier
    rw [same.outcome takes, failure] at otherFine
    exact fails otherFine

end Condenses

-----------------------------------------------------------------------------------------
-- Ends of runs
-----------------------------------------------------------------------------------------

/-- The registers of one machine at exchanged positions are those of another one, and both have the
same tape and streams.
-/
structure SameButPlaces (place : Nat → Nat) (m other : Machine) : Prop where
  pc : ∃ position : Nat, m.pc = position ∧ other.pc = place position
  loops : other.loops = m.loops.map place
  skip : other.skip = m.skip
  steps : other.steps = m.steps
  address : other.address = m.address
  positive : other.tape.positive = m.tape.positive
  negative : other.tape.negative = m.tape.negative
  input : other.input = m.input
  output : other.output = m.output

/-- What the run of a program has in common with that of the stripped program. Positions are
exchanged for the number of instructions before them, and numbers of steps for the number of
instructions taken until then.
-/
structure SameWithoutComments (m other : Machine) : Prop where
  states
    : ∀ count,
        SameButPlaces m.program.rank (m.after count) (other.after (m.instructionsTaken count))
  /-- A step that takes an instruction has the same outcome in both runs. -/
  outcomes
    : ∀ count,
        (m.after count).takesInstruction = true
        → other.outcome (m.instructionsTaken count) = (m.outcome count).placed m.program.rank
  /-- Until the stripped program ends, each of its steps is one of the program, too. -/
  covered
    : ∀ index,
        (other.after index).done = false
        → ∃ count,
            m.instructionsTaken count = index ∧ (m.after count).takesInstruction = true
  finishes : ∀ count, m.FinishesAfter count → other.FinishesAfter (m.instructionsTaken count)
  finished
    : ∀ index,
        other.FinishesAfter index
        → ∃ count,
            m.FinishesAfter count ∧ other.after index = other.after (m.instructionsTaken count)
  fails
    : ∀ count error,
        m.FailsAfter count error
        → other.FailsAfter (m.instructionsTaken count) (error.placed m.program.rank)
  failed
    : ∀ index otherError,
        other.FailsAfter index otherError
        → ∃ count error,
            m.FailsAfter count error
            ∧ m.instructionsTaken count = index
            ∧ otherError = error.placed m.program.rank

namespace Condenses

variable {m other : Machine}

theorem sameButPlaces (same : m.Condenses other)
    : SameButPlaces m.program.rank m other where
  pc := same.related.pc
  loops := same.related.loops
  skip := same.related.skip
  steps := same.related.steps
  address := congrArg Store.address same.related.store
  positive := congrArg (·.tape.positive) same.related.store
  negative := congrArg (·.tape.negative) same.related.store
  input := congrArg Store.input same.related.store
  output := congrArg Store.output same.related.store

/-- Machines that correspond at their start have corresponding runs. -/
theorem sameWithoutComments (same : m.Condenses other) : m.SameWithoutComments other where
  states := by
    intro count
    have states := (same.after count).sameButPlaces
    rwa [(m.sameSettings_after count).program] at states
  outcomes := fun _ => same.outcome
  covered := by
    intro index inside
    obtain ⟨count, taken | ⟨few, past⟩⟩ := same.covers index
    · exact ⟨count, taken⟩
    · have otherPast := (same.after count).done past
      rw [← after_of_done otherPast few, inside] at otherPast
      cases otherPast
  finishes := by
    rintro count ⟨clean, ends⟩
    refine ⟨(same.errorFree_iff count).mp clean, ?_⟩
    exact (step_done_iff _).mpr ((same.after count).done ((step_done_iff _).mp ends))
  finished := by
    rintro index ⟨clean, ends⟩
    have otherPast := (step_done_iff _).mp ends
    obtain ⟨count, ⟨rfl, takes⟩ | ⟨few, past⟩⟩ := same.covers index
    · rw [(same.after count).inside takes] at otherPast
      cases otherPast
    · refine ⟨count, ⟨(same.errorFree_iff count).mpr (clean.of_le few),
        (step_done_iff _).mpr past⟩, ?_⟩
      exact after_of_done ((same.after count).done past) few
  fails := by
    rintro count error ⟨clean, fails⟩
    refine ⟨(same.errorFree_iff count).mp clean, ?_⟩
    have takes := (same.after count).takes_of_failure (congrArg Outcome.isFailure fails)
    rw [same.outcome takes, fails]
    rfl
  failed := by
    rintro index otherError ⟨clean, fails⟩
    -- A run that ended does not fail any more, so the step that fails takes an instruction.
    obtain ⟨count, ⟨rfl, takes⟩ | ⟨few, past⟩⟩ := same.covers index
    · have outcome := same.outcome takes
      rw [fails] at outcome
      cases direct : m.outcome count with
      | failed error =>
          rw [direct] at outcome
          exact ⟨count, error, ⟨(same.errorFree_iff count).mpr clean, direct⟩, rfl,
            Outcome.failed.inj outcome⟩
      | done | next | interrupted | outOfRange => rw [direct] at outcome; cases outcome
    · have otherPast := (same.after count).done past
      rw [← after_of_done otherPast few, ← step_done_iff] at otherPast
      rw [Machine.outcome, otherPast] at fails
      cases fails

end Condenses

end Machine

namespace Setup

/-- A setup with the comments of its program removed. -/
def stripped (setup : Setup) : Setup :=
  { setup with
    program := setup.program.stripped
    size_lt := Nat.lt_of_le_of_lt setup.program.size_stripped_le setup.size_lt
    empty_of_absent := by
      intro absent
      change setup.program.code.filter Instruction.spelled = #[]
      rw [setup.empty_of_absent absent, Array.filter_empty] }

/-- Comments are irrelevant. Whatever the program, the input and the settings: while no break
interrupts the run, it does what the run of the stripped program does. They take the same
instructions with the same outcomes, and end together in the same state, be it at the end of the
program or in the same error.
-/
theorem comments_irrelevant (setup : Setup) (silent : setup.breakpoints = false)
    (choice : Debugging)
    : setup.machine.SameWithoutComments (setup.stripped.debugged choice).machine := by
  apply Machine.Condenses.sameWithoutComments
  refine ⟨rfl, silent, ?_⟩
  exact {
    pc := ⟨0, rfl, congrArg Int.ofNat setup.program.rank_zero.symm⟩
    loops := rfl
    skip := rfl
    steps := rfl
    maxDepth := rfl
    endOfInput := rfl
    store := rfl
  }

/-- A program with comments before, in and behind its loops. The first loop is run twice, the second
one is skipped, and a loop end is left over.
-/
def commented : Setup :=
  { program :=
      { code :=
          #[0x61, 0x2b, 0x2b, 0x62, 0x5b, 0x63, 0x2d, 0x5d, 0x5b, 0x64, 0x5d, 0x65, 0x5d] }
    size_lt := by decide
    empty_of_absent := by decide }

theorem comments_irrelevant_commented
    : commented.breakpoints = false
      ∧ commented.machine.FailsAfter 16 ⟨12, 0, .loopEnd, .unmatchedLoopEnd⟩
      ∧ commented.machine.instructionsTaken 16 = 10
      ∧ (commented.stripped.debugged {}).machine.FailsAfter 10
          ⟨7, 0, .loopEnd, .unmatchedLoopEnd⟩ := by
  have silent : commented.breakpoints = false := rfl
  have fails : commented.machine.FailsAfter 16 ⟨12, 0, .loopEnd, .unmatchedLoopEnd⟩ := by
    decide
  exact ⟨silent, fails, by decide, (comments_irrelevant commented silent {}).fails _ _ fails⟩

end Setup

end TapeMachine
