import TapeMachine.Proofs.Machine.Work

/-! Runs as sequences of steps, and the machines that runs begin with.
Steps are numbered from zero, and a machine can be asked for its state after any number of them.
What a step preserves unless it fails therefore holds after every number of steps before the
first failure.
-/

namespace TapeMachine

/-- The step ended in a run error. -/
def Outcome.isFailure : Outcome → Bool
  | .failed _ => true
  | _ => false

/-- What can be chosen for those who debug a program. -/
structure Debugging where
  trace : Bool := false
  breakpoints : Bool := false
  keepsJournal : Bool := false
  watchesGrowth : Bool := false

namespace Machine

/-- The machine after a number of steps. -/
def after (m : Machine) : Nat → Machine
  | 0 => m
  | count + 1 => (m.after count).step.2

/-- What the step with a number leads to. -/
def outcome (m : Machine) (index : Nat) : Outcome :=
  (m.after index).step.1

/-- None of the first steps fails. -/
def ErrorFree (m : Machine) (count : Nat) : Prop :=
  ∀ index < count, (m.outcome index).isFailure = false

instance (m : Machine) (count : Nat) : Decidable (m.ErrorFree count) :=
  inferInstanceAs (Decidable (∀ index < count, _))

/-- The run ends at the end of the program, without an error, when a number of steps were taken. -/
def FinishesAfter (m : Machine) (count : Nat) : Prop :=
  m.ErrorFree count ∧ m.outcome count = .done

/-- The run fails with an error when a number of steps were taken, and not before. -/
def FailsAfter (m : Machine) (count : Nat) (error : RunError) : Prop :=
  m.ErrorFree count ∧ m.outcome count = .failed error

instance (m : Machine) (count : Nat) : Decidable (m.FinishesAfter count) :=
  inferInstanceAs (Decidable (_ ∧ _))

instance (m : Machine) (count : Nat) (error : RunError) : Decidable (m.FailsAfter count error) :=
  inferInstanceAs (Decidable (_ ∧ _))

/-- Steps can be taken in two portions. -/
theorem after_add (m : Machine) (first second : Nat)
    : m.after (first + second) = (m.after first).after second := by
  induction second with
  | zero => rfl
  | succ second ih =>
      rw [← Nat.add_assoc]
      simp only [after, ih]

theorem outcome_add (m : Machine) (first second : Nat)
    : m.outcome (first + second) = (m.after first).outcome second := by
  simp only [outcome, after_add]

/-- A run goes on from where its first step led. -/
theorem after_succ_eq (m : Machine) (count : Nat) : m.after (count + 1) = m.step.2.after count := by
  rw [Nat.add_comm, after_add]
  rfl

theorem outcome_succ_eq (m : Machine) (index : Nat)
    : m.outcome (index + 1) = m.step.2.outcome index := by
  simp only [outcome, after_succ_eq]

/-- A step says that the program ended just if it did. -/
theorem step_done_iff (m : Machine) : m.step.1 = .done ↔ m.done = true := by
  constructor
  · intro ends
    rcases stepped : m.step with ⟨outcome, next⟩
    rw [stepped] at ends
    cases transition_of_step stepped with
    | ended past => exact past
    | commanded =>
        obtain ⟨_, _, fails⟩ := failed_of_ending ends nofun
        cases fails
    | misplaced | scanned | passed | interrupted | refused | bypassed | overflowed | entered
    | unmatched | left | repeated => cases ends
  · intro past
    rw [step_of_done past]

/-- A step finds no place in the program only before its start. -/
theorem before_of_outOfRange {m : Machine} {pc : Int} (misplaced : m.step.1 = .outOfRange pc)
    : m.pc < 0 := by
  rcases stepped : m.step with ⟨outcome, next⟩
  rw [stepped] at misplaced
  cases transition_of_step stepped with
  | misplaced before => exact before
  | commanded =>
      obtain ⟨_, _, fails⟩ := failed_of_ending misplaced nofun
      cases fails
  | ended | scanned | passed | interrupted | refused | bypassed | overflowed | entered
  | unmatched | left | repeated => cases misplaced

/-- A run stays where it ended. -/
theorem after_of_done {m : Machine} {count later : Nat} (past : (m.after count).done = true)
    (le : count ≤ later)
    : m.after later = m.after count := by
  induction le with
  | refl => rfl
  | step _ ih => rw [after, ih, step_of_done past]

theorem ErrorFree.of_le {m : Machine} {count fewer : Nat} (clean : m.ErrorFree count)
    (le : fewer ≤ count)
    : m.ErrorFree fewer :=
  fun index below => clean index (by omega)

/-- What holds at the start and survives every step that does not fail, holds before the first
failure; by induction on the number of steps.
-/
theorem ErrorFree.induct {m : Machine} {motive : Machine → Prop} (start : motive m)
    (step : ∀ m : Machine, motive m → m.step.1.isFailure = false → motive m.step.2)
    {count : Nat} (clean : m.ErrorFree count)
    : motive (m.after count) := by
  induction count with
  | zero => exact start
  | succ count ih =>
      exact step _ (ih (clean.of_le (by omega))) (clean count (by omega))

/-- What two machines have in common when one is a later state of the other: the program, the
limits and the choices that were made before the run.
-/
structure SameSettings (m next : Machine) : Prop where
  program : next.program = m.program
  limit : next.tape.limit = m.tape.limit
  maxDepth : next.maxDepth = m.maxDepth
  endOfInput : next.endOfInput = m.endOfInput
  breakpoints : next.breakpoints = m.breakpoints

theorem SameSettings.refl (m : Machine) : m.SameSettings m :=
  ⟨rfl, rfl, rfl, rfl, rfl⟩

/-- Common settings are passed on. -/
theorem SameSettings.trans {m next last : Machine} (first : m.SameSettings next)
    (second : next.SameSettings last)
    : m.SameSettings last :=
  ⟨second.program.trans first.program, second.limit.trans first.limit,
    second.maxDepth.trans first.maxDepth, second.endOfInput.trans first.endOfInput,
    second.breakpoints.trans first.breakpoints⟩

/-- No step changes the settings, by the cases of a step. -/
theorem sameSettings_step (m : Machine) : m.SameSettings m.step.2 := by
  have limit := m.tapeEffect_step.limit
  rcases stepped : m.step with ⟨outcome, next⟩
  rw [stepped] at limit
  cases transition_of_step stepped with
  | scanned =>
      unfold countBracket
      split <;> exact ⟨rfl, rfl, rfl, rfl, rfl⟩
  | ended | misplaced | passed | interrupted | commanded | refused | bypassed | overflowed
  | entered | unmatched | left | repeated => exact ⟨rfl, limit, rfl, rfl, rfl⟩

/-- No run changes the settings, whether steps fail or not. -/
theorem sameSettings_after (m : Machine) (count : Nat) : m.SameSettings (m.after count) := by
  induction count with
  | zero => exact SameSettings.refl m
  | succ count ih => exact ih.trans (sameSettings_step _)

/-- The choices that were made for those who debug a machine. -/
def debugging (m : Machine) : Debugging :=
  { trace := m.trace
    breakpoints := m.breakpoints
    keepsJournal := m.keepsJournal
    watchesGrowth := m.watchesGrowth }

/-- No step changes the choices for debugging. -/
theorem debugging_step (m : Machine) : m.step.2.debugging = m.debugging := by
  rcases stepped : m.step with ⟨outcome, next⟩
  cases transition_of_step stepped with
  | scanned =>
      unfold countBracket
      split <;> rfl
  | ended | misplaced | passed | interrupted | commanded | refused | bypassed | overflowed
  | entered | unmatched | left | repeated => rfl

/-- No run changes the choices for debugging. -/
theorem debugging_after (m : Machine) (count : Nat)
    : (m.after count).debugging = m.debugging := by
  induction count with
  | zero => rfl
  | succ count ih => exact (debugging_step _).trans ih

/-- Two machines went the same way so far: they stand at the same place with the same loops and
the same cells, and read and wrote the same.
-/
structure SameCourse (m other : Machine) : Prop where
  pc : other.pc = m.pc
  address : other.address = m.address
  loops : other.loops = m.loops
  skip : other.skip = m.skip
  positive : other.tape.positive = m.tape.positive
  negative : other.tape.negative = m.tape.negative
  input : other.input = m.input
  output : other.output = m.output

end Machine

-----------------------------------------------------------------------------------------
-- Where runs begin
-----------------------------------------------------------------------------------------

/-- What a machine is given before its first step. The bytes of a program are held in memory, so
their number is a word; a program that was never given has none.
-/
structure Setup where
  program : Program
  input : Input := {}
  output : Sink := {}
  maxDepth : Int := defaultMaxDepth
  maxCells : Int := 0
  endOfInput : EndOfInput := .unchanged
  trace : Bool := false
  breakpoints : Bool := false
  keepsJournal : Bool := false
  watchesGrowth : Bool := false
  size_lt : program.size < 0x8000000000000000
  empty_of_absent : program.given = false → program.code = #[]

/-- The machine before its first step: a new one with its settings made. -/
def Setup.machine (setup : Setup) : Machine :=
  { Machine.new setup.program with
    tape := { limit := setup.maxCells }
    input := setup.input
    output := setup.output
    maxDepth := setup.maxDepth
    endOfInput := setup.endOfInput
    trace := setup.trace
    breakpoints := setup.breakpoints
    keepsJournal := setup.keepsJournal
    watchesGrowth := setup.watchesGrowth }

/-- Both halves and the address stay below the limit throughout a run, whether steps fail or not. -/
theorem WithinLimit.after {m : Machine} (within : WithinLimit m.tape m.address) (count : Nat)
    : WithinLimit (m.after count).tape (m.after count).address := by
  induction count with
  | zero => exact within
  | succ count ih => exact ih.keep (Machine.tapeEffect_step _)

/-- The blank tape is below the limit, and so is every tape after it. -/
theorem Setup.withinLimit_after (setup : Setup) (count : Nat)
    : WithinLimit (setup.machine.after count).tape (setup.machine.after count).address := by
  have blank : WithinLimit setup.machine.tape setup.machine.address := by
    refine ⟨fun limited half => ?_, fun limited => limited⟩
    cases half <;> exact Int.le_of_lt limited
  exact blank.after count

/-- From the blank tape on, every cell that comes into being has an address. -/
theorem Setup.addressable_after (setup : Setup) (count : Nat)
    : Addressable (setup.machine.after count).tape := by
  induction count with
  | zero =>
      intro half
      cases half <;> exact Nat.zero_le _
  | succ count ih => exact ih.keep (Machine.tapeEffect_step _)

end TapeMachine
