import TapeMachine.Machine.Run
import TapeMachine.Machine.View
import TapeMachine.Proofs.Machine.Tally

/-! Debugging does not influence a program. Tracing, the journal and watching the tape grow only
look at a machine, and so does whoever answers a break by looking at what the machine shows. What
is left is one more step counted for each break mark that is met while breakpoints are on.
-/

namespace TapeMachine

/-- An outcome without its interrupt: a run that is interrupted may go on. -/
def Outcome.quiet : Outcome → Outcome
  | interrupted _ => next
  | outcome => outcome

namespace Machine

/-- The same machine with other choices for debugging, another number of steps and another
journal.
-/
def debugged (m : Machine) (choice : Debugging) (steps : Int64) (journal : Array Event)
    : Machine :=
  { m with
    trace := choice.trace
    breakpoints := choice.breakpoints
    keepsJournal := choice.keepsJournal
    watchesGrowth := choice.watchesGrowth
    steps
    journal }

-----------------------------------------------------------------------------------------
-- One step with other choices
-----------------------------------------------------------------------------------------

/-- A byte that stands for no instruction is passed, whether it interrupts the run or not. -/
theorem Fetches.step_of_passed {m : Machine} {position : Nat} {byte : UInt8}
    (fetched : m.Fetches position byte) (normal : ¬0 < m.skip)
    (comment : Instruction.ofByte? byte = none)
    : ∃ outcome steps journal,
        m.step = (outcome, { m with pc := m.pc + 1, steps, journal })
        ∧ outcome.quiet = .next := by
  by_cases marked : byte = breakMark ∧ m.breakpoints = true
  · obtain ⟨rfl, breaks⟩ := marked
    obtain ⟨journal, stepped⟩ := fetched.step_of_break normal breaks
    exact ⟨_, _, journal, stepped, rfl⟩
  · exact ⟨_, m.steps, m.journal, fetched.step_of_comment normal comment marked, rfl⟩

/-- With other choices for debugging, a step leads to the same machine but for these choices, the
number of steps and the journal, and its outcome differs in an interrupt at most; by the cases of
a step.
-/
theorem step_debugged (m : Machine) (choice : Debugging) (steps : Int64)
    (journal : Array Event)
    : ∃ outcome count later,
        (m.debugged choice steps journal).step
          = (outcome, m.step.2.debugged choice count later)
        ∧ outcome.quiet = m.step.1.quiet := by
  have fetches {position : Nat} {byte : UInt8} (fetched : m.Fetches position byte)
      : (m.debugged choice steps journal).Fetches position byte :=
    ⟨fetched.pc, fetched.byte⟩
  have dispatches {position : Nat} {instruction : Instruction}
      (dispatched : m.Dispatches position instruction)
      : (m.debugged choice steps journal).Dispatches position instruction :=
    ⟨fetches dispatched.fetched, dispatched.normal⟩
  rcases stepped : m.step with ⟨outcome, next⟩
  cases transition_of_step stepped with
  | ended past => exact ⟨_, steps, journal, step_of_done past, rfl⟩
  | misplaced before => exact ⟨_, steps, journal, step_of_misplaced before, rfl⟩
  | scanned fetched skipping =>
      refine ⟨_, steps, journal, ?_, rfl⟩
      rw [(fetches fetched).step_of_skipping skipping]
      unfold countBracket
      split <;> rfl
  | passed fetched normal comment =>
      exact (fetches fetched).step_of_passed normal comment
  | interrupted _ fetched normal =>
      exact (fetches fetched).step_of_passed normal (by decide)
  | commanded _ dispatched =>
      obtain ⟨later, same⟩ := (dispatches dispatched).step_of_command
      exact ⟨_, _, later, same, rfl⟩
  | refused _ dispatched bracket refused =>
      obtain ⟨later, same⟩ := (dispatches dispatched).step_of_refused bracket refused
      exact ⟨_, _, later, same, rfl⟩
  | bypassed _ dispatched admitted zero =>
      obtain ⟨later, same⟩ := (dispatches dispatched).step_of_bypass admitted zero
      exact ⟨_, _, later, same, rfl⟩
  | overflowed _ dispatched admitted nonzero deep =>
      obtain ⟨later, same⟩ := (dispatches dispatched).step_of_overflow admitted nonzero deep
      exact ⟨_, _, later, same, rfl⟩
  | entered _ dispatched admitted nonzero shallow =>
      obtain ⟨later, same⟩ := (dispatches dispatched).step_of_entry admitted nonzero shallow
      exact ⟨_, _, later, same, rfl⟩
  | unmatched _ dispatched admitted empty =>
      obtain ⟨later, same⟩ := (dispatches dispatched).step_of_unmatched admitted empty
      exact ⟨_, _, later, same, rfl⟩
  | left _ dispatched admitted zero inside =>
      obtain ⟨later, same⟩ := (dispatches dispatched).step_of_leave admitted zero inside
      exact ⟨_, _, later, same, rfl⟩
  | repeated _ dispatched admitted nonzero inside =>
      obtain ⟨later, same⟩ := (dispatches dispatched).step_of_jump admitted nonzero inside
      exact ⟨_, _, later, same, rfl⟩

/-- A run leads to the same machine with other choices for debugging, but for these choices, the
number of steps and the journal.
-/
theorem after_debugged (m : Machine) (choice : Debugging) (steps : Int64)
    (journal : Array Event) (count : Nat)
    : ∃ total later,
        (m.debugged choice steps journal).after count
          = (m.after count).debugged choice total later := by
  induction count with
  | zero => exact ⟨steps, journal, rfl⟩
  | succ count ih =>
      obtain ⟨total, later, same⟩ := ih
      obtain ⟨_, next, last, stepped, _⟩ :=
        (m.after count).step_debugged choice total later
      rw [← same] at stepped
      exact ⟨next, last, congrArg Prod.snd stepped⟩

/-- The steps of a run have the same outcomes with other choices for debugging, but for
interrupts.
-/
theorem outcome_debugged (m : Machine) (choice : Debugging) (steps : Int64)
    (journal : Array Event) (count : Nat)
    : ((m.debugged choice steps journal).outcome count).quiet = (m.outcome count).quiet := by
  obtain ⟨total, later, same⟩ := m.after_debugged choice steps journal count
  obtain ⟨outcome, next, last, stepped, quiet⟩ :=
    (m.after count).step_debugged choice total later
  simp only [Machine.outcome, same, stepped, quiet]

/-- The steps of a run act on the same bytes with other choices for debugging. -/
theorem actedOn?_debugged (m : Machine) (choice : Debugging) (steps : Int64)
    (journal : Array Event) (count : Nat)
    : ((m.debugged choice steps journal).after count).actedOn?
      = (m.after count).actedOn? := by
  obtain ⟨total, later, same⟩ := m.after_debugged choice steps journal count
  rw [same]
  rfl

/-- Steps are counted alike by properties that hold of the same steps. -/
theorem count_eq_of_iff {p q : Nat → Prop} [DecidablePred p] [DecidablePred q]
    (same : ∀ index, p index ↔ q index) (count : Nat)
    : Nat.count p count = Nat.count q count :=
  Nat.le_antisymm (Nat.count_mono_left fun index _ => (same index).mp)
    (Nat.count_mono_left fun index _ => (same index).mpr)

/-- A run meets the same break marks, whatever was chosen for debugging. -/
theorem marksMet_debugged (m : Machine) (choice : Debugging) (steps : Int64)
    (journal : Array Event) (count : Nat)
    : (m.debugged choice steps journal).marksMet count = m.marksMet count := by
  refine count_eq_of_iff (fun index => ?_) count
  rw [MeetsMark, MeetsMark, actedOn?_debugged]

/-- A run meets the same instructions, whatever was chosen for debugging. -/
theorem instructionsMet_debugged (m : Machine) (choice : Debugging) (steps : Int64)
    (journal : Array Event) (count : Nat)
    : (m.debugged choice steps journal).instructionsMet count = m.instructionsMet count := by
  refine count_eq_of_iff (fun index => ?_) count
  rw [MeetsInstruction, MeetsInstruction, actedOn?_debugged]

/-- A step is interrupted by just the break marks that it meets while breakpoints are on. -/
theorem interrupted_iff (m : Machine) (position : Nat)
    : m.step.1 = .interrupted position
      ↔ m.breakpoints = true ∧ m.Fetches position breakMark ∧ ¬0 < m.skip := by
  constructor
  · intro interrupts
    rcases stepped : m.step with ⟨outcome, next⟩
    rw [stepped] at interrupts
    cases transition_of_step stepped with
    | interrupted _ fetched normal breaks =>
        obtain rfl := Outcome.interrupted.inj interrupts
        exact ⟨breaks, fetched, normal⟩
    | commanded =>
        obtain ⟨_, _, fails⟩ := failed_of_ending interrupts nofun
        cases fails
    | ended | misplaced | scanned | passed | refused | bypassed | overflowed | entered
    | unmatched | left | repeated => cases interrupts
  · rintro ⟨breaks, fetched, normal⟩
    obtain ⟨journal, stepped⟩ := fetched.step_of_break normal breaks
    rw [stepped]

-----------------------------------------------------------------------------------------
-- Answers to breaks that only look
-----------------------------------------------------------------------------------------

variable {σ τ : Type}

/-- One who answers breaks by looking at what the machine shows and at the bytes on its tape, and
keeps what was found out in a state apart from the machine.
-/
def Attendant.looking (look : Nat → σ → MachineView → (Address → UInt8) → σ)
    : Attendant σ where
  onBreak := fun position state m => (look position state m.view m.tape.peek, m)

/-- While breaks are only looked at, an execution goes on as the outcome of each step says without
its interrupt.
-/
theorem execFrom_looking (look : Nat → σ → MachineView → (Address → UInt8) → σ)
    (index fuel : Nat) (state : σ) (m : Machine)
    : ∃ later,
        execFrom (.looking look) index (fuel + 1) state m
          = match m.step.1.quiet with
            | .done => (.finished, later, m.step.2)
            | .failed error => (.failed error, later, m.step.2.record (.runFailed error))
            | .outOfRange pc => (.outOfRange pc, later, m.step.2)
            | .next | .interrupted _ =>
              execFrom (.looking look) (index + 1) fuel later m.step.2 := by
  simp only [execFrom, Attendant.looking, Bool.and_false, Bool.false_eq_true, if_false]
  rcases m.step with ⟨outcome, next⟩
  cases outcome with
  | done | next | interrupted | failed | outOfRange => exact ⟨_, rfl⟩

/-- Two executions end in the same way, after the same number of steps of the machines they began
with. What they recorded at their end is in the journals.
-/
structure EndsAlike (m other : Machine) (ended : RunEnd × σ × Machine)
    (otherEnded : RunEnd × τ × Machine) : Prop where
  ending : otherEnded.1 = ended.1
  taken
    : ∃ taken journal otherJournal,
        ended.2.2 = { m.after taken with journal }
        ∧ otherEnded.2.2 = { other.after taken with journal := otherJournal }

/-- Executions that end alike after a step end alike before it. -/
theorem EndsAlike.of_step {m other : Machine} {ended : RunEnd × σ × Machine}
    {otherEnded : RunEnd × τ × Machine}
    (alike : m.step.2.EndsAlike other.step.2 ended otherEnded)
    : m.EndsAlike other ended otherEnded := by
  obtain ⟨ending, taken, journal, otherJournal, last, otherLast⟩ := alike
  refine ⟨ending, 1 + taken, journal, otherJournal, ?_, ?_⟩
  · rw [last, after_add]
    rfl
  · rw [otherLast, after_add]
    rfl

/-- With other choices for debugging and others who look at the breaks, an execution ends in the
same way after as many steps; by induction on the steps that are allowed.
-/
theorem execFrom_debugged (look : Nat → σ → MachineView → (Address → UInt8) → σ)
    (peer : Nat → τ → MachineView → (Address → UInt8) → τ) (choice : Debugging) (fuel : Nat)
    : ∀ (index : Nat) (state : σ) (peerState : τ) (m : Machine) (steps : Int64)
        (journal : Array Event),
        m.EndsAlike (m.debugged choice steps journal)
          (execFrom (.looking look) index fuel state m)
          (execFrom (.looking peer) index fuel peerState
            (m.debugged choice steps journal)) := by
  induction fuel with
  | zero => exact fun _ _ _ m _ journal => ⟨rfl, 0, m.journal, journal, rfl, rfl⟩
  | succ fuel ih =>
      intro index state peerState m steps journal
      obtain ⟨seen, direct⟩ := execFrom_looking look index fuel state m
      obtain ⟨peerSeen, other⟩ :=
        execFrom_looking peer index fuel peerState (m.debugged choice steps journal)
      obtain ⟨outcome, count, later, stepped, quiet⟩ := m.step_debugged choice steps journal
      apply EndsAlike.of_step
      rw [stepped] at other ⊢
      rw [direct, other]
      simp only [quiet]
      cases m.step.1.quiet with
      | done | outOfRange => exact ⟨rfl, 0, _, _, rfl, rfl⟩
      | next | interrupted => exact ih _ _ _ _ _ _
      | failed error =>
          obtain ⟨first, recorded⟩ := m.step.2.record_eq (.runFailed error)
          obtain ⟨second, otherRecorded⟩ :=
            (m.step.2.debugged choice count later).record_eq (.runFailed error)
          exact ⟨rfl, 0, first, second, recorded, otherRecorded⟩

/-- Recording how far two executions came leaves them alike. -/
theorem EndsAlike.recordEnd {m other : Machine} {ended : RunEnd × σ × Machine}
    {otherEnded : RunEnd × τ × Machine} (alike : m.EndsAlike other ended otherEnded)
    : m.EndsAlike other (ended.1, ended.2.1, ended.2.2.recordEnd)
        (otherEnded.1, otherEnded.2.1, otherEnded.2.2.recordEnd) := by
  obtain ⟨ending, taken, journal, otherJournal, last, otherLast⟩ := alike
  obtain ⟨first, recorded⟩ := ended.2.2.record_eq _
  obtain ⟨second, otherRecorded⟩ := otherEnded.2.2.record_eq _
  refine ⟨ending, taken, first, second, recorded.trans ?_, otherRecorded.trans ?_⟩
  · rw [last]
  · rw [otherLast]

-----------------------------------------------------------------------------------------
-- Whole runs
-----------------------------------------------------------------------------------------

/-- What two runs that differ in the choices for debugging have in common after a number of steps,
and in what they differ.
-/
structure Undisturbed (m other : Machine) (count : Nat) : Prop where
  course : (m.after count).SameCourse (other.after count)
  /-- The next steps have the same outcome, be it an error, but for interrupts. -/
  outcome : (other.outcome count).quiet = (m.outcome count).quiet
  marks : other.marksMet count = m.marksMet count
  sameSteps
    : other.breakpoints = m.breakpoints → (other.after count).steps = (m.after count).steps
  /-- With breakpoints on, as many steps more are counted as break marks were met. The number of
  steps is a word, which is as good as a number for runs of fewer than `2 ^ 63` steps.
  -/
  moreSteps
    : m.breakpoints = false
      → other.breakpoints = true
      → (other.after count).steps = (m.after count).steps + Int64.ofNat (m.marksMet count)
        ∧ (count < 0x8000000000000000
            → (other.after count).steps.toInt
              = (m.after count).steps.toInt + m.marksMet count)

/-- What a single run shows to those who debug it. -/
structure Accounted (m : Machine) (count : Nat) : Prop where
  /-- The interrupts are the break marks that are met while breakpoints are on. -/
  interrupts
    : ∀ position,
        m.outcome count = .interrupted position
        ↔ m.breakpoints = true
          ∧ (m.after count).Fetches position breakMark
          ∧ ¬0 < (m.after count).skip
  /-- Records of executions are as many as steps were counted since the start. -/
  records
    : m.trace = true
      → m.keepsJournal = true
      → (m.after count).steps = Int64.ofNat (m.after count).executions
        ∧ (count < 0x8000000000000000
            → (m.after count).steps.toInt = (m.after count).executions)

end Machine

namespace Setup

/-- A setup with other choices for debugging. -/
def debugged (setup : Setup) (choice : Debugging) : Setup :=
  { setup with
    trace := choice.trace
    breakpoints := choice.breakpoints
    keepsJournal := choice.keepsJournal
    watchesGrowth := choice.watchesGrowth }

/-- From the start on, the number of steps is that of the steps that are counted. -/
theorem steps_after (setup : Setup) (count : Nat)
    : (setup.machine.after count).steps = Int64.ofNat (setup.machine.counted count) := by
  rw [Machine.steps_after]
  exact Int64.zero_add _

/-- The number of steps does not wrap before as many were taken as there are words from zero on. -/
theorem toInt_steps_after (setup : Setup) {count : Nat} (short : count < 0x8000000000000000)
    : (setup.machine.after count).steps.toInt = setup.machine.counted count := by
  have few : setup.machine.counted count ≤ count := Nat.count_le _
  rw [setup.steps_after, Int64.toInt_ofNat_of_lt (by omega)]

/-- Two runs of a setup that differ in the choices for debugging have the same course; by the
choices, the one counts more steps than the other.
-/
theorem undisturbed_debugged (setup : Setup) (choice other : Debugging) (count : Nat)
    : (setup.debugged choice).machine.Undisturbed (setup.debugged other).machine count := by
  let m := (setup.debugged choice).machine
  have twin : (setup.debugged other).machine = m.debugged other 0 #[] := rfl
  obtain ⟨total, later, same⟩ := m.after_debugged other 0 #[] count
  have marks := m.marksMet_debugged other 0 #[] count
  have instructions := m.instructionsMet_debugged other 0 #[] count
  have counted := m.counted_eq count
  have otherCounted := (m.debugged other 0 #[]).counted_eq count
  rw [marks, instructions] at otherCounted
  refine ⟨?course, m.outcome_debugged other 0 #[] count, marks, ?sameSteps, ?moreSteps⟩
  case course =>
    rw [twin, same]
    exact ⟨rfl, rfl, rfl, rfl, rfl, rfl, rfl, rfl⟩
  case sameSteps =>
    intro alike
    rw [steps_after, steps_after, twin, otherCounted, ← twin, alike, ← counted]
  case moreSteps =>
    intro off on
    have more : (setup.debugged other).machine.counted count
        = m.counted count + m.marksMet count := by
      rw [twin, otherCounted, counted, ← twin, if_pos on, off]
      rfl
    refine ⟨?_, fun short => ?_⟩
    · rw [steps_after, steps_after, more, Int64.ofNat_add]
    · rw [toInt_steps_after _ short, toInt_steps_after _ short, more]
      push_cast
      rfl

/-- A run of a setup is interrupted where it meets break marks, and records the executions that it
counts.
-/
theorem accounted_after (setup : Setup) (count : Nat) : setup.machine.Accounted count := by
  refine ⟨fun position => ?_, fun traces keeps => ?_⟩
  · rw [← (setup.machine.sameSettings_after count).breakpoints]
    exact (setup.machine.after count).interrupted_iff position
  · have recorded : (setup.machine.after count).executions = setup.machine.counted count :=
      (Machine.executions_after traces keeps count).trans (Nat.zero_add _)
    rw [recorded]
    exact ⟨setup.steps_after count, setup.toInt_steps_after⟩

/-- Debugging does not influence a program. Whatever is traced, recorded, watched or looked at in a
break, two runs of a setup have the same course and the same errors, and executions of it end alike.
They count the same steps but for the break marks, and each shows its debuggers just what it does.
-/
theorem undisturbed_by_debugging {σ τ : Type} (setup : Setup) (choice other : Debugging)
    (look : Nat → σ → MachineView → (Address → UInt8) → σ) (state : σ)
    (peer : Nat → τ → MachineView → (Address → UInt8) → τ) (peerState : τ) (count : Nat)
    : let m := (setup.debugged choice).machine
      let twin := (setup.debugged other).machine
      m.Undisturbed twin count
      ∧ m.Accounted count
      ∧ m.EndsAlike twin
          (m.exec (.looking look) count state)
          (twin.exec (.looking peer) count peerState) := by
  intro m twin
  refine ⟨setup.undisturbed_debugged choice other count,
    (setup.debugged choice).accounted_after count, ?_⟩
  exact (Machine.execFrom_debugged look peer other count 0 state peerState m 0 #[]).recordEnd

/-- A program with a break mark in a loop and one behind it. -/
def marked : Setup :=
  { program := { code := #[0x2b, 0x5b, 0x2d, 0x23, 0x5d, 0x23] }
    size_lt := by decide
    empty_of_absent := by decide }

/-- The choices of one who wants to see all there is. -/
def everything : Debugging :=
  { trace := true, breakpoints := true, keepsJournal := true, watchesGrowth := true }

theorem undisturbed_by_debugging_marked
    : (marked.debugged {}).machine.Undisturbed (marked.debugged everything).machine 6
      ∧ ((marked.debugged {}).machine.after 6).steps = 4
      ∧ ((marked.debugged everything).machine.after 6).steps = 6
      ∧ (marked.debugged everything).machine.outcome 3 = .interrupted 3 :=
  ⟨(undisturbed_by_debugging marked {} everything (fun _ seen _ _ => seen + 1) 0
      (fun _ _ view _ => view.pc) 0 6).1,
    by decide, by decide, by decide⟩

end Setup

end TapeMachine
