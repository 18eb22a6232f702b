import TapeMachine.Proofs.Loops.Stack
import TapeMachine.Proofs.Machine.Agreement
import TapeMachine.Proofs.Machine.Debugging

/-! Runs and executions drive a machine alike. Both take steps until one of them ends the run, so
what they come to is said by the steps alone: by the first step that ends the run, and by the
interrupts before it. A run that is broken off goes on where it was left, and an execution is
given up between two steps only.
-/

namespace TapeMachine

/-- How a run ends with a step, if it does. -/
def Outcome.ending? : Outcome → Option RunEnd
  | done => some .finished
  | failed error => some (.failed error)
  | outOfRange pc => some (.outOfRange pc)
  | next | interrupted _ => none

namespace Machine

variable {σ : Type}

-----------------------------------------------------------------------------------------
-- Machines without their records
-----------------------------------------------------------------------------------------

/-- A machine without the records that it kept. -/
def unrecorded (m : Machine) : Machine :=
  { m with journal := #[] }

/-- What came of a run, but for the records of the machine. -/
def withoutRecords (result : RunEnd × σ × Machine) : RunEnd × σ × Machine :=
  (result.1, result.2.1, result.2.2.unrecorded)

/-- Recording an event changes nothing else. -/
theorem unrecorded_record (m : Machine) (event : Event)
    : (m.record event).unrecorded = m.unrecorded := by
  obtain ⟨journal, recorded⟩ := m.record_eq event
  rw [recorded]
  rfl

/-- A machine agrees with itself, whatever it recorded. -/
theorem alike_recorded (m : Machine) (journal : Array Event)
    : Alike m.output.bytes m.output.bytes m { m with journal } where
  program := rfl
  pc := rfl
  loops := rfl
  skip := rfl
  steps := rfl
  maxDepth := rfl
  endOfInput := rfl
  breakpoints := rfl
  store :=
    { tape := rfl
      address := rfl
      input := ⟨rfl, rfl⟩
      output := ⟨⟨fun _ => rfl, fun _ => rfl⟩, #[], by simp [store], by simp [store]⟩ }

/-- A step does not look at the records. -/
theorem step_recorded (m : Machine) (journal : Array Event)
    : ∃ later, { m with journal }.step = (m.step.1, { m.step.2 with journal := later }) := by
  -- What is known of other choices for debugging leaves the outcome open, as far as interrupts go,
  -- and the number of steps. Machines that agree have both in common.
  obtain ⟨outcome, after⟩ := (m.alike_recorded journal).step
  obtain ⟨_, count, later, stepped, _⟩ := m.step_debugged m.debugging m.steps journal
  have same : m.debugged m.debugging m.steps journal = { m with journal } := rfl
  rw [same] at stepped
  have counted : count = m.step.2.steps := by
    rw [← after.steps, stepped]
    rfl
  refine ⟨later, Prod.ext outcome ?_⟩
  rw [stepped, counted, ← m.debugging_step]
  rfl

/-- Machines that differ in their records do the same step. -/
theorem step_of_unrecorded_eq {m other : Machine} (same : other.unrecorded = m.unrecorded)
    : other.step.1 = m.step.1 ∧ other.step.2.unrecorded = m.step.2.unrecorded := by
  have restored : other = { m with journal := other.journal } :=
    congrArg (fun bare : Machine => { bare with journal := other.journal }) same
  obtain ⟨later, stepped⟩ := m.step_recorded other.journal
  rw [restored, stepped]
  exact ⟨rfl, rfl⟩

-----------------------------------------------------------------------------------------
-- What is seen of a run
-----------------------------------------------------------------------------------------

/-- What an observer knows after the next step: an interrupt is looked at. -/
def shown (m : Machine) (look : Nat → σ → Machine → σ) (state : σ) : σ :=
  match m.step with
  | (.interrupted position, next) => look position state next.unrecorded
  | _ => state

/-- What an observer knows after a number of steps. -/
def seen (m : Machine) (look : Nat → σ → Machine → σ) (state : σ) : Nat → σ
  | 0 => state
  | count + 1 => (m.after count).shown look (m.seen look state count)

/-- None of the first steps ends the run. -/
def GoesOn (m : Machine) (count : Nat) : Prop :=
  ∀ index < count, (m.outcome index).ending? = none

variable {look : Nat → σ → Machine → σ}

/-- What is seen goes on from what was seen so far. -/
theorem seen_add (m : Machine) (state : σ) (first second : Nat)
    : m.seen look state (first + second)
      = (m.after first).seen look (m.seen look state first) second := by
  induction second with
  | zero => rfl
  | succ second ih => rw [← Nat.add_assoc, seen, ih, after_add, seen]

/-- Machines that differ in their records show the same. -/
theorem shown_of_unrecorded_eq {m other : Machine} (same : other.unrecorded = m.unrecorded)
    (state : σ)
    : other.shown look state = m.shown look state := by
  obtain ⟨outcome, after⟩ := step_of_unrecorded_eq same
  unfold shown
  rcases here : m.step with ⟨first, next⟩
  rcases there : other.step with ⟨second, otherNext⟩
  rw [here, there] at outcome after
  obtain rfl : second = first := outcome
  cases second with
  | interrupted => exact congrArg _ after
  | done | next | failed | outOfRange => rfl

theorem GoesOn.of_le {m : Machine} {count fewer : Nat} (going : m.GoesOn count)
    (le : fewer ≤ count)
    : m.GoesOn fewer :=
  fun index below => going index (by omega)

/-- A run that goes on goes on for as long as it does from there. -/
theorem GoesOn.add {m : Machine} {first second : Nat} (going : m.GoesOn first)
    (rest : (m.after first).GoesOn second)
    : m.GoesOn (first + second) := by
  intro index below
  rcases Nat.lt_or_ge index first with early | late
  · exact going index early
  · obtain ⟨later, rfl⟩ := Nat.exists_eq_add_of_le late
    rw [outcome_add]
    exact rest later (by omega)

/-- A step that does not end the run is one for which it goes on. -/
theorem goesOn_one {m : Machine} (first : m.step.1.ending? = none) : m.GoesOn 1 := by
  intro index below
  obtain rfl : index = 0 := by omega
  exact first

/-- A run goes on for a number of steps unless one of them is the first to end it. -/
theorem goesOn_or_ends (m : Machine) (count : Nat)
    : m.GoesOn count
      ∨ ∃ index < count, ∃ ending,
          m.GoesOn index ∧ (m.outcome index).ending? = some ending := by
  induction count with
  | zero => exact .inl fun _ below => absurd below (Nat.not_lt_zero _)
  | succ count ih =>
      rcases ih with going | ⟨index, below, ends⟩
      · cases last : (m.outcome count).ending? with
        | none =>
            refine .inl fun index below => ?_
            rcases Nat.lt_succ_iff_lt_or_eq.mp below with earlier | rfl
            · exact going index earlier
            · exact last
        | some ending => exact .inr ⟨count, count.lt_succ_self, ending, going, last⟩
      · exact .inr ⟨index, by omega, ends⟩

/-- What a run comes to that takes a number of steps at most: it is still under way, or the first
step that ends a run was among them.
-/
inductive Course (look : Nat → σ → Machine → σ) (state : σ) (m : Machine)
    : Nat → RunEnd × σ × Machine → Prop
  | underway {count} (going : m.GoesOn count)
    : Course look state m count (.unfinished, m.seen look state count, m.after count)
  | ended {count index ending} (below : index < count) (going : m.GoesOn index)
    (ends : (m.outcome index).ending? = some ending)
    : Course look state m count (ending, m.seen look state index, m.after (index + 1))

-----------------------------------------------------------------------------------------
-- Runs
-----------------------------------------------------------------------------------------

/-- One who looks at a machine in its interrupts, and says there whether the run goes on. Neither
writes to the machine.
-/
def observer (look : Nat → σ → Machine → σ) (goesOn : Nat → σ → Machine → Bool)
    : Nat → σ → Machine → Bool × σ :=
  fun position state m =>
    (goesOn position state m.unrecorded, look position state m.unrecorded)

/-- A run that goes on after each interrupt. -/
def drain (look : Nat → σ → Machine → σ) : Nat → σ → Machine → RunEnd × σ × Machine :=
  run (observer look fun _ _ _ => true)

variable {goesOn : Nat → σ → Machine → Bool}

/-- A step that ends a run is the last one. -/
theorem run_of_ending {m : Machine} {ending : RunEnd} (ends : m.step.1.ending? = some ending)
    (steps : Nat) (state : σ)
    : run (observer look goesOn) (steps + 1) state m = (ending, state, m.step.2) := by
  rcases stepped : m.step with ⟨outcome, next⟩
  rw [stepped] at ends
  rw [run, stepped]
  cases outcome with
  | done | failed | outOfRange =>
      obtain rfl := Option.some.inj ends
      rfl
  | next | interrupted => cases ends

/-- After any other step a run goes on, or it is broken off in an interrupt. -/
theorem run_of_going {m : Machine} (going : m.step.1.ending? = none) (steps : Nat) (state : σ)
    : run (observer look goesOn) (steps + 1) state m
        = run (observer look goesOn) steps (m.shown look state) m.step.2
      ∨ run (observer look goesOn) (steps + 1) state m
        = (.stopped, m.shown look state, m.step.2) := by
  rcases stepped : m.step with ⟨outcome, next⟩
  rw [stepped] at going
  rw [run, shown, stepped]
  cases outcome with
  | next => exact .inl rfl
  | interrupted position =>
      cases answer : goesOn position state next.unrecorded with
      | true => exact .inl (by simp [observer, answer])
      | false => exact .inr (by simp [observer, answer])
  | done | failed | outOfRange => cases going

/-- A drained run goes on after any other step. -/
theorem drain_of_going {m : Machine} (going : m.step.1.ending? = none) (steps : Nat) (state : σ)
    : drain look (steps + 1) state m = drain look steps (m.shown look state) m.step.2 := by
  rcases stepped : m.step with ⟨outcome, next⟩
  rw [stepped] at going
  rw [drain, run, shown, stepped]
  cases outcome with
  | next | interrupted => rfl
  | done | failed | outOfRange => cases going

/-- A drained run that goes on for a number of steps goes on from there; by induction on their
number.
-/
theorem drain_add {m : Machine} {count : Nat} (going : m.GoesOn count) (more : Nat) (state : σ)
    : drain look (count + more) state m
      = drain look more (m.seen look state count) (m.after count) := by
  induction count generalizing more with
  | zero => rw [Nat.zero_add]; rfl
  | succ count ih =>
      rw [Nat.add_assoc, Nat.add_comm 1, ih (going.of_le count.le_succ),
        drain_of_going (going count count.lt_succ_self)]
      rfl

/-- A drained run takes its course: either it goes on all the time, or a first step ends it. -/
theorem course_drain (m : Machine) (steps : Nat) (state : σ)
    : m.Course look state steps (drain look steps state m) := by
  rcases m.goesOn_or_ends steps with going | ⟨index, below, ending, going, ends⟩
  · have taken : drain look (steps + 0) state m = _ := drain_add going 0 state
    rw [Nat.add_zero] at taken
    rw [taken]
    exact .underway going
  · obtain ⟨more, rfl⟩ : ∃ more, steps = index + (more + 1) := ⟨steps - index - 1, by omega⟩
    rw [drain_add going, drain, run_of_ending ends]
    exact .ended below going ends

/-- A run that is watched is drained, or it is broken off after a number of steps; by induction on
the steps that are allowed.
-/
theorem run_drained_or_stopped (goesOn : Nat → σ → Machine → Bool) (steps : Nat) (state : σ)
    (m : Machine)
    : run (observer look goesOn) steps state m = drain look steps state m
      ∨ ∃ used,
          0 < used
          ∧ used ≤ steps
          ∧ m.GoesOn used
          ∧ run (observer look goesOn) steps state m
            = (.stopped, m.seen look state used, m.after used) := by
  induction steps generalizing state m with
  | zero => exact .inl rfl
  | succ steps ih =>
      cases first : m.step.1.ending? with
      | some ending =>
          rw [drain, run_of_ending first, run_of_ending first]
          exact .inl rfl
      | none =>
          rw [drain_of_going first]
          rcases run_of_going first steps state with goes | stops
          · rw [goes]
            rcases ih (m.shown look state) m.step.2 with drained | ⟨used, _, le, going, stops⟩
            · exact .inl drained
            · refine .inr ⟨1 + used, by omega, by omega, (goesOn_one first).add going, ?_⟩
              rw [stops, seen_add, after_add]
              rfl
          · exact .inr ⟨1, by omega, by omega, goesOn_one first, stops⟩

/-- A drained run is not broken off. -/
theorem drain_ne_stopped (m : Machine) (steps : Nat) (state : σ)
    : (drain look steps state m).1 ≠ .stopped := by
  intro stops
  generalize drained : drain look steps state m = result at stops
  have course : m.Course look state steps (drain look steps state m) := m.course_drain steps state
  rw [drained] at course
  cases course with
  | underway => cases stops
  | @ended index ending _ _ ends =>
      obtain rfl : ending = .stopped := stops
      cases outcome : m.outcome index <;> rw [outcome] at ends <;> cases ends

/-- What a run comes to that is run again after some of the interrupts in which it is broken off. -/
inductive RunsOn (observe : Nat → σ → Machine → Bool × σ)
    : σ → Machine → RunEnd × σ × Machine → Prop
  | once {state m} (steps)
    : RunsOn observe state m (run observe steps state m)
  | again {state m paused stopped result} (steps)
    (broken : run observe steps state m = (.stopped, paused, stopped))
    (rest : RunsOn observe paused stopped result)
    : RunsOn observe state m result

/-- However often it was broken off and run again, a run comes to what a drained one comes to, or it
was just broken off after a number of steps; by induction on how often it was run.
-/
theorem RunsOn.drained_or_stopped {m : Machine} {state : σ} {result : RunEnd × σ × Machine}
    (runs : RunsOn (observer look goesOn) state m result)
    : (∃ steps, result = drain look steps state m)
      ∨ ∃ count,
          m.GoesOn count
          ∧ result = (.stopped, m.seen look state count, m.after count) := by
  induction runs with
  | @once state m steps =>
      rcases run_drained_or_stopped goesOn steps state m with
        drained | ⟨used, _, _, going, stops⟩
      · exact .inl ⟨steps, drained⟩
      · exact .inr ⟨used, going, stops⟩
  | @again state m paused stopped _ steps broken _ ih =>
      rcases run_drained_or_stopped goesOn steps state m with
        drained | ⟨used, _, _, going, stops⟩
      · exact absurd (congrArg Prod.fst (drained.symm.trans broken)) (m.drain_ne_stopped _ _)
      obtain ⟨rfl, rfl⟩ : m.seen look state used = paused ∧ m.after used = stopped := by
        simpa using stops.symm.trans broken
      rcases ih with ⟨more, same⟩ | ⟨count, further, same⟩
      · exact .inl ⟨used + more, by rw [same, drain_add going]⟩
      · exact .inr ⟨used + count, going.add further, by rw [same, seen_add, after_add]⟩

/-- What a drained run comes to is reached by breaking off wherever the observer says and running
again; by induction on the steps that are still allowed, of which each run uses up one at least.
-/
theorem runsOn_drain (steps : Nat) (state : σ) (m : Machine)
    : RunsOn (observer look goesOn) state m (drain look steps state m) := by
  induction steps using Nat.strong_induction_on generalizing state m with
  | _ steps ih =>
      rcases run_drained_or_stopped goesOn steps state m with
        drained | ⟨used, positive, le, going, stops⟩
      · rw [← drained]
        exact .once steps
      · -- The next run begins where this one was broken off, with the steps that it left over.
        obtain ⟨more, rfl⟩ := Nat.exists_eq_add_of_le le
        rw [drain_add going]
        exact .again _ stops (ih more (by omega) _ _)

-----------------------------------------------------------------------------------------
-- Executions
-----------------------------------------------------------------------------------------

/-- One who looks at a machine in its interrupts without writing to it, and may give the execution
up.
-/
def Attendant.watchingUntil (look : Nat → σ → Machine → σ) (cancelled : σ → Machine → Bool)
    : Attendant σ where
  cancelled := fun state m => cancelled state m.unrecorded
  onBreak := fun position state m => (look position state m.unrecorded, m)

/-- One who looks at a machine in its interrupts and never gives the execution up. -/
def Attendant.watching (look : Nat → σ → Machine → σ) : Attendant σ :=
  .watchingUntil look fun _ _ => false

/-- Before the step with a number an execution notices that it was given up: it is looked after so
many steps, and it was.
-/
def GivesUp (m : Machine) (look : Nat → σ → Machine → σ) (cancelled : σ → Machine → Bool)
    (state : σ) (index : Nat)
    : Prop :=
  index % cancelInterval = 0
  ∧ cancelled (m.seen look state index) (m.after index).unrecorded = true

variable {cancelled : σ → Machine → Bool}

/-- An execution ends where it is looked whether it was given up, and it was. -/
theorem execFrom_of_cancelled {m : Machine} {index : Nat} {state : σ}
    (due : index % cancelInterval = 0) (gone : cancelled state m.unrecorded = true)
    (steps : Nat)
    : execFrom (.watchingUntil look cancelled) index (steps + 1) state m
      = (.cancelled, state, m) := by
  simp [execFrom, Attendant.watchingUntil, due, gone]

/-- An execution that was not given up, or where it is not looked for that, does not end at once. -/
theorem watching_goes (look : Nat → σ → Machine → σ) {m : Machine} {index : Nat} {state : σ}
    (kept : ¬(index % cancelInterval = 0 ∧ cancelled state m.unrecorded = true))
    : (decide (index % cancelInterval = 0)
        && (Attendant.watchingUntil look cancelled).cancelled state m) = false := by
  simpa [Attendant.watchingUntil] using kept

/-- A step that ends an execution is the last one. -/
theorem execFrom_of_ending {m : Machine} {index : Nat} {state : σ} {ending : RunEnd}
    (kept : ¬(index % cancelInterval = 0 ∧ cancelled state m.unrecorded = true))
    (ends : m.step.1.ending? = some ending) (steps : Nat)
    : withoutRecords (execFrom (.watchingUntil look cancelled) index (steps + 1) state m)
      = (ending, state, m.step.2.unrecorded) := by
  have goes := watching_goes look kept
  rcases stepped : m.step with ⟨outcome, next⟩
  rw [stepped] at ends
  simp only [execFrom, goes, stepped, Bool.false_eq_true, if_false]
  cases outcome with
  | done | outOfRange =>
      obtain rfl := Option.some.inj ends
      rfl
  | failed error =>
      obtain rfl := Option.some.inj ends
      simp only [withoutRecords, unrecorded_record]
  | next | interrupted => cases ends

/-- After any other step an execution goes on. -/
theorem execFrom_of_going {m : Machine} {index : Nat} {state : σ}
    (kept : ¬(index % cancelInterval = 0 ∧ cancelled state m.unrecorded = true))
    (going : m.step.1.ending? = none) (steps : Nat)
    : execFrom (.watchingUntil look cancelled) index (steps + 1) state m
      = execFrom (.watchingUntil look cancelled) (index + 1) steps (m.shown look state)
          m.step.2 := by
  have goes := watching_goes look kept
  rcases stepped : m.step with ⟨outcome, next⟩
  rw [stepped] at going
  rw [shown, stepped]
  simp only [execFrom, goes, stepped, Bool.false_eq_true, if_false]
  cases outcome with
  | next | interrupted => rfl
  | done | failed | outOfRange => cases going

/-- An execution that goes on for a number of steps and is not given up goes on from there; by
induction on their number.
-/
theorem execFrom_add {m : Machine} {count : Nat} {state : σ} (going : m.GoesOn count)
    (kept : ∀ index < count, ¬m.GivesUp look cancelled state index) (more : Nat)
    : execFrom (.watchingUntil look cancelled) 0 (count + more) state m
      = execFrom (.watchingUntil look cancelled) count more (m.seen look state count)
          (m.after count) := by
  -- The last of the steps is split off, as only the first ones are numbered from zero.
  induction count generalizing more with
  | zero => rw [Nat.zero_add]; rfl
  | succ count ih =>
      have earlier (index : Nat) (below : index < count) := kept index (by omega)
      rw [Nat.add_assoc, Nat.add_comm 1, ih (going.of_le count.le_succ) earlier,
        execFrom_of_going (kept count count.lt_succ_self) (going count count.lt_succ_self)]
      rfl

/-- Unless it is given up, an execution takes the course of a drained run. -/
theorem execFrom_drain {m : Machine} {steps : Nat} {state : σ}
    (kept : ∀ index < steps, m.GoesOn index → ¬m.GivesUp look cancelled state index)
    : withoutRecords (execFrom (.watchingUntil look cancelled) 0 steps state m)
      = withoutRecords (drain look steps state m) := by
  have course : m.Course look state steps (drain look steps state m) := m.course_drain steps state
  generalize drain look steps state m = result at course
  cases course with
  | underway going =>
      have earlier (index : Nat) (below : index < steps)
          : ¬m.GivesUp look cancelled state index :=
        kept index below (going.of_le below.le)
      have taken := execFrom_add going earlier 0
      rw [Nat.add_zero] at taken
      rw [taken]
      rfl
  | @ended index _ below going ends =>
      have earlier (before : Nat) (less : before < index)
          : ¬m.GivesUp look cancelled state before :=
        kept before (by omega) (going.of_le less.le)
      obtain ⟨more, rfl⟩ : ∃ more, steps = index + (more + 1) :=
        ⟨steps - index - 1, by omega⟩
      rw [execFrom_add going earlier, execFrom_of_ending (kept index below going) ends]
      rfl

/-- An execution that is given up before a step has taken the steps before it. -/
theorem execFrom_given_up {m : Machine} {index steps : Nat} {state : σ} (below : index < steps)
    (going : m.GoesOn index) (gone : m.GivesUp look cancelled state index)
    (kept : ∀ earlier < index, ¬m.GivesUp look cancelled state earlier)
    : execFrom (.watchingUntil look cancelled) 0 steps state m
      = (.cancelled, m.seen look state index, m.after index) := by
  obtain ⟨more, rfl⟩ : ∃ more, steps = index + (more + 1) := ⟨steps - index - 1, by omega⟩
  rw [execFrom_add going kept, execFrom_of_cancelled gone.1 gone.2]

/-- Recording how far an execution came changes nothing else. -/
theorem withoutRecords_exec (attendant : Attendant σ) (steps : Nat) (state : σ) (m : Machine)
    : withoutRecords (exec attendant steps state m)
      = withoutRecords (execFrom attendant 0 steps state m) := by
  rw [exec]
  exact congrArg (_, _, ·) (unrecorded_record _ _)

/-- Machines that differ in their records come to the same when they are drained; by induction on
the steps that are allowed.
-/
theorem drain_of_unrecorded_eq (steps : Nat) (state : σ) {m other : Machine}
    (same : other.unrecorded = m.unrecorded)
    : withoutRecords (drain look steps state other)
      = withoutRecords (drain look steps state m) := by
  induction steps generalizing state m other with
  | zero => exact congrArg (_, _, ·) same
  | succ steps ih =>
      obtain ⟨outcome, after⟩ := step_of_unrecorded_eq same
      cases first : m.step.1.ending? with
      | some ending =>
          have otherFirst : other.step.1.ending? = some ending := by rw [outcome, first]
          rw [drain, run_of_ending first, run_of_ending otherFirst]
          exact congrArg (_, _, ·) after
      | none =>
          have otherFirst : other.step.1.ending? = none := by rw [outcome, first]
          rw [drain_of_going first, drain_of_going otherFirst, shown_of_unrecorded_eq same]
          exact ih _ after

/-- Unless it is given up, an execution comes to what a drained run comes to. -/
theorem exec_eq_drain {m : Machine} {steps : Nat} {state : σ}
    (kept : ∀ index < steps, m.GoesOn index → ¬m.GivesUp look cancelled state index)
    : withoutRecords (exec (.watchingUntil look cancelled) steps state m)
      = withoutRecords (drain look steps state m) :=
  (withoutRecords_exec _ _ _ _).trans (execFrom_drain kept)

/-- An execution that nobody gives up comes to what a drained run comes to. -/
theorem exec_watching_eq_drain (m : Machine) (steps : Nat) (state : σ)
    : withoutRecords (exec (.watching look) steps state m)
      = withoutRecords (drain look steps state m) :=
  exec_eq_drain fun _ _ _ gone => Bool.false_ne_true gone.2

-----------------------------------------------------------------------------------------
-- Where runs end
-----------------------------------------------------------------------------------------

/-- A machine that is not before its program does not get there. -/
theorem pc_nonneg_after {m : Machine} (started : 0 ≤ m.pc) (count : Nat)
    : 0 ≤ (m.after count).pc := by
  induction count with
  | zero => exact started
  | succ count ih =>
      rw [after]
      rcases (m.after count).pc_step with same | ⟨_, _, _, next⟩ | ⟨_, _, back⟩ <;> omega

/-- A machine whose loops lie in its program does not get past the end of the program. -/
theorem pc_le_after {m : Machine} (inside : m.pc ≤ m.program.size)
    (starts : ∀ start ∈ m.loops, start ≤ m.program.size) (count : Nat)
    : (m.after count).pc ≤ m.program.size
      ∧ ∀ start ∈ (m.after count).loops, start ≤ m.program.size := by
  induction count with
  | zero => exact ⟨inside, starts⟩
  | succ count ih =>
      obtain ⟨le, entered⟩ := ih
      have program := (m.sameSettings_after count).program
      constructor
      · rw [after]
        rcases (m.after count).pc_step with same | ⟨_, _, fetched, next⟩ | ⟨_, member, back⟩
        · omega
        · have below := fetched.position_lt
          rw [program] at below
          omega
        · have below := entered _ member
          omega
      · intro start member
        rcases mem_loops_step member with before | opened
        · exact entered start before
        · have below := opened.position_lt
          rw [program] at below
          omega

/-- How a run may end that began inside the program of a machine: at the end of the program or
with an error.
-/
inductive EndsCleanly (m : Machine) : RunEnd × σ × Machine → Prop
  | unfinished {state : σ} {last : Machine}
    : EndsCleanly m (.unfinished, state, last)
  | finished {state : σ} {last : Machine} (past : last.done = true)
    (atEnd : (∀ start ∈ m.loops, start ≤ m.program.size) → last.pc = m.program.size)
    : EndsCleanly m (.finished, state, last)
  | failed {error : RunError} {state : σ} {last : Machine}
    : EndsCleanly m (.failed error, state, last)

/-- A drained run ends at the end of the program or with an error. -/
theorem endsCleanly_drain {m : Machine} (started : 0 ≤ m.pc) (inside : m.pc ≤ m.program.size)
    (steps : Nat) (state : σ)
    : m.EndsCleanly (drain look steps state m) := by
  have course : m.Course look state steps (drain look steps state m) := m.course_drain steps state
  generalize drain look steps state m = result at course
  cases course with
  | underway => exact .unfinished
  | @ended index ending _ _ ends =>
      cases outcome : m.outcome index with
      | done =>
          rw [outcome] at ends
          obtain rfl := Option.some.inj ends
          have past := (step_done_iff _).mp outcome
          have stays := after_of_done past index.le_succ
          rw [stays]
          refine .finished past fun starts => ?_
          have le := (pc_le_after inside starts index).1
          have program := (m.sameSettings_after index).program
          rw [done, program, decide_eq_true_eq] at past
          omega
      | failed =>
          rw [outcome] at ends
          obtain rfl := Option.some.inj ends
          exact .failed
      | outOfRange =>
          have before := before_of_outOfRange outcome
          have nonneg := pc_nonneg_after started index
          omega
      | next | interrupted =>
          rw [outcome] at ends
          cases ends

-----------------------------------------------------------------------------------------
-- All ways to drive a machine
-----------------------------------------------------------------------------------------

/-- All ways to drive a machine come to the same, as far as somebody tells who looks at it in its
interrupts. The number of steps that are allowed stands for how far a run is followed.
-/
structure DrivenAlike (m : Machine) (look : Nat → σ → Machine → σ) (state : σ) : Prop where
  /-- A drained run takes the steps one by one up to the first one that ends it. -/
  drained : ∀ steps, m.Course look state steps (drain look steps state m)
  ends : ∀ steps, m.EndsCleanly (drain look steps state m)
  /-- A run that was just broken off has done a number of whole steps. -/
  paused
    : ∀ goesOn knows stopped,
        RunsOn (observer look goesOn) state m (.stopped, knows, stopped)
        → ∃ count,
            m.GoesOn count
            ∧ knows = m.seen look state count
            ∧ stopped = m.after count
  /-- Breaking a run off anywhere and running again makes no difference. -/
  resumed
    : ∀ goesOn result,
        result.1 ≠ .stopped
        → (RunsOn (observer look goesOn) state m result
          ↔ ∃ steps, result = drain look steps state m)
  executed
    : ∀ steps,
        withoutRecords (exec (.watching look) steps state m)
        = withoutRecords (drain look steps state m)
  /-- An execution that ends before it is noticed that it was given up is not influenced by it. -/
  unnoticed
    : ∀ cancelled steps,
        (∀ index < steps, m.GoesOn index → ¬m.GivesUp look cancelled state index)
        → withoutRecords (exec (.watchingUntil look cancelled) steps state m)
          = withoutRecords (drain look steps state m)
  /-- An execution is given up before the first step at which that is noticed. It has then done all
  steps before and nothing else, and another execution takes it up there.
  -/
  givenUp
    : ∀ cancelled index steps,
        index < steps
        → m.GoesOn index
        → m.GivesUp look cancelled state index
        → (∀ earlier < index, ¬m.GivesUp look cancelled state earlier)
        → let result := exec (.watchingUntil look cancelled) steps state m
          withoutRecords result
            = (.cancelled, m.seen look state index, (m.after index).unrecorded)
          ∧ ∀ more,
              withoutRecords (exec (.watching look) more result.2.1 result.2.2)
              = withoutRecords (exec (.watching look) (index + more) state m)

/-- Runs and executions drive a machine alike, and stop between two steps only. From any state
inside the program, a run that goes on after each interrupt, one that is broken off and run again,
and an execution that nobody gives up show the same interrupts and come to the same end, with the
program counter at the end of the program or with an error. An execution that is given up can be
taken up again as if nothing had happened.
-/
theorem runs_and_executions_agree (m : Machine) (started : 0 ≤ m.pc)
    (inside : m.pc ≤ m.program.size) (look : Nat → σ → Machine → σ) (state : σ)
    : m.DrivenAlike look state where
  drained := fun steps => m.course_drain steps state
  ends := fun steps => endsCleanly_drain started inside steps state
  paused := by
    intro goesOn knows stopped runs
    rcases runs.drained_or_stopped with ⟨steps, drained⟩ | ⟨count, going, same⟩
    · exact absurd (congrArg Prod.fst drained.symm) (m.drain_ne_stopped steps state)
    · simp only [Prod.mk.injEq, true_and] at same
      exact ⟨count, going, same⟩
  resumed := by
    intro goesOn result ended
    constructor
    · intro runs
      rcases runs.drained_or_stopped with drained | ⟨_, _, stops⟩
      · exact drained
      · exact absurd (congrArg Prod.fst stops) ended
    · rintro ⟨steps, rfl⟩
      exact runsOn_drain steps state m
  executed := fun steps => m.exec_watching_eq_drain steps state
  unnoticed := fun cancelled steps kept => exec_eq_drain kept
  givenUp := by
    intro cancelled index steps below going gone kept result
    have stopped : withoutRecords result
        = (.cancelled, m.seen look state index, (m.after index).unrecorded) := by
      rw [withoutRecords_exec, execFrom_given_up below going gone kept]
      rfl
    refine ⟨stopped, fun more => ?_⟩
    obtain ⟨-, knows, same⟩ : result.1 = .cancelled
        ∧ result.2.1 = m.seen look state index
        ∧ result.2.2.unrecorded = (m.after index).unrecorded := by
      simpa [withoutRecords] using stopped
    rw [exec_watching_eq_drain, exec_watching_eq_drain, drain_add going, knows]
    exact drain_of_unrecorded_eq more _ same

/-- An observer who notes the positions of the interrupts, the last one first. -/
def noting (position : Nat) (seen : List Nat) (_ : Machine) : List Nat :=
  position :: seen

/-- A program with two break marks is executed to its end, broken off at each mark, and given up
before its first step.
-/
theorem runs_and_executions_agree_marked
    : let m := (Setup.marked.debugged Setup.everything).machine
      withoutRecords (m.exec (.watching noting) 20 [])
        = (.finished, [5, 3], (m.after 6).unrecorded)
      ∧ (∃ last, RunsOn (observer noting fun _ _ _ => false) [] m (.finished, [5, 3], last))
      ∧ (m.exec (.watchingUntil noting fun _ _ => true) 20 []).1 = .cancelled := by
  intro m
  have alike := runs_and_executions_agree m (by decide) (by decide) noting []
  have past : (m.after 6).done = true := by decide
  have drained : drain noting 20 [] m = (.finished, [5, 3], m.after 6) := by
    have going : m.GoesOn 6 := by
      unfold GoesOn
      decide
    have ends : (m.after 6).step.1.ending? = some .finished := by decide
    have shown : m.seen noting [] 6 = [5, 3] := by decide
    rw [drain_add going 14, shown, drain, run_of_ending ends, step_of_done past]
  refine ⟨?_, ⟨m.after 6, (alike.resumed _ _ (by decide)).mpr ⟨20, drained.symm⟩⟩, ?_⟩
  · rw [alike.executed 20, drained, withoutRecords]
  · have gone : m.GivesUp noting (fun _ _ => true) [] 0 := ⟨rfl, rfl⟩
    have stopped := (alike.givenUp _ 0 20 (by decide) nofun gone nofun).1
    exact congrArg Prod.fst stopped

end Machine

end TapeMachine
