import Mathlib.Data.Nat.Count
import TapeMachine.Machine.Journal
import TapeMachine.Proofs.Machine.History

/-! Which steps are counted, and which of them are recorded. A step is counted if it acts on an
instruction or on a break mark that interrupts the run; a machine that traces and keeps a journal
has one record of an execution for each step that it counted.
-/

namespace TapeMachine

namespace Machine

-----------------------------------------------------------------------------------------
-- Steps that are counted
-----------------------------------------------------------------------------------------

/-- The byte that the next step acts on. There is none outside of the program, and none while a
loop is skipped.
-/
def actedOn? (m : Machine) : Option UInt8 :=
  if m.done || m.pc < 0 || 0 < m.skip then none else m.program.byte? m.pc.toNat

/-- The next step takes a break mark while no loop is skipped. -/
def MeetsMark (m : Machine) : Prop :=
  m.actedOn? = some breakMark

instance (m : Machine) : Decidable m.MeetsMark :=
  inferInstanceAs (Decidable (_ = _))

/-- The next step takes the byte of an instruction while no loop is skipped. -/
def MeetsInstruction (m : Machine) : Prop :=
  (m.actedOn?.bind Instruction.ofByte?).isSome = true

instance (m : Machine) : Decidable m.MeetsInstruction :=
  inferInstanceAs (Decidable (_ = _))

/-- The next step is counted. -/
def Counts (m : Machine) : Prop :=
  m.MeetsInstruction ∨ (m.MeetsMark ∧ m.breakpoints = true)

instance (m : Machine) : Decidable m.Counts :=
  inferInstanceAs (Decidable (_ ∨ _))

/-- The number of break marks that the first steps take while no loop is skipped. -/
def marksMet (m : Machine) (count : Nat) : Nat :=
  Nat.count (fun index => (m.after index).MeetsMark) count

/-- The number of instructions that the first steps take while no loop is skipped. -/
def instructionsMet (m : Machine) (count : Nat) : Nat :=
  Nat.count (fun index => (m.after index).MeetsInstruction) count

/-- The number of the first steps that are counted. -/
def counted (m : Machine) (count : Nat) : Nat :=
  Nat.count (fun index => (m.after index).Counts) count

/-- A machine that takes a byte acts on it unless a loop is skipped. -/
theorem Fetches.actedOn?_eq {m : Machine} {position : Nat} {byte : UInt8}
    (fetched : m.Fetches position byte)
    : m.actedOn? = if 0 < m.skip then none else some byte := by
  have pc := fetched.pc
  have started : ¬m.pc < 0 := by omega
  have place : m.pc.toNat = position := by omega
  simp [actedOn?, fetched.inside, started, place, fetched.byte]

/-- No byte is both an instruction and the break mark. -/
theorem MeetsInstruction.not_mark {m : Machine} (executes : m.MeetsInstruction)
    : ¬m.MeetsMark := by
  intro marked
  unfold MeetsInstruction at executes
  rw [show m.actedOn? = some breakMark from marked] at executes
  revert executes
  decide

/-- The steps that are counted are the instructions and, with breakpoints on, the break marks. -/
theorem counted_eq (m : Machine) (count : Nat)
    : m.counted count
      = m.instructionsMet count + if m.breakpoints then m.marksMet count else 0 := by
  induction count with
  | zero => simp [counted, instructionsMet, marksMet]
  | succ count ih =>
      have breaks := (m.sameSettings_after count).breakpoints
      unfold counted instructionsMet marksMet at ih ⊢
      rw [Nat.count_succ, Nat.count_succ, Nat.count_succ, ih]
      by_cases executes : (m.after count).MeetsInstruction
      · have counts : (m.after count).Counts := Or.inl executes
        simp only [counts, executes, executes.not_mark, if_true, if_false, Nat.add_zero]
        omega
      · have counts : (m.after count).Counts
            ↔ (m.after count).MeetsMark ∧ m.breakpoints = true := by
          simp only [Counts, executes, false_or, breaks]
        simp only [counts, executes, if_false, Nat.add_zero]
        cases m.breakpoints <;> by_cases marked : (m.after count).MeetsMark <;>
          simp [marked]
        omega

-----------------------------------------------------------------------------------------
-- Steps that are recorded
-----------------------------------------------------------------------------------------

end Machine

/-- The record of the event says that an instruction or a break mark is executed. -/
def Event.isExecution (event : Event) : Bool :=
  event.toRecord.message == "exec"

namespace Machine

/-- The number of records of executions in the journal of a machine. -/
def executions (m : Machine) : Nat :=
  m.journal.countP Event.isExecution

/-- The number of steps of a machine and the number of executions it recorded. -/
def tally (m : Machine) : Int64 × Nat :=
  (m.steps, m.executions)

/-- Recording anything but an execution leaves the tally alone. -/
theorem tally_record (m : Machine) {event : Event} (other : event.isExecution = false)
    : (m.record event).tally = m.tally := by
  unfold record
  split
  · simp [tally, executions, other]
  · rfl

/-- Recording growth leaves the tally alone. -/
theorem tally_reach (m : Machine) (address : Address)
    : (m.reach address).tally = m.tally := by
  have grown (growths : List Growth)
      : (growths.map Event.grown).countP Event.isExecution = 0 := by
    simp [List.countP_map, List.countP_eq_zero, Event.isExecution, Event.toRecord]
  unfold reach
  split
  · simp [tally, executions, Array.countP_append, grown]
  · rfl

/-- Working on the current cell leaves the tally alone if what is done there does. -/
theorem tally_onCell (m : Machine) (andThen : UInt8 → Machine → Option Fault × Machine)
    (steady : ∀ value next, (andThen value next).2.tally = next.tally)
    : (m.onCell andThen).2.tally = m.tally := by
  unfold onCell
  split
  · rfl
  · exact (steady _ _).trans (m.tally_reach m.address)

theorem tally_moveTo (m : Machine) (address : Address)
    : (m.moveTo address).2.tally = m.tally := by
  unfold moveTo
  split
  · rfl
  · exact m.tally_reach address

theorem tally_readInput (m : Machine) (position : Nat)
    : (m.readInput position).2.tally = m.tally := by
  unfold readInput
  cases m.input.read with
  | mk reading input =>
      cases reading with
      | byte value =>
          refine (tally_onCell _ _ fun _ _ => rfl).trans ?_
          dsimp only
          split
          · exact tally_record _ rfl
          · rfl
      | ended =>
          refine (tally_onCell _ _ fun _ next => ?_).trans (tally_record _ rfl)
          cases next.endOfInput.stored? <;> rfl
      | failed reason => rfl

theorem tally_startLoop (m : Machine) (position : Nat) (value : UInt8)
    : (m.startLoop position value).2.tally = m.tally := by
  unfold startLoop
  repeat' split
  all_goals rfl

theorem tally_endLoop (m : Machine) (value : UInt8)
    : (m.endLoop value).2.tally = m.tally := by
  unfold endLoop
  repeat' split
  all_goals rfl

/-- Executing an instruction leaves the tally alone, which was made up before. -/
theorem tally_perform (m : Machine) (position : Nat) (instruction : Instruction)
    : (m.perform position instruction).2.tally = m.tally := by
  cases instruction with
  | right | left => exact m.tally_moveTo _
  | increment | decrement | output => exact m.tally_onCell _ fun _ _ => rfl
  | input => exact m.tally_readInput position
  | loopStart => exact m.tally_onCell _ fun value next => next.tally_startLoop position value
  | loopEnd => exact m.tally_onCell _ fun value next => next.tally_endLoop value

/-- Beginning a step counts it, and records it if the machine traces and keeps a journal. -/
theorem tally_beginStep (m : Machine) (position : Nat) (byte : UInt8)
    : (m.beginStep position byte).tally
      = (m.steps + 1, m.executions + if m.trace && m.keepsJournal then 1 else 0) := by
  have execution : (Event.executing position byte m.address (m.tape.peek m.address)
      m.loops.length).isExecution = true := rfl
  unfold beginStep record
  cases traces : m.trace <;> cases keeps : m.keepsJournal <;>
    simp [tally, executions, execution]

/-- The tally after a step that is counted. -/
def nextTally (m : Machine) : Int64 × Nat :=
  (m.steps + 1, m.executions + if m.trace && m.keepsJournal then 1 else 0)

/-- A step that executes an instruction is counted, whether it fails or not. -/
theorem Dispatches.tally_step {m : Machine} {position : Nat} {instruction : Instruction}
    (dispatched : m.Dispatches position instruction)
    : m.step.2.tally = m.nextTally := by
  have kept := tally_perform
    ({ m with pc := m.pc + 1 }.beginStep position instruction.toByte) position instruction
  rw [tally_beginStep] at kept
  rw [dispatched.fetched.step_eq]
  simp only [dispatch, dispatched.normal, Instruction.ofByte?_toByte, if_false]
  generalize perform _ position instruction = effect at kept ⊢
  obtain ⟨fault, next⟩ := effect
  cases fault <;> exact kept

/-- A break mark that interrupts the run is counted. -/
theorem Fetches.tally_of_break {m : Machine} {position : Nat}
    (fetched : m.Fetches position breakMark) (normal : ¬0 < m.skip)
    (breaks : m.breakpoints = true)
    : m.step.2.tally = m.nextTally := by
  have comment : Instruction.ofByte? breakMark = none := by decide
  rw [fetched.step_eq]
  simp only [dispatch, normal, comment, if_false]
  rw [if_pos (by simp [breaks])]
  exact tally_beginStep _ _ _

/-- A step changes the tally just if it is counted. -/
theorem tally_step (m : Machine)
    : m.step.2.tally = if m.Counts then m.nextTally else m.tally := by
  have idle_of (nothing : m.actedOn? = none) : ¬m.Counts := by
    simp [Counts, MeetsInstruction, MeetsMark, nothing]
  by_cases past : m.done = true
  · rw [step_of_done past, if_neg (idle_of (by simp [actedOn?, past]))]
  by_cases before : m.pc < 0
  · rw [step_of_misplaced before, if_neg (idle_of (by simp [actedOn?, before]))]
  obtain ⟨position, byte, fetched⟩ :=
    fetches_of_inside (by simpa using past) (by omega : 0 ≤ m.pc)
  have acted := fetched.actedOn?_eq
  by_cases skipping : 0 < m.skip
  · rw [if_pos skipping] at acted
    rw [fetched.step_of_skipping skipping, if_neg (idle_of acted)]
    unfold countBracket
    split <;> rfl
  rw [if_neg skipping] at acted
  cases means : Instruction.ofByte? byte with
  | some instruction =>
      have counts : m.Counts := Or.inl (by simp [MeetsInstruction, acted, means])
      obtain rfl := Instruction.ofByte?_eq_some_iff.mp means
      rw [if_pos counts]
      exact Dispatches.tally_step ⟨fetched, skipping⟩
  | none =>
      have counts : m.Counts ↔ byte = breakMark ∧ m.breakpoints = true := by
        simp [Counts, MeetsInstruction, MeetsMark, acted, means]
      by_cases marked : byte = breakMark ∧ m.breakpoints = true
      · rw [if_pos (counts.mpr marked)]
        obtain ⟨rfl, breaks⟩ := marked
        exact fetched.tally_of_break skipping breaks
      · rw [if_neg (mt counts.mp marked), fetched.step_of_comment skipping means marked]
        rfl

/-- A run adds the counted steps to the number of steps, which is a word. -/
theorem steps_after (m : Machine) (count : Nat)
    : (m.after count).steps = m.steps + Int64.ofNat (m.counted count) := by
  induction count with
  | zero => simp [after, counted]
  | succ count ih =>
      have next := congrArg Prod.fst (m.after count).tally_step
      change (m.after (count + 1)).steps = _ at next
      rw [next, counted, Nat.count_succ]
      split
      · rw [Int64.ofNat_add, ← Int64.add_assoc]
        exact congrArg (· + 1) ih
      · exact ih

/-- A run of a machine that traces and keeps its journal adds a record of an execution for each
counted step.
-/
theorem executions_after {m : Machine} (traces : m.trace = true)
    (keeps : m.keepsJournal = true) (count : Nat)
    : (m.after count).executions = m.executions + m.counted count := by
  induction count with
  | zero => simp [after, counted]
  | succ count ih =>
      have next := congrArg Prod.snd (m.after count).tally_step
      change (m.after (count + 1)).executions = _ at next
      rw [next, counted, Nat.count_succ]
      split
      · have choices := m.debugging_after count
        have tracing : (m.after count).trace = true :=
          (congrArg Debugging.trace choices).trans traces
        have keeping : (m.after count).keepsJournal = true :=
          (congrArg Debugging.keepsJournal choices).trans keeps
        simp only [nextTally, tracing, keeping, Bool.and_self, if_true, ih, counted]
        omega
      · exact ih

end Machine

end TapeMachine
