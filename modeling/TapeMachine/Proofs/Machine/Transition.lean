import TapeMachine.Proofs.Machine.Store

/-! Everything a step can do, as one relation with a case for each.
`Transition m outcome next` holds of the outcome and the machine that `Machine.step` gives, so a
property of all steps is proved by cases on it and never by opening the step again.
-/

namespace TapeMachine

namespace Instruction

/-- The byte of an instruction stands for no other instruction, and no other byte stands for it. -/
theorem ofByte?_eq_some_iff {byte : UInt8} {instruction : Instruction}
    : ofByte? byte = some instruction ↔ byte = instruction.toByte := by
  constructor
  · intro means
    unfold ofByte? at means
    repeat' split at means
    all_goals first | exact Option.some.inj means ▸ ‹_› | cases means
  · rintro rfl
    exact ofByte?_toByte instruction

end Instruction

namespace Machine

/-- The next step takes a byte from a position. -/
structure Fetches (m : Machine) (position : Nat) (byte : UInt8) : Prop where
  pc : m.pc = position
  byte : m.program.byte? position = some byte

/-- The next step executes an instruction: its byte is taken while no loop is skipped. -/
structure Dispatches (m : Machine) (position : Nat) (instruction : Instruction) : Prop where
  fetched : m.Fetches position instruction.toByte
  normal : ¬0 < m.skip

/-- The machine past the byte it took, with one more step counted. -/
def advanced (m : Machine) (store : Store) (journal : Array Event) : Machine :=
  { m.withStore store journal with pc := m.pc + 1, steps := m.steps + 1 }

/-- The store on which the current cell exists. -/
def reached (m : Machine) : Store :=
  { m.store with tape := m.tape.extend m.address }

/-- A machine that is not past its program and not before it takes a byte. -/
theorem fetches_of_inside {m : Machine} (inside : m.done = false) (started : 0 ≤ m.pc)
    : ∃ position byte, m.Fetches position byte := by
  obtain ⟨position, same⟩ := Int.eq_ofNat_of_zero_le started
  have below : position < m.program.code.size := by
    simp only [done, Program.size, same, decide_eq_false_iff_not] at inside
    omega
  exact ⟨position, m.program.code[position], same, Array.getElem?_eq_getElem below⟩

/-- A machine that takes a byte is inside its program. -/
theorem Fetches.position_lt {m : Machine} {position : Nat} {byte : UInt8}
    (fetched : m.Fetches position byte)
    : position < m.program.size := by
  have present := fetched.byte
  unfold Program.byte? at present
  exact (Array.getElem?_eq_some_iff.mp present).1

/-- A machine that takes a byte is not at the end of its program. -/
theorem Fetches.inside {m : Machine} {position : Nat} {byte : UInt8}
    (fetched : m.Fetches position byte)
    : m.done = false := by
  have below := fetched.position_lt
  have pc := fetched.pc
  rw [done, decide_eq_false_iff_not]
  omega

/-- A step takes one byte from one position. -/
theorem Fetches.unique {m : Machine} {position other : Nat} {byte otherByte : UInt8}
    (fetched : m.Fetches position byte) (again : m.Fetches other otherByte)
    : other = position ∧ otherByte = byte := by
  have same : other = position := by
    have pc := fetched.pc
    have otherPc := again.pc
    omega
  subst same
  exact ⟨rfl, Option.some.inj (again.byte.symm.trans fetched.byte)⟩

/-- A step that executes some instruction executes no other one. -/
theorem Dispatches.unique {m : Machine} {position other : Nat}
    {instruction otherInstruction : Instruction} (dispatched : m.Dispatches position instruction)
    (again : m.Dispatches other otherInstruction)
    : otherInstruction = instruction := by
  have means := Instruction.ofByte?_toByte otherInstruction
  rw [(dispatched.fetched.unique again.fetched).2, Instruction.ofByte?_toByte] at means
  exact (Option.some.inj means).symm

theorem step_of_done {m : Machine} (past : m.done = true) : m.step = (.done, m) := by
  simp only [step, past, if_true]

/-- Before the program there is no byte to take. -/
theorem step_of_misplaced {m : Machine} (before : m.pc < 0)
    : m.step = (.outOfRange m.pc, m) := by
  have started : m.done = false := by
    rw [done, decide_eq_false_iff_not]
    omega
  simp only [step, started, before, if_true, Bool.false_eq_true, if_false]

/-- A step inside the program acts on the byte that it takes. -/
theorem Fetches.step_eq {m : Machine} {position : Nat} {byte : UInt8}
    (fetched : m.Fetches position byte)
    : m.step = { m with pc := m.pc + 1 }.dispatch position byte := by
  have pc := fetched.pc
  have started : ¬m.pc < 0 := by omega
  have place : m.pc.toNat = position := by omega
  simp only [step, fetched.inside, started, place, fetched.byte, Bool.false_eq_true, if_false]

/-- While a loop is skipped, a step counts brackets and does nothing else. -/
theorem Fetches.step_of_skipping {m : Machine} {position : Nat} {byte : UInt8}
    (fetched : m.Fetches position byte) (skipping : 0 < m.skip)
    : m.step = (.next, { m with pc := m.pc + 1 }.countBracket byte) := by
  rw [fetched.step_eq]
  simp only [dispatch, skipping, if_true]

/-- A step over a byte that stands for no instruction, when it interrupts nothing. -/
theorem Fetches.step_of_comment {m : Machine} {position : Nat} {byte : UInt8}
    (fetched : m.Fetches position byte) (normal : ¬0 < m.skip)
    (comment : Instruction.ofByte? byte = none)
    (silent : ¬(byte = breakMark ∧ m.breakpoints = true))
    : m.step = (.next, { m with pc := m.pc + 1 }) := by
  rw [fetched.step_eq]
  simp [dispatch, normal, comment, silent]

/-- A step over a break mark that interrupts the run. -/
theorem Fetches.step_of_break {m : Machine} {position : Nat}
    (fetched : m.Fetches position breakMark) (normal : ¬0 < m.skip)
    (breaks : m.breakpoints = true)
    : ∃ journal, m.step = (.interrupted position, m.advanced m.store journal) := by
  obtain ⟨journal, begun⟩ := beginStep_eq { m with pc := m.pc + 1 } position breakMark
  have comment : Instruction.ofByte? breakMark = none := by decide
  refine ⟨journal, ?_⟩
  rw [fetched.step_eq]
  simp only [dispatch, normal, comment, begun, if_false]
  rw [if_pos (by simp [breaks])]
  rfl

/-- The outcome of an instruction that stands at a position: the run goes on unless there is a
fault.
-/
def ending (m : Machine) (position : Nat) (instruction : Instruction) : Option Fault → Outcome
  | none => .next
  | some fault => .failed ⟨position, m.address, instruction, fault⟩

/-- An instruction after which the run does not go on fails with its fault. -/
theorem failed_of_ending {m : Machine} {position : Nat} {instruction : Instruction}
    {fault : Option Fault} {outcome : Outcome}
    (ends : m.ending position instruction fault = outcome) (stops : outcome ≠ .next)
    : ∃ cause,
        fault = some cause ∧ outcome = .failed ⟨position, m.address, instruction, cause⟩ := by
  subst ends
  cases fault with
  | none => exact absurd rfl stops
  | some cause => exact ⟨cause, rfl, rfl⟩

/-- A step that executes an instruction performs it on the machine past its byte. -/
theorem Dispatches.step_eq {m : Machine} {position : Nat} {instruction : Instruction}
    (dispatched : m.Dispatches position instruction)
    : ∃ journal,
        let begun := { m with pc := m.pc + 1, steps := m.steps + 1, journal }
        m.step
        = (m.ending position instruction (begun.perform position instruction).1,
            (begun.perform position instruction).2) := by
  obtain ⟨journal, begun⟩ :=
    beginStep_eq { m with pc := m.pc + 1 } position instruction.toByte
  refine ⟨journal, ?_⟩
  rw [dispatched.fetched.step_eq]
  simp only [dispatch, dispatched.normal, Instruction.ofByte?_toByte, begun, if_false]
  generalize perform _ position instruction = effect
  obtain ⟨fault, next⟩ := effect
  cases fault <;> rfl

/-- A step that executes a command changes the store as the command does. -/
theorem Dispatches.step_of_command {m : Machine} {position : Nat} {command : StoreCommand}
    (dispatched : m.Dispatches position command.toInstruction)
    : ∃ journal, m.step
        = (m.ending position command.toInstruction
              (command.exec m.endOfInput m.store).1,
            m.advanced (command.exec m.endOfInput m.store).2 journal) := by
  obtain ⟨journal, stepped⟩ := dispatched.step_eq
  obtain ⟨later, performed⟩ := perform_command
    { m with pc := m.pc + 1, steps := m.steps + 1, journal } position command
  refine ⟨later, ?_⟩
  simp only [performed] at stepped
  exact stepped

/-- A step that executes a bracket on a refused cell fails and changes nothing else. -/
theorem Dispatches.step_of_refused {m : Machine} {position : Nat} {instruction : Instruction}
    (dispatched : m.Dispatches position instruction)
    (bracket : instruction = .loopStart ∨ instruction = .loopEnd)
    (refused : m.tape.refuses m.address = true)
    : ∃ journal, m.step
        = (.failed ⟨position, m.address, instruction, .exhausted ⟨m.address, m.tape.limit⟩⟩,
            m.advanced m.store journal) := by
  obtain ⟨journal, stepped⟩ := dispatched.step_eq
  have faulty := onCell_of_refused
    (m := { m with pc := m.pc + 1, steps := m.steps + 1, journal }) refused
  refine ⟨journal, ?_⟩
  rcases bracket with rfl | rfl
  · simp only [perform, faulty] at stepped
    exact stepped
  · simp only [perform, faulty] at stepped
    exact stepped

/-- A step that executes a loop start tests the cell, which exists afterwards. -/
theorem Dispatches.step_of_loopStart {m : Machine} {position : Nat}
    (dispatched : m.Dispatches position .loopStart)
    (admitted : m.tape.refuses m.address = false)
    : ∃ journal,
        let effect :=
          (m.advanced m.reached journal).startLoop position (m.tape.peek m.address)
        m.step = (m.ending position .loopStart effect.1, effect.2) := by
  obtain ⟨journal, stepped⟩ := dispatched.step_eq
  obtain ⟨later, tested⟩ := onCell_of_admitted
    (m := { m with pc := m.pc + 1, steps := m.steps + 1, journal }) admitted
    (fun value m => m.startLoop position value)
  refine ⟨later, ?_⟩
  simp only [perform, tested] at stepped
  exact stepped

/-- A step that executes a loop end tests the cell, which exists afterwards. -/
theorem Dispatches.step_of_loopEnd {m : Machine} {position : Nat}
    (dispatched : m.Dispatches position .loopEnd)
    (admitted : m.tape.refuses m.address = false)
    : ∃ journal,
        let effect := (m.advanced m.reached journal).endLoop (m.tape.peek m.address)
        m.step = (m.ending position .loopEnd effect.1, effect.2) := by
  obtain ⟨journal, stepped⟩ := dispatched.step_eq
  obtain ⟨later, tested⟩ := onCell_of_admitted
    (m := { m with pc := m.pc + 1, steps := m.steps + 1, journal }) admitted
    (fun value m => m.endLoop value)
  refine ⟨later, ?_⟩
  simp only [perform, tested] at stepped
  exact stepped

/-- A loop start on a zero cell begins to skip the loop. -/
theorem Dispatches.step_of_bypass {m : Machine} {position : Nat}
    (dispatched : m.Dispatches position .loopStart)
    (admitted : m.tape.refuses m.address = false) (zero : m.tape.peek m.address = 0)
    : ∃ journal, m.step = (.next, { m.advanced m.reached journal with skip := 1 }) := by
  obtain ⟨journal, stepped⟩ := dispatched.step_of_loopStart admitted
  refine ⟨journal, ?_⟩
  rw [stepped]
  simp only [startLoop, zero, if_true, ending]

/-- A loop start inside as many loops as are allowed fails. -/
theorem Dispatches.step_of_overflow {m : Machine} {position : Nat}
    (dispatched : m.Dispatches position .loopStart)
    (admitted : m.tape.refuses m.address = false) (nonzero : m.tape.peek m.address ≠ 0)
    (deep : m.maxDepth ≤ m.loops.length)
    : ∃ journal, m.step
        = (.failed ⟨position, m.address, .loopStart, .loopOverflow⟩,
            m.advanced m.reached journal) := by
  obtain ⟨journal, stepped⟩ := dispatched.step_of_loopStart admitted
  have bound : (m.advanced m.reached journal).maxDepth
      ≤ (m.advanced m.reached journal).loops.length := deep
  refine ⟨journal, ?_⟩
  rw [stepped]
  simp only [startLoop, nonzero, bound, if_true, if_false, ending]

/-- Any other loop start enters the loop. -/
theorem Dispatches.step_of_entry {m : Machine} {position : Nat}
    (dispatched : m.Dispatches position .loopStart)
    (admitted : m.tape.refuses m.address = false) (nonzero : m.tape.peek m.address ≠ 0)
    (shallow : m.loops.length < m.maxDepth)
    : ∃ journal, m.step
        = (.next, { m.advanced m.reached journal with loops := position :: m.loops }) := by
  obtain ⟨journal, stepped⟩ := dispatched.step_of_loopStart admitted
  have bound : ¬(m.advanced m.reached journal).maxDepth
      ≤ (m.advanced m.reached journal).loops.length := Int.not_le.mpr shallow
  refine ⟨journal, ?_⟩
  rw [stepped]
  simp only [startLoop, nonzero, bound, if_false, ending]
  rfl

/-- A loop end outside of all loops fails. -/
theorem Dispatches.step_of_unmatched {m : Machine} {position : Nat}
    (dispatched : m.Dispatches position .loopEnd)
    (admitted : m.tape.refuses m.address = false) (empty : m.loops = [])
    : ∃ journal, m.step
        = (.failed ⟨position, m.address, .loopEnd, .unmatchedLoopEnd⟩,
            m.advanced m.reached journal) := by
  obtain ⟨journal, stepped⟩ := dispatched.step_of_loopEnd admitted
  have none : (m.advanced m.reached journal).loops = [] := empty
  refine ⟨journal, ?_⟩
  rw [stepped]
  simp only [endLoop, none, ending]

/-- A loop end on a zero cell leaves the loop. -/
theorem Dispatches.step_of_leave {m : Machine} {position start : Nat} {loops : List Nat}
    (dispatched : m.Dispatches position .loopEnd)
    (admitted : m.tape.refuses m.address = false) (zero : m.tape.peek m.address = 0)
    (inside : m.loops = start :: loops)
    : ∃ journal, m.step = (.next, { m.advanced m.reached journal with loops }) := by
  obtain ⟨journal, stepped⟩ := dispatched.step_of_loopEnd admitted
  have kept : (m.advanced m.reached journal).loops = start :: loops := inside
  refine ⟨journal, ?_⟩
  rw [stepped]
  simp only [endLoop, kept, zero, if_true, ending]

/-- A loop end on a cell that is not zero goes back to where the loop was entered. -/
theorem Dispatches.step_of_jump {m : Machine} {position start : Nat} {loops : List Nat}
    (dispatched : m.Dispatches position .loopEnd)
    (admitted : m.tape.refuses m.address = false) (nonzero : m.tape.peek m.address ≠ 0)
    (inside : m.loops = start :: loops)
    : ∃ journal, m.step
        = (.next, { m.advanced m.reached journal with loops, pc := start }) := by
  obtain ⟨journal, stepped⟩ := dispatched.step_of_loopEnd admitted
  have kept : (m.advanced m.reached journal).loops = start :: loops := inside
  refine ⟨journal, ?_⟩
  rw [stepped]
  simp only [endLoop, kept, nonzero, if_false, ending]

-----------------------------------------------------------------------------------------
-- The cases of a step
-----------------------------------------------------------------------------------------

/-- Everything that a step can do, with the guard of each case. -/
inductive Transition (m : Machine) : Outcome → Machine → Prop
  | ended (past : m.done = true)
    : Transition m .done m
  | misplaced (before : m.pc < 0)
    : Transition m (.outOfRange m.pc) m
  | scanned {position byte} (fetched : m.Fetches position byte) (skipping : 0 < m.skip)
    : Transition m .next ({ m with pc := m.pc + 1 }.countBracket byte)
  | passed {position byte} (fetched : m.Fetches position byte) (normal : ¬0 < m.skip)
    (comment : Instruction.ofByte? byte = none)
    (silent : ¬(byte = breakMark ∧ m.breakpoints = true))
    : Transition m .next { m with pc := m.pc + 1 }
  | interrupted {position} (journal) (fetched : m.Fetches position breakMark)
    (normal : ¬0 < m.skip) (breaks : m.breakpoints = true)
    : Transition m (.interrupted position) (m.advanced m.store journal)
  | commanded {position} {command : StoreCommand} (journal)
    (dispatched : m.Dispatches position command.toInstruction)
    : Transition m
        (m.ending position command.toInstruction (command.exec m.endOfInput m.store).1)
        (m.advanced (command.exec m.endOfInput m.store).2 journal)
  | refused {position instruction} (journal)
    (dispatched : m.Dispatches position instruction)
    (bracket : instruction = .loopStart ∨ instruction = .loopEnd)
    (refused : m.tape.refuses m.address = true)
    : Transition m
        (.failed ⟨position, m.address, instruction, .exhausted ⟨m.address, m.tape.limit⟩⟩)
        (m.advanced m.store journal)
  | bypassed {position} (journal) (dispatched : m.Dispatches position .loopStart)
    (admitted : m.tape.refuses m.address = false) (zero : m.tape.peek m.address = 0)
    : Transition m .next { m.advanced m.reached journal with skip := 1 }
  | overflowed {position} (journal) (dispatched : m.Dispatches position .loopStart)
    (admitted : m.tape.refuses m.address = false) (nonzero : m.tape.peek m.address ≠ 0)
    (deep : m.maxDepth ≤ m.loops.length)
    : Transition m (.failed ⟨position, m.address, .loopStart, .loopOverflow⟩)
        (m.advanced m.reached journal)
  | entered {position} (journal) (dispatched : m.Dispatches position .loopStart)
    (admitted : m.tape.refuses m.address = false) (nonzero : m.tape.peek m.address ≠ 0)
    (shallow : m.loops.length < m.maxDepth)
    : Transition m .next { m.advanced m.reached journal with loops := position :: m.loops }
  | unmatched {position} (journal) (dispatched : m.Dispatches position .loopEnd)
    (admitted : m.tape.refuses m.address = false) (empty : m.loops = [])
    : Transition m (.failed ⟨position, m.address, .loopEnd, .unmatchedLoopEnd⟩)
        (m.advanced m.reached journal)
  | left {position start loops} (journal) (dispatched : m.Dispatches position .loopEnd)
    (admitted : m.tape.refuses m.address = false) (zero : m.tape.peek m.address = 0)
    (inside : m.loops = start :: loops)
    : Transition m .next { m.advanced m.reached journal with loops }
  | repeated {position start loops} (journal) (dispatched : m.Dispatches position .loopEnd)
    (admitted : m.tape.refuses m.address = false) (nonzero : m.tape.peek m.address ≠ 0)
    (inside : m.loops = start :: loops)
    : Transition m .next { m.advanced m.reached journal with loops, pc := start }

/-- The cases of a step that takes a byte which stands for no instruction. -/
theorem Fetches.transition_of_comment {m : Machine} {position : Nat} {byte : UInt8}
    (fetched : m.Fetches position byte) (normal : ¬0 < m.skip)
    (comment : Instruction.ofByte? byte = none)
    : Transition m m.step.1 m.step.2 := by
  by_cases marked : byte = breakMark ∧ m.breakpoints = true
  · obtain ⟨rfl, breaks⟩ := marked
    obtain ⟨journal, stepped⟩ := fetched.step_of_break normal breaks
    rw [stepped]
    exact .interrupted journal fetched normal breaks
  · rw [fetched.step_of_comment normal comment marked]
    exact .passed fetched normal comment marked

/-- The cases of a step that executes a loop start. -/
theorem Dispatches.transition_of_loopStart {m : Machine} {position : Nat}
    (dispatched : m.Dispatches position .loopStart)
    (admitted : m.tape.refuses m.address = false)
    : Transition m m.step.1 m.step.2 := by
  by_cases zero : m.tape.peek m.address = 0
  · obtain ⟨journal, stepped⟩ := dispatched.step_of_bypass admitted zero
    rw [stepped]
    exact .bypassed journal dispatched admitted zero
  · by_cases deep : m.maxDepth ≤ m.loops.length
    · obtain ⟨journal, stepped⟩ := dispatched.step_of_overflow admitted zero deep
      rw [stepped]
      exact .overflowed journal dispatched admitted zero deep
    · have shallow := Int.not_le.mp deep
      obtain ⟨journal, stepped⟩ := dispatched.step_of_entry admitted zero shallow
      rw [stepped]
      exact .entered journal dispatched admitted zero shallow

/-- The cases of a step that executes a loop end. -/
theorem Dispatches.transition_of_loopEnd {m : Machine} {position : Nat}
    (dispatched : m.Dispatches position .loopEnd)
    (admitted : m.tape.refuses m.address = false)
    : Transition m m.step.1 m.step.2 := by
  cases inside : m.loops with
  | nil =>
      obtain ⟨journal, stepped⟩ := dispatched.step_of_unmatched admitted inside
      rw [stepped]
      exact .unmatched journal dispatched admitted inside
  | cons start loops =>
      by_cases zero : m.tape.peek m.address = 0
      · obtain ⟨journal, stepped⟩ := dispatched.step_of_leave admitted zero inside
        rw [stepped]
        exact .left journal dispatched admitted zero inside
      · obtain ⟨journal, stepped⟩ := dispatched.step_of_jump admitted zero inside
        rw [stepped]
        exact .repeated journal dispatched admitted zero inside

/-- A step is one of the listed cases. -/
theorem transition_step (m : Machine) : Transition m m.step.1 m.step.2 := by
  by_cases past : m.done = true
  · rw [step_of_done past]
    exact .ended past
  by_cases before : m.pc < 0
  · rw [step_of_misplaced before]
    exact .misplaced before
  obtain ⟨position, byte, fetched⟩ :=
    fetches_of_inside (by simpa using past) (by omega : 0 ≤ m.pc)
  by_cases skipping : 0 < m.skip
  · rw [fetched.step_of_skipping skipping]
    exact .scanned fetched skipping
  cases means : Instruction.ofByte? byte with
  | none => exact fetched.transition_of_comment skipping means
  | some instruction =>
      have dispatched : m.Dispatches position instruction :=
        ⟨Instruction.ofByte?_eq_some_iff.mp means ▸ fetched, skipping⟩
      rcases instruction.command_or_bracket with ⟨command, rfl⟩ | bracket
      · obtain ⟨journal, stepped⟩ := dispatched.step_of_command
        rw [stepped]
        exact .commanded journal dispatched
      · cases refused : m.tape.refuses m.address with
        | true =>
            obtain ⟨journal, stepped⟩ := dispatched.step_of_refused bracket refused
            rw [stepped]
            exact .refused journal dispatched bracket refused
        | false =>
            rcases bracket with rfl | rfl
            · exact dispatched.transition_of_loopStart refused
            · exact dispatched.transition_of_loopEnd refused

/-- The result of a step is one of the listed cases. -/
theorem transition_of_step {m next : Machine} {outcome : Outcome}
    (stepped : m.step = (outcome, next))
    : Transition m outcome next := by
  have transition := m.transition_step
  rw [stepped] at transition
  exact transition

end Machine

end TapeMachine
