import TapeMachine.Proofs.Loops.Brackets
import TapeMachine.Proofs.Machine.History

/-! The loop stack and the skip counter of a machine mirror the brackets of its program.
Before every step that can be reached, the loops open in the text before the program counter are,
from the inside to the outside, those being skipped and then those that were entered. Jumping back
keeps this, as the text before a loop start has exactly the outer loops open.
-/

namespace TapeMachine

namespace Machine

theorem countBracket_loopStart (m : Machine)
    : m.countBracket Instruction.loopStart.toByte = { m with skip := m.skip + 1 } := by
  simp only [countBracket, Instruction.ofByte?_toByte]

theorem countBracket_loopEnd (m : Machine)
    : m.countBracket Instruction.loopEnd.toByte = { m with skip := m.skip - 1 } := by
  simp only [countBracket, Instruction.ofByte?_toByte]

/-- While a loop is skipped, any other byte is passed over. -/
theorem countBracket_other (m : Machine) {byte : UInt8}
    (notStart : byte ≠ Instruction.loopStart.toByte)
    (notEnd : byte ≠ Instruction.loopEnd.toByte)
    : m.countBracket byte = m := by
  unfold countBracket
  split
  · rename_i means
    exact absurd (Instruction.ofByte?_eq_some_iff.mp means) notStart
  · rename_i means
    exact absurd (Instruction.ofByte?_eq_some_iff.mp means) notEnd
  · rfl

/-- While a loop is skipped, a comment is passed over. -/
theorem countBracket_of_comment (m : Machine) {byte : UInt8}
    (comment : Instruction.ofByte? byte = none)
    : m.countBracket byte = m := by
  unfold countBracket
  rw [comment]

/-- A byte that is taken and no bracket neither starts nor ends a loop. -/
theorem Fetches.not_bracket {m : Machine} {position : Nat} {byte : UInt8}
    (fetched : m.Fetches position byte)
    (notStart : byte ≠ Instruction.loopStart.toByte)
    (notEnd : byte ≠ Instruction.loopEnd.toByte)
    : ¬m.program.StartsLoop position ∧ ¬m.program.EndsLoop position :=
  ⟨fun starts => notStart (Option.some.inj (fetched.byte.symm.trans starts)),
    fun ends => notEnd (Option.some.inj (fetched.byte.symm.trans ends))⟩

/-- The registers of a machine fit the text before its program counter: the open loops are those
being skipped and, outside of them, those that were entered.
-/
structure LoopsFit (m : Machine) (position : Nat) (skipped : List Nat) : Prop where
  pc : m.pc = position
  inside : position ≤ m.program.size
  stack : m.program.openLoops position = skipped ++ m.loops
  count : (skipped.length : Int) = m.skip.toInt

namespace LoopsFit

variable {m : Machine} {position : Nat} {skipped : List Nat}

/-- The number of skipped loops is far from the greatest word. -/
theorem count_le (fit : m.LoopsFit position skipped) : m.skip.toInt ≤ position := by
  have bound := m.program.length_openLoops_le position
  have count := fit.count
  simp only [fit.stack, List.length_append] at bound
  omega

/-- When no loop is skipped, the machine entered all open loops. -/
theorem loops_eq (fit : m.LoopsFit position skipped) (normal : ¬0 < m.skip)
    : skipped = [] ∧ m.loops = m.program.openLoops position := by
  rw [Int64.lt_iff_toInt_lt, Int64.toInt_zero] at normal
  have count := fit.count
  have none : skipped = [] := List.length_eq_zero_iff.mp (by omega)
  exact ⟨none, by rw [fit.stack, none, List.nil_append]⟩

/-- A step that goes on to the next byte over a byte which is no bracket keeps the fit. -/
theorem pass (fit : m.LoopsFit position skipped) {next : Machine}
    (inside : position < m.program.size)
    (notStart : ¬m.program.StartsLoop position) (notEnd : ¬m.program.EndsLoop position)
    (program : next.program = m.program) (pc : next.pc = m.pc + 1)
    (loops : next.loops = m.loops) (skip : next.skip = m.skip)
    : next.LoopsFit (position + 1) skipped where
  pc := by rw [pc, fit.pc]; rfl
  inside := by rw [program]; omega
  stack := by rw [program, loops, Program.openLoops_of_other notStart notEnd, fit.stack]
  count := by rw [skip, fit.count]

/-- A step while a loop is skipped keeps the fit. -/
theorem scan (fit : m.LoopsFit position skipped) {byte : UInt8}
    (fetched : m.Fetches position byte) (skipping : 0 < m.skip)
    (small : m.program.size < 0x8000000000000000)
    : ∃ skipped,
        ({ m with pc := m.pc + 1 }.countBracket byte).LoopsFit (position + 1) skipped := by
  have inside := fetched.position_lt
  have nextPc : m.pc + 1 = ((position + 1 : Nat) : Int) := by rw [fit.pc]; rfl
  -- A loop start is put on the list of the loops to be closed, and a loop end takes one off.
  by_cases start : byte = Instruction.loopStart.toByte
  · subst start
    have bound := fit.count_le
    rw [countBracket_loopStart]
    refine ⟨position :: skipped, nextPc, inside, ?_, ?_⟩
    · change m.program.openLoops (position + 1) = _
      rw [Program.openLoops_of_starts fetched.byte, fit.stack, List.cons_append]
    · change _ = (m.skip + 1).toInt
      rw [toInt_succ_of_lt (by omega), ← fit.count]
      simp
  · by_cases stop : byte = Instruction.loopEnd.toByte
    · subst stop
      rw [countBracket_loopEnd]
      have count := fit.count
      have positive := skipping
      rw [Int64.lt_iff_toInt_lt, Int64.toInt_zero] at positive
      cases skipped with
      | nil => simp only [List.length_nil] at count; omega
      | cons innermost outer =>
          refine ⟨outer, nextPc, inside, ?_, ?_⟩
          · change m.program.openLoops (position + 1) = _
            rw [Program.openLoops_of_ends fetched.byte, fit.stack]
            rfl
          · change _ = (m.skip - 1).toInt
            rw [toInt_pred_of_lt (by omega), ← count]
            simp
    · rw [countBracket_other _ start stop]
      obtain ⟨notStart, notEnd⟩ := fetched.not_bracket start stop
      exact ⟨skipped, fit.pass inside notStart notEnd rfl rfl rfl rfl⟩

/-- The next byte is taken from the position that the registers fit. -/
theorem position_eq (fit : m.LoopsFit position skipped) {other : Nat} {byte : UInt8}
    (fetched : m.Fetches other byte)
    : other = position := by
  have first := fit.pc
  have second := fetched.pc
  omega

/-- A zero cell at a loop start makes this loop the only one being skipped. -/
theorem bypass (fit : m.LoopsFit position skipped)
    (dispatched : m.Dispatches position .loopStart) (journal : Array Event)
    : { m.advanced m.reached journal with skip := 1 }.LoopsFit (position + 1) [position] where
  pc := by change m.pc + 1 = _; rw [fit.pc]; rfl
  inside := dispatched.fetched.position_lt
  stack := by
    change m.program.openLoops (position + 1) = [position] ++ m.loops
    rw [Program.openLoops_of_starts dispatched.fetched.byte,
      (fit.loops_eq dispatched.normal).2, List.singleton_append]
  count := rfl

/-- Entering a loop puts it on top of the loops that were entered before. -/
theorem enter (fit : m.LoopsFit position skipped)
    (dispatched : m.Dispatches position .loopStart) (journal : Array Event)
    : { m.advanced m.reached journal with loops := position :: m.loops }.LoopsFit
        (position + 1) [] where
  pc := by change m.pc + 1 = _; rw [fit.pc]; rfl
  inside := dispatched.fetched.position_lt
  stack := by
    change m.program.openLoops (position + 1) = position :: m.loops
    rw [Program.openLoops_of_starts dispatched.fetched.byte,
      (fit.loops_eq dispatched.normal).2]
  count := by
    change _ = m.skip.toInt
    rw [← fit.count, (fit.loops_eq dispatched.normal).1]

/-- Leaving a loop closes the innermost loop of the text, too. -/
theorem leave (fit : m.LoopsFit position skipped)
    (dispatched : m.Dispatches position .loopEnd) {start : Nat} {loops : List Nat}
    (inside : m.loops = start :: loops) (journal : Array Event)
    : { m.advanced m.reached journal with loops }.LoopsFit (position + 1) [] where
  pc := by change m.pc + 1 = _; rw [fit.pc]; rfl
  inside := dispatched.fetched.position_lt
  stack := by
    change m.program.openLoops (position + 1) = loops
    rw [Program.openLoops_of_ends dispatched.fetched.byte,
      ← (fit.loops_eq dispatched.normal).2, inside, List.tail_cons]
  count := by
    change _ = m.skip.toInt
    rw [← fit.count, (fit.loops_eq dispatched.normal).1]

/-- The innermost loop that was entered is the innermost one that is open. -/
theorem innermost (fit : m.LoopsFit position skipped) (normal : ¬0 < m.skip)
    {start : Nat} {loops : List Nat} (inside : m.loops = start :: loops)
    : m.program.openLoops position = start :: loops := by
  rw [← (fit.loops_eq normal).2, inside]

/-- Jumping back pops the loop, and where it starts just the outer loops are open. -/
theorem jump (fit : m.LoopsFit position skipped)
    (dispatched : m.Dispatches position .loopEnd) {start : Nat} {loops : List Nat}
    (inside : m.loops = start :: loops) (journal : Array Event)
    : { m.advanced m.reached journal with loops, pc := start }.LoopsFit start [] where
  pc := rfl
  inside := by
    have earlier :=
      (Program.openLoops_of_innermost (fit.innermost dispatched.normal inside)).2.2
    have below := dispatched.fetched.position_lt
    change start ≤ m.program.size
    omega
  stack := (Program.openLoops_of_innermost (fit.innermost dispatched.normal inside)).1
  count := by
    change _ = m.skip.toInt
    rw [← fit.count, (fit.loops_eq dispatched.normal).1]

/-- A step that does not fail keeps the fit, by the cases of a step. -/
theorem step (fit : m.LoopsFit position skipped) (small : m.program.size < 0x8000000000000000)
    (clean : m.step.1.isFailure = false)
    : ∃ position skipped, m.step.2.LoopsFit position skipped := by
  rcases stepped : m.step with ⟨outcome, next⟩
  rw [stepped] at clean
  cases transition_of_step stepped with
  | ended | misplaced => exact ⟨position, skipped, fit⟩
  | scanned fetched skipping =>
      obtain rfl := fit.position_eq fetched
      exact ⟨_, fit.scan fetched skipping small⟩
  | passed fetched _ comment _ =>
      obtain rfl := fit.position_eq fetched
      obtain ⟨notStart, notEnd⟩ := fetched.not_bracket
        (by rintro rfl; simp [Instruction.ofByte?_toByte] at comment)
        (by rintro rfl; simp [Instruction.ofByte?_toByte] at comment)
      exact ⟨_, skipped, fit.pass fetched.position_lt notStart notEnd rfl rfl rfl rfl⟩
  | interrupted journal fetched =>
      obtain rfl := fit.position_eq fetched
      obtain ⟨notStart, notEnd⟩ := fetched.not_bracket (by decide) (by decide)
      exact ⟨_, skipped, fit.pass fetched.position_lt notStart notEnd rfl rfl rfl rfl⟩
  | @commanded other command journal dispatched =>
      obtain rfl := fit.position_eq dispatched.fetched
      obtain ⟨notStart, notEnd⟩ := dispatched.fetched.not_bracket
        (by cases command <;> decide) (by cases command <;> decide)
      exact ⟨_, skipped, fit.pass dispatched.fetched.position_lt notStart notEnd
        rfl rfl rfl rfl⟩
  | refused | overflowed | unmatched => simp [Outcome.isFailure] at clean
  | bypassed journal dispatched =>
      obtain rfl := fit.position_eq dispatched.fetched
      exact ⟨_, _, fit.bypass dispatched journal⟩
  | entered journal dispatched =>
      obtain rfl := fit.position_eq dispatched.fetched
      exact ⟨_, _, fit.enter dispatched journal⟩
  | left journal dispatched _ _ inside =>
      obtain rfl := fit.position_eq dispatched.fetched
      exact ⟨_, _, fit.leave dispatched inside journal⟩
  | repeated journal dispatched _ _ inside =>
      obtain rfl := fit.position_eq dispatched.fetched
      exact ⟨_, _, fit.jump dispatched inside journal⟩

end LoopsFit

end Machine

-----------------------------------------------------------------------------------------
-- What the fit says of every state that is reached
-----------------------------------------------------------------------------------------

/-- The registers of a machine mirror the brackets of a program text up to its program counter. -/
structure MirrorsBrackets (program : Program) (m : Machine) : Prop where
  pc_nonneg : 0 ≤ m.pc
  pc_le : m.pc ≤ program.size
  /-- There are as many open loops as were entered and are being skipped together. -/
  length : ((program.openLoops m.pc.toNat).length : Int) = m.loops.length + m.skip.toInt
  /-- The loops that were entered are the outermost of the open ones, in the same order. -/
  bottom : m.loops <:+ program.openLoops m.pc.toNat
  skip_nonneg : 0 ≤ m.skip
  /-- From the outside to the inside, loops start at ever greater positions. -/
  increasing : m.loops.reverse.Pairwise (· < ·)
  starts : ∀ start ∈ m.loops, program.StartsLoop start
  /-- A loop end that succeeds jumps back just if it is executed on a cell that is not zero. -/
  jump
    : ∀ position,
        m.Fetches position Instruction.loopEnd.toByte
        → m.step.1.isFailure = false
        → m.skip = 0 ∧ m.tape.peek m.address ≠ 0
        → ∃ opening : Nat, program.Matches opening position ∧ m.step.2.pc = opening
  stay
    : ∀ position,
        m.Fetches position Instruction.loopEnd.toByte
        → ¬(m.skip = 0 ∧ m.tape.peek m.address ≠ 0)
        → m.step.2.pc = position + 1

/-- Where registers fit, a loop end that jumps back goes to the bracket that matches it: the
innermost loop that was entered is the innermost one that is open.
-/
theorem Machine.LoopsFit.jump_matches {m : Machine} {position : Nat} {skipped : List Nat}
    (fit : m.LoopsFit position skipped) (dispatched : m.Dispatches position .loopEnd)
    (clean : m.step.1.isFailure = false) (nonzero : m.tape.peek m.address ≠ 0)
    : ∃ opening : Nat, m.program.Matches opening position ∧ m.step.2.pc = opening := by
  cases refused : m.tape.refuses m.address with
  | true =>
      obtain ⟨journal, stepped⟩ := dispatched.step_of_refused (Or.inr rfl) refused
      simp [stepped, Outcome.isFailure] at clean
  | false =>
      cases inside : m.loops with
      | nil =>
          obtain ⟨journal, stepped⟩ := dispatched.step_of_unmatched refused inside
          simp [stepped, Outcome.isFailure] at clean
      | cons start loops =>
          obtain ⟨journal, stepped⟩ := dispatched.step_of_jump refused nonzero inside
          have innermost := fit.innermost dispatched.normal inside
          refine ⟨start, Program.EndsLoop.matches dispatched.fetched.byte innermost, ?_⟩
          rw [stepped]

/-- A loop end that is skipped, or executed on a zero cell, is passed. -/
theorem Machine.Fetches.pc_of_passed_end {m : Machine} {position : Nat}
    (fetched : m.Fetches position Instruction.loopEnd.toByte)
    (passes : 0 < m.skip ∨ m.tape.peek m.address = 0)
    : m.step.2.pc = m.pc + 1 := by
  by_cases skipping : 0 < m.skip
  · rw [fetched.step_of_skipping skipping, countBracket_loopEnd]
  · have zero := passes.resolve_left skipping
    have dispatched : m.Dispatches position .loopEnd := ⟨fetched, skipping⟩
    cases refused : m.tape.refuses m.address with
    | true =>
        obtain ⟨journal, stepped⟩ := dispatched.step_of_refused (Or.inr rfl) refused
        rw [stepped]
        rfl
    | false =>
        cases inside : m.loops with
        | nil =>
            obtain ⟨journal, stepped⟩ := dispatched.step_of_unmatched refused inside
            rw [stepped]
            rfl
        | cons start loops =>
            obtain ⟨journal, stepped⟩ := dispatched.step_of_leave refused zero inside
            rw [stepped]
            rfl

/-- Registers that fit the text mirror its brackets. -/
theorem Machine.LoopsFit.mirrors {m : Machine} {position : Nat} {skipped : List Nat}
    (fit : m.LoopsFit position skipped)
    : MirrorsBrackets m.program m := by
  have place : m.pc.toNat = position := by rw [fit.pc]; rfl
  have suffix : m.loops <:+ m.program.openLoops position := ⟨skipped, fit.stack.symm⟩
  have count := fit.count
  have nonneg : 0 ≤ m.skip := by
    rw [Int64.le_iff_toInt_le, Int64.toInt_zero]
    omega
  refine {
    pc_nonneg := by rw [fit.pc]; omega
    pc_le := by rw [fit.pc]; exact Int.ofNat_le.mpr fit.inside
    length := ?_
    bottom := by rw [place]; exact suffix
    skip_nonneg := nonneg
    increasing := ?_
    starts := fun start member => Program.startsLoop_of_mem (suffix.subset member)
    jump := ?_
    stay := ?_
  }
  · rw [place, fit.stack, List.length_append]
    omega
  · rw [List.pairwise_reverse]
    exact (m.program.pairwise_openLoops position).sublist suffix.sublist
  · intro closing fetched clean condition
    obtain rfl := fit.position_eq fetched
    have normal : ¬0 < m.skip := by rw [condition.1]; decide
    exact fit.jump_matches ⟨fetched, normal⟩ clean condition.2
  · intro closing fetched otherwise
    rw [fetched.pc_of_passed_end, fetched.pc]
    by_cases skipping : 0 < m.skip
    · exact Or.inl skipping
    · have idle : m.skip = 0 := Int64.le_antisymm (Int64.not_lt.mp skipping) nonneg
      exact Or.inr (by simpa [idle] using otherwise)

/-- Before its first step a machine has entered nothing and skips nothing. -/
theorem Setup.loopsFit_machine (setup : Setup) : setup.machine.LoopsFit 0 [] :=
  ⟨rfl, Nat.zero_le _, rfl, rfl⟩

/-- The registers fit the text after every number of steps before the first failure. -/
theorem Setup.loopsFit_after (setup : Setup) {count : Nat}
    (clean : setup.machine.ErrorFree count)
    : ∃ position skipped, (setup.machine.after count).LoopsFit position skipped := by
  have kept := clean.induct
    (motive := fun m =>
      m.program = setup.program ∧ ∃ position skipped, m.LoopsFit position skipped)
    ⟨rfl, 0, [], setup.loopsFit_machine⟩
    (fun m ⟨program, position, skipped, fit⟩ clean =>
      ⟨m.sameSettings_step.program.trans program,
        fit.step (program ▸ setup.size_lt) clean⟩)
  exact kept.2

/-- No step enters more loops than are allowed, by the cases of a step. -/
theorem Machine.length_loops_step {m : Machine} (allowed : (m.loops.length : Int) ≤ m.maxDepth)
    : (m.step.2.loops.length : Int) ≤ m.maxDepth := by
  rcases stepped : m.step with ⟨outcome, next⟩
  cases transition_of_step stepped with
  | scanned =>
      unfold countBracket
      split <;> exact allowed
  | entered _ _ _ _ shallow =>
      simp only [List.length_cons]
      omega
  | left _ _ _ _ inside | repeated _ _ _ _ inside =>
      rw [inside, List.length_cons] at allowed
      dsimp only
      omega
  | ended | misplaced | passed | interrupted | commanded | refused | bypassed | overflowed
  | unmatched => exact allowed

/-- A step takes the program counter past the byte that it took or back to a loop that was
entered, or takes it nowhere; by the cases of a step.
-/
theorem Machine.pc_step (m : Machine)
    : m.step.2.pc = m.pc
      ∨ (∃ position byte, m.Fetches position byte ∧ m.step.2.pc = position + 1)
      ∨ ∃ start ∈ m.loops, m.step.2.pc = start := by
  have onward {position : Nat} {byte : UInt8} (fetched : m.Fetches position byte)
      : ∃ position byte, m.Fetches position byte ∧ m.pc + 1 = position + 1 :=
    ⟨position, byte, fetched, by rw [fetched.pc]⟩
  rcases stepped : m.step with ⟨outcome, next⟩
  cases transition_of_step stepped with
  | ended | misplaced => exact .inl rfl
  | scanned fetched =>
      unfold countBracket
      split <;> exact .inr (.inl (onward fetched))
  | passed fetched | interrupted _ fetched => exact .inr (.inl (onward fetched))
  | commanded _ dispatched | refused _ dispatched | bypassed _ dispatched
  | overflowed _ dispatched | entered _ dispatched | unmatched _ dispatched
  | left _ dispatched => exact .inr (.inl (onward dispatched.fetched))
  | repeated _ _ _ _ entered => exact .inr (.inr ⟨_, entered ▸ List.mem_cons_self, rfl⟩)

/-- The loops after a step were entered before, or start where the program has one; by the cases
of a step.
-/
theorem Machine.mem_loops_step {m : Machine} {start : Nat} (member : start ∈ m.step.2.loops)
    : start ∈ m.loops ∨ m.program.StartsLoop start := by
  rcases stepped : m.step with ⟨outcome, next⟩
  rw [stepped] at member
  cases transition_of_step stepped with
  | scanned =>
      unfold countBracket at member
      split at member <;> exact .inl member
  | entered _ dispatched =>
      rcases List.mem_cons.mp member with rfl | outer
      · exact .inr dispatched.fetched.byte
      · exact .inl outer
  | left _ _ _ _ entered | repeated _ _ _ _ entered =>
      exact .inl (entered ▸ List.mem_cons_of_mem _ member)
  | ended | misplaced | passed | interrupted | commanded | refused | bypassed | overflowed
  | unmatched => exact .inl member

/-- No run enters more loops than are allowed, whether steps fail or not. -/
theorem Setup.length_loops_after (setup : Setup) (nonneg : 0 ≤ setup.maxDepth) (count : Nat)
    : ((setup.machine.after count).loops.length : Int) ≤ setup.maxDepth := by
  induction count with
  | zero => exact nonneg
  | succ count ih =>
      have depth := (setup.machine.sameSettings_after count).maxDepth
      have bound := Machine.length_loops_step (m := setup.machine.after count) (by rwa [depth])
      rwa [depth] at bound

/-- Whatever the program, balanced or not, and whatever the input and the settings: in every state
that is reached without an error the registers mirror the brackets of the program.
-/
theorem Setup.mirrorsBrackets_after (setup : Setup) (count : Nat)
    (clean : setup.machine.ErrorFree count)
    : MirrorsBrackets setup.program (setup.machine.after count) := by
  obtain ⟨position, skipped, fit⟩ := setup.loopsFit_after clean
  have program : (setup.machine.after count).program = setup.program :=
    (setup.machine.sameSettings_after count).program
  exact program ▸ fit.mirrors

/-- A loop whose body skips two nested loops on a zero cell and comes back to a cell that is not
zero.
-/
def nestedLoops : Setup :=
  { program := { code := #[0x2b, 0x5b, 0x3e, 0x5b, 0x5b, 0x5d, 0x5d, 0x3c, 0x5d] }
    size_lt := by decide
    empty_of_absent := by decide }

theorem Setup.mirrorsBrackets_after_nested
    : nestedLoops.machine.ErrorFree 8
      ∧ MirrorsBrackets nestedLoops.program (nestedLoops.machine.after 5)
      ∧ (nestedLoops.machine.after 5).skip = 2
      ∧ ∃ opening : Nat,
          nestedLoops.program.Matches opening 8
          ∧ (nestedLoops.machine.after 8).step.2.pc = opening := by
  have clean : nestedLoops.machine.ErrorFree 8 := by decide
  exact ⟨clean, Setup.mirrorsBrackets_after nestedLoops 5 (clean.of_le (by decide)),
    by decide,
    (Setup.mirrorsBrackets_after nestedLoops 8 clean).jump 8 ⟨by decide, by decide⟩
      (by decide) (by decide)⟩

end TapeMachine
