import TapeMachine.Proofs.Loops.Stack
import TapeMachine.Proofs.Structured.Block

/-! A machine inside the text of a structured program, and how each part of it moves the machine
on. The lemmas say where the machine stands afterwards and what its store is then; only the number
of steps and the journal are left open.
-/

namespace TapeMachine

/-- The run goes on after the step. -/
def Outcome.goesOn : Outcome → Bool
  | .next => true
  | .interrupted _ => true
  | _ => false

namespace Machine

-----------------------------------------------------------------------------------------
-- Stretches of a run, and how runs halt
-----------------------------------------------------------------------------------------

/-- A machine comes to another in a number of steps, after each of which the run goes on. -/
structure Leads (m : Machine) (count : Nat) (next : Machine) : Prop where
  after : m.after count = next
  goesOn : ∀ index < count, (m.outcome index).goesOn = true

theorem Leads.refl (m : Machine) : m.Leads 0 m :=
  ⟨rfl, fun index below => absurd below (Nat.not_lt_zero index)⟩

/-- One step leads to its result. -/
theorem Leads.of_step {m next : Machine} {outcome : Outcome}
    (stepped : m.step = (outcome, next)) (goesOn : outcome.goesOn = true)
    : m.Leads 1 next := by
  refine ⟨by simp only [Machine.after, stepped], fun index below => ?_⟩
  obtain rfl : index = 0 := by omega
  simpa only [Machine.outcome, Machine.after, stepped] using goesOn

/-- Stretches of a run can be joined. -/
theorem Leads.trans {m middle next : Machine} {first second : Nat}
    (begins : m.Leads first middle) (continues : middle.Leads second next)
    : m.Leads (first + second) next := by
  refine ⟨by rw [after_add, begins.after, continues.after], fun index below => ?_⟩
  by_cases early : index < first
  · exact begins.goesOn index early
  · obtain ⟨rest, rfl⟩ := Nat.exists_eq_add_of_le (Nat.le_of_not_lt early)
    rw [outcome_add, begins.after]
    exact continues.goesOn rest (by omega)

/-- The next step ends the run, as an ending says. -/
def EndsWith (m : Machine) : Ending → Prop
  | .finished store => m.step.1 = .done ∧ m.store = store
  | .failed error store => m.step.1 = .failed error ∧ m.step.2.store = store

/-- A run goes on for a number of steps, and the next one ends it. -/
structure Halts (m : Machine) (count : Nat) (ending : Ending) : Prop where
  goesOn : ∀ index < count, (m.outcome index).goesOn = true
  ends : (m.after count).EndsWith ending

/-- A step that ends the run does not go on. -/
theorem EndsWith.stops {m : Machine} {ending : Ending} (ends : m.EndsWith ending)
    : m.step.1.goesOn = false := by
  cases ending with
  | finished => rw [ends.1]; rfl
  | failed => rw [ends.1]; rfl

/-- A step ends a run in one way only. -/
theorem EndsWith.unique {m : Machine} {ending other : Ending} (ends : m.EndsWith ending)
    (also : m.EndsWith other)
    : other = ending := by
  cases ending with
  | finished store =>
      cases other with
      | finished => rw [← ends.2, ← also.2]
      | failed => exact absurd (ends.1.symm.trans also.1) (by simp)
  | failed error store =>
      cases other with
      | finished => exact absurd (ends.1.symm.trans also.1) (by simp)
      | failed =>
          obtain rfl := Outcome.failed.inj (ends.1.symm.trans also.1)
          rw [← ends.2, ← also.2]

/-- A stretch that leads to the last step is a run that halts. -/
theorem Leads.halts {m next : Machine} {count : Nat} {ending : Ending}
    (leads : m.Leads count next) (ends : next.EndsWith ending)
    : m.Halts count ending :=
  ⟨leads.goesOn, leads.after ▸ ends⟩

/-- A run that halts gets to every machine that the steps lead to, and halts from there. -/
theorem Halts.rest {m next : Machine} {total count : Nat} {ending : Ending}
    (halts : m.Halts total ending) (leads : m.Leads count next)
    : ∃ rest, total = count + rest ∧ next.Halts rest ending := by
  have within : count ≤ total := by
    apply Nat.le_of_not_lt
    intro beyond
    have goes := leads.goesOn total beyond
    have stops := halts.ends.stops
    simp only [Machine.outcome, stops, Bool.false_eq_true] at goes
  obtain ⟨rest, rfl⟩ := Nat.exists_eq_add_of_le within
  refine ⟨rest, rfl, fun index below => ?_, ?_⟩
  · rw [← leads.after, ← outcome_add]
    exact halts.goesOn (count + index) (by omega)
  · rw [← leads.after, ← after_add]
    exact halts.ends

end Machine

-----------------------------------------------------------------------------------------
-- Text in a program
-----------------------------------------------------------------------------------------

/-- The program has a list of bytes at a position. -/
def Program.Spells (program : Program) : Nat → List UInt8 → Prop
  | _, [] => True
  | start, byte :: rest => program.byte? start = some byte ∧ program.Spells (start + 1) rest

/-- Text one behind the other. -/
theorem Program.spells_append {program : Program} {start : Nat} {first second : List UInt8}
    : program.Spells start (first ++ second)
      ↔ program.Spells start first ∧ program.Spells (start + first.length) second := by
  induction first generalizing start with
  | nil => simp [Spells]
  | cons byte rest ih =>
      simp only [List.cons_append, Spells, ih, List.length_cons, and_assoc,
        Nat.add_assoc, Nat.add_comm 1]

/-- A program has its own bytes behind any part of them. -/
theorem Program.spells_of_eq_append {program : Program} {before bytes : List UInt8}
    (text : program.code.toList = before ++ bytes)
    : program.Spells before.length bytes := by
  induction bytes generalizing before with
  | nil => trivial
  | cons byte rest ih =>
      refine ⟨?_, ?_⟩
      · unfold Program.byte?
        rw [← Array.getElem?_toList, text, List.getElem?_append_right (Nat.le_refl _)]
        simp
      · have later := @ih (before ++ [byte]) (by simpa using text)
        simpa using later

namespace Machine

-----------------------------------------------------------------------------------------
-- Skipping a block
-----------------------------------------------------------------------------------------

/-- While a loop is skipped, a byte that is no bracket is passed over. -/
theorem leads_of_skipped_byte {m : Machine} {position : Nat} {byte : UInt8}
    (fetched : m.Fetches position byte) (skipping : 0 < m.skip)
    (notStart : byte ≠ Instruction.loopStart.toByte)
    (notEnd : byte ≠ Instruction.loopEnd.toByte)
    : m.Leads 1 { m with pc := m.pc + 1 } := by
  have stepped := fetched.step_of_skipping skipping
  rw [countBracket_other _ notStart notEnd] at stepped
  exact Leads.of_step stepped rfl

/-- The number of steps and the position that a stretch leads to, said in other words. -/
theorem Leads.restate {m base : Machine} {count others position place : Nat}
    (leads : m.Leads count { base with pc := (position : Nat) }) (same : count = others)
    (there : position = place)
    : m.Leads others { base with pc := (place : Nat) } :=
  same ▸ there ▸ leads

/-- The text of a block is skipped without a trace: brackets in it are counted up and down again.
-/
theorem leads_of_skipped_block (block : Block) {m : Machine} {start : Nat}
    (pc : m.pc = start) (text : m.program.Spells start block.bytes) (skipping : 0 < m.skip)
    (room : m.skip.toInt + block.depth < 0x8000000000000000)
    : m.Leads block.size { m with pc := (start + block.size : Nat) } := by
  induction block generalizing m start with
  | done =>
      have same : { m with pc := (start + 0 : Nat) } = m := by rw [Nat.add_zero, ← pc]
      simpa only [Block.size_done, same] using Leads.refl m
  | command command rest ih =>
      have first := leads_of_skipped_byte ⟨pc, text.1⟩ skipping
        (by cases command <;> decide) (by cases command <;> decide)
      have later := @ih { m with pc := m.pc + 1 } (start + 1) (by rw [pc]; rfl) text.2
        skipping room
      exact (first.trans later).restate (by rw [Block.size_command]; omega)
        (by rw [Block.size_command]; omega)
  | comment byte silent rest ih =>
      have first := leads_of_skipped_byte ⟨pc, text.1⟩ skipping
        (by rintro rfl; simp [Instruction.ofByte?_toByte] at silent)
        (by rintro rfl; simp [Instruction.ofByte?_toByte] at silent)
      have later := @ih { m with pc := m.pc + 1 } (start + 1) (by rw [pc]; rfl) text.2
        skipping room
      exact (first.trans later).restate (by rw [Block.size_comment]; omega)
        (by rw [Block.size_comment]; omega)
  | loop body rest bodyIH restIH =>
      simp only [Block.depth] at room
      obtain ⟨opens, inner⟩ := text
      obtain ⟨bodyText, closes, restText⟩ := Program.spells_append.mp inner
      -- Inside of the loop one more loop is to be closed, for which there is room by the depth.
      have more : (m.skip + 1).toInt = m.skip.toInt + 1 := toInt_succ_of_lt (by omega)
      have positive := skipping
      rw [Int64.lt_iff_toInt_lt, Int64.toInt_zero] at positive
      have deeper : 0 < m.skip + 1 := by
        rw [Int64.lt_iff_toInt_lt, Int64.toInt_zero, more]
        omega
      have opened : m.Leads 1 { m with pc := m.pc + 1, skip := m.skip + 1 } := by
        have stepped := Fetches.step_of_skipping ⟨pc, opens⟩ skipping
        rw [countBracket_loopStart] at stepped
        exact Leads.of_step stepped rfl
      have passed := @bodyIH { m with pc := m.pc + 1, skip := m.skip + 1 } (start + 1)
        (by rw [pc]; rfl) bodyText deeper (by simp only [more]; omega)
      have closed
          : Leads { m with pc := (start + 1 + body.size : Nat), skip := m.skip + 1 } 1
              { m with pc := (start + 1 + body.size + 1 : Nat) } := by
        have stepped := Fetches.step_of_skipping
          (m := { m with pc := (start + 1 + body.size : Nat), skip := m.skip + 1 })
          ⟨rfl, closes⟩ deeper
        rw [countBracket_loopEnd] at stepped
        simp only [Int64.add_sub_cancel] at stepped
        exact Leads.of_step stepped rfl
      have later := @restIH { m with pc := (start + 1 + body.size + 1 : Nat) }
        (start + 1 + body.size + 1) rfl restText skipping
        (show m.skip.toInt + (rest.depth : Int) < 0x8000000000000000 by omega)
      exact (((opened.trans passed).trans closed).trans later).restate
        (by rw [Block.size_loop]; omega) (by rw [Block.size_loop]; omega)

-----------------------------------------------------------------------------------------
-- Standing in the text
-----------------------------------------------------------------------------------------

/-- A machine with the settings of another stands at a position inside some loops, skips nothing
and has a given store.
-/
structure At (origin m : Machine) (position : Nat) (loops : List Nat) (store : Store) : Prop where
  settings : origin.SameSettings m
  pc : m.pc = position
  loops : m.loops = loops
  skip : m.skip = 0
  store : m.store = store

namespace At

variable {origin m : Machine} {position : Nat} {loops : List Nat} {store : Store}

theorem normal (place : origin.At m position loops store) : ¬0 < m.skip := by
  rw [place.skip]
  decide

theorem fetches (place : origin.At m position loops store) {byte : UInt8}
    (text : origin.program.byte? position = some byte)
    : m.Fetches position byte :=
  ⟨place.pc, by rw [place.settings.program, text]⟩

theorem dispatches (place : origin.At m position loops store) {instruction : Instruction}
    (text : origin.program.byte? position = some instruction.toByte)
    : m.Dispatches position instruction :=
  ⟨place.fetches text, place.normal⟩

/-- After a step that only moves the program counter on, by way of a new store. -/
theorem of_advanced (place : origin.At m position loops store) {next : Machine} {after : Store}
    (settings : m.SameSettings next) (pc : next.pc = m.pc + 1) (kept : next.loops = m.loops)
    (skip : next.skip = m.skip) (changed : next.store = after)
    : origin.At next (position + 1) loops after where
  settings := place.settings.trans settings
  pc := by rw [pc, place.pc]; rfl
  loops := kept.trans place.loops
  skip := skip.trans place.skip
  store := changed

/-- A comment is passed, whether it interrupts the run or not. -/
theorem comment (place : origin.At m position loops store) {byte : UInt8}
    (text : origin.program.byte? position = some byte)
    (silent : Instruction.ofByte? byte = none)
    : ∃ next, m.Leads 1 next ∧ origin.At next (position + 1) loops store := by
  have fetched := place.fetches text
  have settings := m.sameSettings_step
  by_cases marked : byte = breakMark ∧ m.breakpoints = true
  · obtain ⟨rfl, breaks⟩ := marked
    obtain ⟨journal, stepped⟩ := fetched.step_of_break place.normal breaks
    rw [stepped] at settings
    exact ⟨_, .of_step stepped rfl, place.of_advanced settings rfl rfl rfl place.store⟩
  · have stepped := fetched.step_of_comment place.normal silent marked
    rw [stepped] at settings
    exact ⟨_, .of_step stepped rfl, place.of_advanced settings rfl rfl rfl place.store⟩

/-- A command that succeeds changes the store. -/
theorem command (place : origin.At m position loops store) {command : StoreCommand} {after : Store}
    (text : origin.program.byte? position = some command.toInstruction.toByte)
    (effect : command.exec origin.endOfInput store = (none, after))
    : ∃ next, m.Leads 1 next ∧ origin.At next (position + 1) loops after := by
  obtain ⟨journal, stepped⟩ := (place.dispatches text).step_of_command
  rw [place.store, place.settings.endOfInput, effect] at stepped
  have settings := m.sameSettings_step
  rw [stepped] at settings
  exact ⟨_, .of_step stepped rfl, place.of_advanced settings rfl rfl rfl rfl⟩

/-- A command that fails ends the run. -/
theorem fault (place : origin.At m position loops store) {command : StoreCommand} {fault : Fault}
    {after : Store}
    (text : origin.program.byte? position = some command.toInstruction.toByte)
    (effect : command.exec origin.endOfInput store = (some fault, after))
    : m.EndsWith
        (.failed ⟨position, store.address, command.toInstruction, fault⟩ after) := by
  obtain ⟨journal, stepped⟩ := (place.dispatches text).step_of_command
  rw [place.store, place.settings.endOfInput, effect] at stepped
  have address : m.address = store.address := by rw [← place.store]; rfl
  refine ⟨?_, ?_⟩
  · rw [stepped, ← address]
    rfl
  · rw [stepped]
    rfl

/-- A loop start on a refused cell ends the run. -/
theorem refused (place : origin.At m position loops store) {cause : Exhausted}
    (text : origin.program.byte? position = some Instruction.loopStart.toByte)
    (test : store.tape.get store.address = .error cause)
    : m.EndsWith
        (.failed ⟨position, store.address, .loopStart, .exhausted cause⟩ store) := by
  obtain ⟨refused, rfl⟩ := Store.test_error test
  obtain rfl := place.store
  obtain ⟨journal, stepped⟩ :=
    (place.dispatches text).step_of_refused (Or.inl rfl) refused
  refine ⟨?_, ?_⟩
  · rw [stepped]
    rfl
  · rw [stepped]
    rfl

/-- A loop start on a cell that is not zero enters the loop, if there is room for one more. -/
theorem entry (place : origin.At m position loops store) {value : UInt8} {tape : Tape}
    (text : origin.program.byte? position = some Instruction.loopStart.toByte)
    (test : store.tape.get store.address = .ok (value, tape)) (nonzero : value ≠ 0)
    (room : loops.length < origin.maxDepth)
    : ∃ next,
        m.Leads 1 next
        ∧ origin.At next (position + 1) (position :: loops) { store with tape } := by
  obtain ⟨admitted, rfl, rfl⟩ := Store.test_ok test
  obtain rfl := place.store
  obtain rfl := place.loops
  obtain ⟨journal, stepped⟩ := (place.dispatches text).step_of_entry admitted nonzero
    (by rw [place.settings.maxDepth]; exact room)
  have settings := m.sameSettings_step
  rw [stepped] at settings
  exact ⟨_, .of_step stepped rfl, place.settings.trans settings,
    by change m.pc + 1 = _; rw [place.pc]; rfl, rfl, place.skip, rfl⟩

/-- A loop end on a cell that is not zero goes back to the start of the loop. -/
theorem jump {start : Nat} (place : origin.At m position (start :: loops) store)
    (text : origin.program.byte? position = some Instruction.loopEnd.toByte)
    (holds : store.HoldsCell) (nonzero : store.tape.peek store.address ≠ 0)
    : ∃ next, m.Leads 1 next ∧ origin.At next start loops store := by
  obtain rfl := place.store
  obtain ⟨journal, stepped⟩ := (place.dispatches text).step_of_jump holds.not_refused
    nonzero place.loops
  have settings := m.sameSettings_step
  rw [stepped] at settings
  exact ⟨_, .of_step stepped rfl, place.settings.trans settings, rfl, rfl, place.skip,
    congrArg (fun tape => { m.store with tape }) holds.extend_eq⟩

/-- A loop end on a zero cell is passed and leaves the loop. -/
theorem leave {start : Nat} (place : origin.At m position (start :: loops) store)
    (text : origin.program.byte? position = some Instruction.loopEnd.toByte)
    (holds : store.HoldsCell) (zero : store.tape.peek store.address = 0)
    : ∃ next, m.Leads 1 next ∧ origin.At next (position + 1) loops store := by
  obtain rfl := place.store
  obtain ⟨journal, stepped⟩ := (place.dispatches text).step_of_leave holds.not_refused
    zero place.loops
  have settings := m.sameSettings_step
  rw [stepped] at settings
  exact ⟨_, .of_step stepped rfl, place.settings.trans settings,
    by change m.pc + 1 = _; rw [place.pc]; rfl, rfl, place.skip,
    congrArg (fun tape => { m.store with tape }) holds.extend_eq⟩

/-- A loop start on a zero cell leads behind the loop: its body is skipped, and the loop end that
closes it stops the skipping.
-/
theorem bypass (place : origin.At m position loops store) {body rest : Block} {tape : Tape}
    (text : origin.program.Spells position (Block.loop body rest).bytes)
    (test : store.tape.get store.address = .ok (0, tape))
    (small : body.depth + 1 < 0x8000000000000000)
    : ∃ count next,
        m.Leads count next
        ∧ 0 < count
        ∧ origin.At next (position + body.size + 2) loops { store with tape } := by
  obtain ⟨opens, inner⟩ := text
  obtain ⟨bodyText, closes, _⟩ := Program.spells_append.mp inner
  obtain ⟨admitted, zero, rfl⟩ := Store.test_ok test
  obtain rfl := place.store
  obtain ⟨journal, stepped⟩ := (place.dispatches opens).step_of_bypass admitted zero.symm
  have program := place.settings.program
  have one : (0 : Int64) < 1 := by decide
  -- The machine behind the loop start, at its end, and behind it.
  let skipping := { m.advanced m.reached journal with skip := 1 }
  let closing := { skipping with pc := (position + 1 + body.size : Nat) }
  let behind := { closing with pc := closing.pc + 1, skip := closing.skip - 1 }
  have started : m.Leads 1 skipping := .of_step stepped rfl
  have skipped : skipping.Leads body.size closing :=
    leads_of_skipped_block body (by change m.pc + 1 = _; rw [place.pc]; rfl)
      (program ▸ bodyText) one (by change 1 + (body.depth : Int) < _; omega)
  have finished : closing.Leads 1 behind := by
    have fetched : closing.Fetches (position + 1 + body.size) Instruction.loopEnd.toByte :=
      ⟨rfl, program ▸ closes⟩
    have last := fetched.step_of_skipping one
    rw [countBracket_loopEnd] at last
    exact .of_step last rfl
  have settings : m.SameSettings skipping := by
    have kept := m.sameSettings_step
    rwa [stepped] at kept
  refine ⟨1 + body.size + 1, behind, (started.trans skipped).trans finished, by omega, ?_⟩
  exact ⟨place.settings.trans ⟨settings.program, settings.limit, settings.maxDepth,
    settings.endOfInput, settings.breakpoints⟩,
    by change ((position + 1 + body.size : Nat) : Int) + 1 = _; omega,
    place.loops, Int64.sub_self 1, rfl⟩

end At

end Machine

end TapeMachine
