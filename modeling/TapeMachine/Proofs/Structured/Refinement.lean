import TapeMachine.Proofs.Structured.Placement

/-! A machine that runs the text of a structured program does what the structured program means.
Every ending that the meaning has is one the machine comes to, by induction on the run of the
structured program; every ending the machine comes to is one that the meaning has, by induction on
the number of steps. Loops are where the two differ most: the machine comes back to the start of a
loop only when the cell is not zero, and otherwise leaves it from its end.
-/

namespace TapeMachine

namespace Machine

/-- The machine about to run the text of a structured program from the start. -/
def load (m : Machine) (block : Block) : Machine :=
  { m with
    program := { code := block.bytes.toArray }
    pc := 0
    loops := []
    skip := 0 }

/-- There is room for a block at a position inside some loops: its text stands there, its length is
a word, and its loops may be entered.
-/
structure Room (origin : Machine) (start : Nat) (block : Block) (loops : List Nat) : Prop where
  text : origin.program.Spells start block.bytes
  small : block.size < 0x8000000000000000
  shallow : (loops.length + block.depth : Int) ≤ origin.maxDepth

namespace Room

variable {origin : Machine} {start : Nat} {loops : List Nat} {body rest : Block}

/-- Room for what follows a command. -/
theorem behindCommand {command : StoreCommand}
    (room : origin.Room start (.command command rest) loops)
    : origin.Room (start + 1) rest loops := by
  obtain ⟨text, small, shallow⟩ := room
  rw [Block.size_command] at small
  exact ⟨text.2, by omega, shallow⟩

/-- Room for what follows a comment. -/
theorem behindComment {byte : UInt8} {silent : Instruction.ofByte? byte = none}
    (room : origin.Room start (.comment byte silent rest) loops)
    : origin.Room (start + 1) rest loops := by
  obtain ⟨text, small, shallow⟩ := room
  rw [Block.size_comment] at small
  exact ⟨text.2, by omega, shallow⟩

/-- Room for the body of a loop, once the loop is entered. -/
theorem inside (room : origin.Room start (.loop body rest) loops)
    : origin.Room (start + 1) body (start :: loops) := by
  obtain ⟨text, small, shallow⟩ := room
  rw [Block.size_loop] at small
  simp only [Block.depth] at shallow
  refine ⟨(Program.spells_append.mp text.2).1, by omega, ?_⟩
  rw [List.length_cons]
  omega

/-- Room for what follows a loop. -/
theorem behindLoop (room : origin.Room start (.loop body rest) loops)
    : origin.Room (start + body.size + 2) rest loops := by
  obtain ⟨text, small, shallow⟩ := room
  rw [Block.size_loop] at small
  simp only [Block.depth] at shallow
  have later := (Program.spells_append.mp text.2).2.2
  have place : start + 1 + body.bytes.length + 1 = start + body.size + 2 := by
    rw [Block.size]
    omega
  exact ⟨place ▸ later, by omega, by omega⟩

theorem opens (room : origin.Room start (.loop body rest) loops)
    : origin.program.byte? start = some Instruction.loopStart.toByte :=
  room.text.1

theorem closes (room : origin.Room start (.loop body rest) loops)
    : origin.program.byte? (start + 1 + body.size) = some Instruction.loopEnd.toByte :=
  (Program.spells_append.mp room.text.2).2.1

/-- One more loop may be entered where a loop begins. -/
theorem enterable (room : origin.Room start (.loop body rest) loops)
    : loops.length < origin.maxDepth := by
  have shallow := room.shallow
  simp only [Block.depth] at shallow
  omega

/-- The loops inside a loop can be counted while it is skipped. -/
theorem countable (room : origin.Room start (.loop body rest) loops)
    : body.depth + 1 < 0x8000000000000000 := by
  have small := room.small
  have bound := body.depth_le_size
  rw [Block.size_loop] at small
  omega

end Room

-----------------------------------------------------------------------------------------
-- The machine comes to every ending of a block
-----------------------------------------------------------------------------------------

/-- A machine is about to run a block: it stands at the first byte or, if the block is a loop, at
the end of a turn of it.
-/
inductive Faces (origin m : Machine) (start : Nat) (block : Block) (loops : List Nat)
    (store : Store) : Prop
  | front (place : origin.At m start loops store)
  | turned {body rest} (shape : block = .loop body rest)
    (place : origin.At m (start + 1 + body.size) (start :: loops) store)
    (holds : store.HoldsCell)

/-- On a cell that is not zero a loop is begun from its start, whichever bracket is faced. -/
theorem Faces.rewind {origin m : Machine} {start : Nat} {body rest : Block} {loops : List Nat}
    {store : Store} (faces : origin.Faces m start (.loop body rest) loops store)
    (room : origin.Room start (.loop body rest) loops)
    (nonzero : store.tape.peek store.address ≠ 0)
    : ∃ count opening, m.Leads count opening ∧ origin.At opening start loops store := by
  cases faces with
  | front place => exact ⟨0, m, .refl m, place⟩
  | turned shape place holds =>
      cases shape
      obtain ⟨opening, leads, placed⟩ := place.jump room.closes holds nonzero
      exact ⟨1, opening, leads, placed⟩

/-- The steps of a machine come to an ending of a block: they lead behind its text or fail. -/
def Reaches (origin m : Machine) (stop : Nat) (loops : List Nat) : Ending → Prop
  | .finished store => ∃ count next, m.Leads count next ∧ origin.At next stop loops store
  | .failed error store => ∃ count, m.Halts count (.failed error store)

/-- What comes to an ending later comes to it from the beginning. -/
theorem Leads.reaches {origin m next : Machine} {count stop : Nat} {loops : List Nat}
    {ending : Ending} (leads : m.Leads count next)
    (reaches : origin.Reaches next stop loops ending)
    : origin.Reaches m stop loops ending := by
  cases ending with
  | finished store =>
      obtain ⟨more, last, later, place⟩ := reaches
      exact ⟨count + more, last, leads.trans later, place⟩
  | failed error store =>
      obtain ⟨more, goesOn, ends⟩ := reaches
      have stretch : next.Leads more (next.after more) := ⟨rfl, goesOn⟩
      exact ⟨count + more, (leads.trans stretch).halts ends⟩

/-- A machine that faces a block comes to every ending of it. The induction is on the run of the
block; in the case of a loop the machine may stand at either bracket.
-/
theorem reaches_of_runs {origin : Machine} {start : Nat} {block : Block} {store : Store}
    {ending : Ending} (runs : block.Runs origin.endOfInput start store ending)
    {m : Machine} {loops : List Nat} (room : origin.Room start block loops)
    (faces : origin.Faces m start block loops store)
    : origin.Reaches m (start + block.size) loops ending := by
  induction runs generalizing m loops with
  | done =>
      cases faces with
      | front place => exact ⟨0, m, .refl m, place⟩
      | turned shape => cases shape
  | @comment start byte silent rest _ _ _ ih =>
      cases faces with
      | front place =>
          obtain ⟨next, leads, placed⟩ := place.comment room.text.1 silent
          have later := leads.reaches (ih room.behindComment (.front placed))
          rwa [Nat.add_right_comm, Nat.add_assoc] at later
      | turned shape => cases shape
  | @command start command rest _ _ _ effect _ ih =>
      cases faces with
      | front place =>
          obtain ⟨next, leads, placed⟩ := place.command room.text.1 effect
          have later := leads.reaches (ih room.behindCommand (.front placed))
          rwa [Nat.add_right_comm, Nat.add_assoc] at later
      | turned shape => cases shape
  | fault effect =>
      cases faces with
      | front place => exact ⟨0, (Leads.refl m).halts (place.fault room.text.1 effect)⟩
      | turned shape => cases shape
  | refused test =>
      cases faces with
      | front place => exact ⟨0, (Leads.refl m).halts (place.refused room.opens test)⟩
      | turned shape _ holds =>
          have refused := (Store.test_error test).1
          rw [holds.not_refused] at refused
          cases refused
  | @zero start body rest store tape _ test _ ih =>
      have stop : start + body.size + 2 + rest.size = start + (Block.loop body rest).size := by
        rw [Block.size_loop]
        omega
      cases faces with
      | front place =>
          obtain ⟨count, next, leads, _, placed⟩ := place.bypass room.text test room.countable
          exact stop ▸ leads.reaches (ih room.behindLoop (.front placed))
      | turned shape place holds =>
          cases shape
          obtain ⟨_, zero, rfl⟩ := Store.test_ok test
          obtain ⟨next, leads, placed⟩ := place.leave room.closes holds zero.symm
          rw [holds.extend_eq] at ih
          have there : start + 1 + body.size + 1 = start + body.size + 2 := by omega
          exact stop ▸ leads.reaches (ih room.behindLoop (.front (there ▸ placed)))
  | @turn start body rest store value tape next ending test nonzero once _ onceIH againIH =>
      obtain ⟨_, same, _⟩ := Store.test_ok test
      obtain ⟨_, opening, back, place⟩ := faces.rewind room (same ▸ nonzero)
      obtain ⟨_, leads, placed⟩ := place.entry room.opens test nonzero room.enterable
      -- The end of the body is faced as the end of a turn.
      obtain ⟨_, closing, through, turned⟩ := onceIH room.inside (.front placed)
      have holds : next.HoldsCell := by
        obtain ⟨_, _, rfl⟩ := Store.test_ok test
        exact once.holdsCell (store.tape.holds_extend store.address)
      exact ((back.trans leads).trans through).reaches
        (againIH room (.turned rfl turned holds))
  | @broken start body rest store value tape error next test nonzero _ ih =>
      obtain ⟨_, same, _⟩ := Store.test_ok test
      obtain ⟨_, opening, back, place⟩ := faces.rewind room (same ▸ nonzero)
      obtain ⟨_, leads, placed⟩ := place.entry room.opens test nonzero room.enterable
      exact (back.trans leads).reaches (ih room.inside (.front placed))

-----------------------------------------------------------------------------------------
-- Every ending that the machine comes to is one of the block
-----------------------------------------------------------------------------------------

/-- The run of a machine that halts is explained by a block: either the block fails in the way the
machine does, or the block finishes and the machine gets behind its text.
-/
def Explained (origin m : Machine) (start : Nat) (block : Block) (loops : List Nat)
    (store : Store) (ending : Ending) : Prop :=
  (∃ error next,
    ending = .failed error next ∧ block.Runs origin.endOfInput start store ending)
  ∨ ∃ count next after,
      m.Leads count next
      ∧ origin.At next (start + block.size) loops after
      ∧ block.Runs origin.endOfInput start store (.finished after)

/-- What explains a later part of a run explains the whole of it, when a block runs as the later
block does.
-/
theorem Explained.extend {origin m next : Machine} {start later count : Nat}
    {block rest : Block} {loops : List Nat} {store after : Store} {ending : Ending}
    (explained : origin.Explained next later rest loops after ending)
    (leads : m.Leads count next)
    (runs : ∀ ending,
      rest.Runs origin.endOfInput later after ending
      → block.Runs origin.endOfInput start store ending)
    (stop : later + rest.size = start + block.size)
    : origin.Explained m start block loops store ending := by
  rcases explained with ⟨error, last, rfl, failed⟩ | ⟨more, last, final, through, place, done⟩
  · exact Or.inl ⟨error, last, rfl, runs _ failed⟩
  · exact Or.inr ⟨count + more, last, final, leads.trans through, stop ▸ place, runs _ done⟩

/-- A machine whose next step ends the run halts in that way only. -/
theorem Halts.eq_of_endsWith {m : Machine} {total : Nat} {ending other : Ending}
    (halts : m.Halts total ending) (ends : m.EndsWith other)
    : ending = other := by
  cases total with
  | zero => exact ends.unique halts.ends
  | succ total =>
      have goes := halts.goesOn 0 (Nat.succ_pos total)
      simp only [Machine.outcome, Machine.after, ends.stops, Bool.false_eq_true] at goes

/-- A run that halts is explained by the block that the machine faces. The induction is on the
number of steps, as a turn of a loop leads back to the same block.
-/
theorem explained_of_halts {origin : Machine} {ending : Ending} (total : Nat) {m : Machine}
    {start : Nat} {block : Block} {loops : List Nat} {store : Store}
    (room : origin.Room start block loops) (faces : origin.Faces m start block loops store)
    (halts : m.Halts total ending)
    : origin.Explained m start block loops store ending := by
  induction total using Nat.strongRecOn generalizing m start block loops store with
  | ind total ih =>
      have behind (body rest : Block)
          : start + body.size + 2 + rest.size = start + (Block.loop body rest).size := by
        rw [Block.size_loop]
        omega
      cases faces with
      | @turned body rest shape place holds =>
          subst shape
          by_cases cleared : store.tape.peek store.address = 0
          · obtain ⟨next, leads, placed⟩ := place.leave room.closes holds cleared
            obtain ⟨left, rfl, later⟩ := halts.rest leads
            have test : store.tape.get store.address = .ok (0, store.tape) := by
              simp only [Tape.get_eq, holds.not_refused, holds.extend_eq, cleared,
                Bool.false_eq_true, if_false]
            have there : start + 1 + body.size + 1 = start + body.size + 2 := by omega
            exact (ih left (by omega) room.behindLoop (.front (there ▸ placed)) later).extend
              leads (fun _ runs => .zero test runs) (behind body rest)
          · obtain ⟨next, leads, placed⟩ := place.jump room.closes holds cleared
            obtain ⟨left, rfl, later⟩ := halts.rest leads
            exact (ih left (by omega) room (.front placed) later).extend leads
              (fun _ runs => runs) rfl
      | front place =>
          cases block with
          | done => exact Or.inr ⟨0, m, store, .refl m, place, .done⟩
          | comment byte silent rest =>
              obtain ⟨next, leads, placed⟩ := place.comment room.text.1 silent
              obtain ⟨left, rfl, later⟩ := halts.rest leads
              refine (ih left (by omega) room.behindComment (.front placed) later).extend leads
                (fun _ runs => .comment runs) ?_
              rw [Block.size_comment]
              omega
          | command command rest =>
              rcases effect : command.exec origin.endOfInput store with ⟨fault, after⟩
              cases fault with
              | none =>
                  obtain ⟨next, leads, placed⟩ := place.command room.text.1 effect
                  obtain ⟨left, rfl, later⟩ := halts.rest leads
                  refine (ih left (by omega) room.behindCommand (.front placed) later).extend
                    leads (fun _ runs => .command effect runs) ?_
                  rw [Block.size_command]
                  omega
              | some fault =>
                  obtain rfl := halts.eq_of_endsWith (place.fault room.text.1 effect)
                  exact Or.inl ⟨_, _, rfl, .fault effect⟩
          | loop body rest =>
              rcases test : store.tape.get store.address with cause | ⟨value, tape⟩
              · obtain rfl := halts.eq_of_endsWith (place.refused room.opens test)
                exact Or.inl ⟨_, _, rfl, .refused test⟩
              by_cases zero : value = 0
              · subst zero
                obtain ⟨count, next, leads, positive, placed⟩ :=
                  place.bypass room.text test room.countable
                obtain ⟨left, rfl, later⟩ := halts.rest leads
                exact (ih left (by omega) room.behindLoop (.front placed) later).extend leads
                  (fun _ runs => .zero test runs) (behind body rest)
              · obtain ⟨entered, leads, placed⟩ :=
                  place.entry room.opens test zero room.enterable
                obtain ⟨left, rfl, later⟩ := halts.rest leads
                -- The body either fails, or its end is faced after fewer steps.
                rcases ih left (by omega) room.inside (.front placed) later with
                  ⟨error, last, rfl, failed⟩ | ⟨count, closing, after, through, turned, once⟩
                · exact Or.inl ⟨error, last, rfl, .broken test zero failed⟩
                · obtain ⟨remaining, rfl, final⟩ := later.rest through
                  have holds : after.HoldsCell := by
                    obtain ⟨_, _, rfl⟩ := Store.test_ok test
                    exact once.holdsCell (store.tape.holds_extend store.address)
                  exact (ih remaining (by omega) room (.turned rfl turned holds) final).extend
                    (leads.trans through) (fun _ runs => .turn test zero once runs) rfl

-----------------------------------------------------------------------------------------
-- Machines that run the whole of a program
-----------------------------------------------------------------------------------------

/-- A machine that was loaded stands before its program. -/
theorem at_load (m : Machine) (block : Block)
    : (m.load block).At (m.load block) 0 [] m.store :=
  ⟨SameSettings.refl _, rfl, rfl, rfl, rfl⟩

/-- A machine that was loaded has room for its program, if that is not too deep. -/
theorem room_load {m : Machine} {block : Block} (small : block.size < 0x8000000000000000)
    (shallow : (block.depth : Int) ≤ m.maxDepth)
    : (m.load block).Room 0 block [] where
  text := @Program.spells_of_eq_append (m.load block).program [] block.bytes rfl
  small := small
  shallow := by
    change (0 + block.depth : Int) ≤ m.maxDepth
    omega

/-- A machine that got behind its program is done. -/
theorem At.finished {m next : Machine} {block : Block} {loops : List Nat} {store : Store}
    (place : (m.load block).At next (0 + block.size) loops store)
    : next.EndsWith (.finished store) := by
  have size : next.program.size = block.size := by rw [place.settings.program]; rfl
  have past : next.done = true := by
    simp only [done, place.pc, size, decide_eq_true_eq]
    omega
  exact ⟨by simp only [step, past, if_true], place.store⟩

/-- Where a loaded machine finishes, it has left all loops and skips nothing. -/
theorem Halts.at_end {m : Machine} {block : Block} {count : Nat} {store : Store}
    (room : (m.load block).Room 0 block [])
    (halts : (m.load block).Halts count (.finished store))
    : (m.load block).At ((m.load block).after count) (0 + block.size) [] store := by
  rcases explained_of_halts count room (.front (m.at_load block)) halts with
    ⟨error, last, wrong, _⟩ | ⟨fewer, next, after, leads, place, _⟩
  · cases wrong
  obtain ⟨left, rfl, later⟩ := halts.rest leads
  obtain rfl := Ending.finished.inj (later.eq_of_endsWith place.finished)
  cases left with
  | zero => exact leads.after ▸ place
  | succ left =>
      have goes := later.goesOn 0 (Nat.succ_pos left)
      simp only [Machine.outcome, Machine.after, place.finished.stops, Bool.false_eq_true]
        at goes

/-- A machine refines structured programs. Whatever the tape, the address, the limits, the policy,
the input and the output are: a machine that was loaded with the text of a structured program,
nested no deeper than allowed, comes to an ending exactly if the structured program has it. That
holds for finishing with a store and for failing at an instruction with an error. Where the
machine finishes, it is in no loop, skips nothing and flushed each byte that it wrote; where it
fails, the tape or a stream did. The text is held in memory, so its length is a word.
-/
theorem halts_load_iff_runs (m : Machine) (block : Block) (small : block.size < 0x8000000000000000)
    (shallow : (block.depth : Int) ≤ m.maxDepth)
    : (∀ ending,
        (∃ count, (m.load block).Halts count ending)
        ↔ block.Runs m.endOfInput 0 m.store ending)
      ∧ (∀ count store,
          (m.load block).Halts count (.finished store)
          → ((m.load block).after count).loops = []
            ∧ ((m.load block).after count).skip = 0
            ∧ m.store.FlushedTo store)
      ∧ (∀ count error store,
          (m.load block).Halts count (.failed error store)
          → error.fault.isOfStore = true) := by
  have room := room_load small shallow
  have sound {count : Nat} {ending : Ending} (halts : (m.load block).Halts count ending)
      : block.Runs m.endOfInput 0 m.store ending := by
    rcases explained_of_halts count room (.front (m.at_load block)) halts with
      ⟨error, last, rfl, failed⟩ | ⟨fewer, next, after, leads, place, done⟩
    · exact failed
    · obtain ⟨left, rfl, later⟩ := halts.rest leads
      obtain rfl := later.eq_of_endsWith place.finished
      exact done
  refine ⟨fun ending => ⟨fun ⟨_, halts⟩ => sound halts, fun runs => ?_⟩, ?_, ?_⟩
  · have reaches := @reaches_of_runs (m.load block) 0 block m.store ending runs _ [] room
      (.front (m.at_load block))
    cases ending with
    | finished store =>
        obtain ⟨count, next, leads, place⟩ := reaches
        exact ⟨count, leads.halts place.finished⟩
    | failed error store => exact reaches
  · intro count store halts
    have place := halts.at_end room
    exact ⟨place.loops, place.skip, (sound halts).flushed⟩
  · intro count error store halts
    exact (sound halts).ofStore

/-- A loop inside a loop, both left from their ends after one turn. -/
def twoLoops : Block :=
  .command .increment (.loop (.loop (.command .decrement .done) .done) .done)

theorem halts_load_iff_runs_twoLoops
    : twoLoops.size < 0x8000000000000000
      ∧ (twoLoops.depth : Int) ≤ (Machine.new {}).maxDepth
      ∧ twoLoops.Runs .unchanged 0 (Machine.new {}).store
          (.finished (((Machine.new {}).load twoLoops).after 6).store) := by
  have small : twoLoops.size < 0x8000000000000000 := by decide
  have shallow : (twoLoops.depth : Int) ≤ (Machine.new {}).maxDepth := by decide
  exact ⟨small, shallow, ((halts_load_iff_runs (Machine.new {}) twoLoops small shallow).1 _).mp
    ⟨6, by decide, by decide, rfl⟩⟩

end Machine

end TapeMachine
