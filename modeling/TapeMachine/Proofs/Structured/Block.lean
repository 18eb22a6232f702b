import TapeMachine.Proofs.Machine.Work

/-! Structured programs: loops as subtrees instead of brackets, and what it means to run them.
A loop means that its body is run while the current cell is not zero; there is no program counter,
no stack and no skipping. Only the place of an instruction in the flattened text is passed along,
so that an error can say where it was raised.
-/

namespace TapeMachine

/-- A structured program: a list of commands, comments and loops, the body of a loop being such a
list again.
-/
inductive Block where
  | done
  | command (command : StoreCommand) (rest : Block)
  | comment (byte : UInt8) (silent : Instruction.ofByte? byte = none) (rest : Block)
  | loop (body rest : Block)

namespace Block

/-- The text of a structured program. -/
def bytes : Block → List UInt8
  | done => []
  | command instruction rest => instruction.toInstruction.toByte :: rest.bytes
  | comment byte _ rest => byte :: rest.bytes
  | loop body rest =>
    Instruction.loopStart.toByte
      :: (body.bytes ++ Instruction.loopEnd.toByte :: rest.bytes)

/-- The number of bytes in the text of a structured program. -/
def size (block : Block) : Nat :=
  block.bytes.length

/-- The number of loops that are nested inside each other. -/
def depth : Block → Nat
  | done => 0
  | command _ rest => rest.depth
  | comment _ _ rest => rest.depth
  | loop body rest => max (body.depth + 1) rest.depth

@[simp]
theorem size_done : done.size = 0 := rfl

@[simp]
theorem size_command (instruction : StoreCommand) (rest : Block)
    : (command instruction rest).size = rest.size + 1 := rfl

@[simp]
theorem size_comment (byte : UInt8) (silent : Instruction.ofByte? byte = none) (rest : Block)
    : (comment byte silent rest).size = rest.size + 1 := rfl

@[simp]
theorem size_loop (body rest : Block)
    : (loop body rest).size = body.size + rest.size + 2 := by
  simp only [size, bytes, List.length_cons, List.length_append]
  omega

/-- Loops take up text, so a program is at least as long as it is deep. -/
theorem depth_le_size (block : Block) : block.depth ≤ block.size := by
  induction block with
  | done => simp [depth]
  | command _ rest ih | comment _ _ rest ih =>
      simp only [depth, size_command, size_comment]
      omega
  | loop body rest bodyIH restIH =>
      simp only [depth, size_loop]
      omega

end Block

/-- How the run of a structured program ends, and the store it leaves. -/
inductive Ending where
  | finished (store : Store)
  | failed (error : RunError) (store : Store)

/-- A structured program whose text begins at a place is run from a store and comes to an end. A
run that goes on for ever has no ending.
-/
inductive Block.Runs (policy : EndOfInput) : Nat → Block → Store → Ending → Prop
  | done {start store}
    : Runs policy start .done store (.finished store)
  | comment {start byte silent rest store ending}
    (later : Runs policy (start + 1) rest store ending)
    : Runs policy start (.comment byte silent rest) store ending
  | command {start command rest store next ending}
    (effect : command.exec policy store = (none, next))
    (later : Runs policy (start + 1) rest next ending)
    : Runs policy start (.command command rest) store ending
  | fault {start} {command : StoreCommand} {rest store fault next}
    (effect : command.exec policy store = (some fault, next))
    : Runs policy start (.command command rest) store
        (.failed ⟨start, store.address, command.toInstruction, fault⟩ next)
  /-- The cell that decides about the loop is refused. -/
  | refused {start body rest store cause}
    (test : store.tape.get store.address = .error cause)
    : Runs policy start (.loop body rest) store
        (.failed ⟨start, store.address, .loopStart, .exhausted cause⟩ store)
  /-- The cell is zero: what follows the loop is run. -/
  | zero {start body rest store tape ending}
    (test : store.tape.get store.address = .ok (0, tape))
    (later : Runs policy (start + body.size + 2) rest { store with tape } ending)
    : Runs policy start (.loop body rest) store ending
  /-- The cell is not zero: the body is run, and then the loop once more. -/
  | turn {start body rest store value tape next ending}
    (test : store.tape.get store.address = .ok (value, tape)) (nonzero : value ≠ 0)
    (once : Runs policy (start + 1) body { store with tape } (.finished next))
    (again : Runs policy start (.loop body rest) next ending)
    : Runs policy start (.loop body rest) store ending
  /-- The cell is not zero, and the body fails. -/
  | broken {start body rest store value tape error next}
    (test : store.tape.get store.address = .ok (value, tape)) (nonzero : value ≠ 0)
    (once : Runs policy (start + 1) body { store with tape } (.failed error next))
    : Runs policy start (.loop body rest) store (.failed error next)

-----------------------------------------------------------------------------------------
-- What every run of a structured program keeps
-----------------------------------------------------------------------------------------

/-- A test that succeeds gives the byte of the current cell, on a tape where it exists. -/
theorem Store.test_ok {store : Store} {value : UInt8} {tape : Tape}
    (test : store.tape.get store.address = .ok (value, tape))
    : store.tape.refuses store.address = false
      ∧ value = store.tape.peek store.address
      ∧ tape = store.tape.extend store.address := by
  rw [Tape.get_eq] at test
  split at test
  · cases test
  · rename_i admitted
    cases test
    exact ⟨by simpa using admitted, rfl, rfl⟩

/-- A test that fails does so because the limit refuses the current cell. -/
theorem Store.test_error {store : Store} {cause : Exhausted}
    (test : store.tape.get store.address = .error cause)
    : store.tape.refuses store.address = true
      ∧ cause = ⟨store.address, store.tape.limit⟩ := by
  rw [Tape.get_eq] at test
  split at test
  · rename_i refused
    cases test
    exact ⟨refused, rfl⟩
  · cases test

/-- Where a run finishes, the current cell exists. -/
def Ending.HoldsCell : Ending → Prop
  | finished store => store.HoldsCell
  | failed _ _ => True

/-- A run that begins on a cell that exists finishes on one, as moves reach their cells. -/
theorem Block.Runs.holdsCell {policy : EndOfInput} {start : Nat} {block : Block}
    {store : Store} {ending : Ending} (runs : block.Runs policy start store ending)
    (holds : store.HoldsCell)
    : ending.HoldsCell := by
  induction runs with
  | done => exact holds
  | comment _ ih => exact ih holds
  | @command _ command _ store _ _ effect _ ih =>
      have orderly := command.orderly_exec policy store
      rw [effect] at orderly
      exact ih (orderly.holds rfl)
  | fault | refused | broken => trivial
  | @zero _ _ _ store _ _ test _ ih =>
      obtain ⟨_, _, rfl⟩ := Store.test_ok test
      exact ih (holds.extend store.address)
  | @turn _ _ _ store _ _ _ _ test _ _ _ onceIH againIH =>
      obtain ⟨_, _, rfl⟩ := Store.test_ok test
      exact againIH (onceIH (holds.extend store.address))

/-- The error of a failed run comes from the tape or from a stream. -/
def Ending.OfStore : Ending → Prop
  | finished _ => True
  | failed error _ => error.fault.isOfStore = true

/-- Whatever fails in a structured program is the tape or a stream. -/
theorem Block.Runs.ofStore {policy : EndOfInput} {start : Nat} {block : Block}
    {store : Store} {ending : Ending} (runs : block.Runs policy start store ending)
    : ending.OfStore := by
  induction runs with
  | done => trivial
  | comment _ ih | command _ _ ih | zero _ _ ih | broken _ _ _ ih => exact ih
  | @fault _ command _ store fault _ effect =>
      have orderly := command.orderly_exec policy store
      rw [effect] at orderly
      exact orderly.fault fault rfl
  | refused => rfl
  | turn _ _ _ _ _ againIH => exact againIH

-----------------------------------------------------------------------------------------
-- Output is flushed byte by byte
-----------------------------------------------------------------------------------------

/-- Between two stores there were as many flushes as bytes that arrived at the output. -/
def Store.FlushedTo (store next : Store) : Prop :=
  next.output.flushes + store.output.bytes.size
    = store.output.flushes + next.output.bytes.size

/-- An emission that succeeds wrote one byte and flushed it. -/
theorem Store.flushedTo_emit {store : Store} (success : store.emit.1 = none)
    : store.FlushedTo store.emit.2 := by
  unfold Store.emit at success ⊢
  split at success
  · simp at success
  · rename_i value tape _
    split at success
    · simp at success
    · rename_i output written
      obtain ⟨bytes, flushes⟩
          : output.bytes.size = store.output.bytes.size + 1
            ∧ output.flushes = store.output.flushes := by
        unfold Sink.write at written
        split at written
        · cases written
        · obtain ⟨_, rfl⟩ := Prod.mk.inj written
          exact ⟨Array.size_push _, rfl⟩
      simp only [Store.FlushedTo, Sink.flush, bytes, flushes]
      omega

/-- A command that succeeds flushes what it writes. -/
theorem StoreCommand.flushedTo_exec (command : StoreCommand) (policy : EndOfInput) (store : Store)
    (success : (command.exec policy store).1 = none)
    : store.FlushedTo (command.exec policy store).2 := by
  cases command with
  | right | left | increment | decrement | input =>
      simp only [Store.FlushedTo, exec, Store.output_goTo, Store.output_update,
        Store.output_accept]
  | output => exact Store.flushedTo_emit success

/-- A run that finishes flushed every byte that it wrote. -/
def Ending.FlushedFrom (store : Store) : Ending → Prop
  | finished next => store.FlushedTo next
  | failed _ _ => True

/-- Flushing composes along a run. -/
theorem Ending.FlushedFrom.of_flushedTo {store middle : Store} {ending : Ending}
    (first : store.FlushedTo middle) (later : ending.FlushedFrom middle)
    : ending.FlushedFrom store := by
  cases ending with
  | finished next =>
      simp only [FlushedFrom, Store.FlushedTo] at first later ⊢
      omega
  | failed => trivial

/-- Every run that finishes flushes each byte of its output, by induction on the run. -/
theorem Block.Runs.flushed {policy : EndOfInput} {start : Nat} {block : Block}
    {store : Store} {ending : Ending} (runs : block.Runs policy start store ending)
    : ending.FlushedFrom store := by
  induction runs with
  | done => exact rfl
  | comment _ ih | zero _ _ ih => exact ih
  | @command _ command _ store _ _ effect _ ih =>
      have flushed := command.flushedTo_exec policy store (by rw [effect])
      rw [effect] at flushed
      exact ih.of_flushedTo flushed
  | fault | refused | broken => trivial
  | turn _ _ _ _ onceIH againIH => exact againIH.of_flushedTo onceIH

end TapeMachine
