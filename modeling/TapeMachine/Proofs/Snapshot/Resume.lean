import TapeMachine.Proofs.Loops.Stack
import TapeMachine.Proofs.Machine.Agreement
import TapeMachine.Proofs.Snapshot.Acceptance
import TapeMachine.Proofs.Snapshot.Codec

/-! A run that is written down and taken up again by another machine goes on as if nothing had
happened. Every state that is reached without an error passes the checks of a fresh machine, which
then agrees with the old one on everything that steps look at.
-/

namespace TapeMachine

/-- A half of the tape that was left out or written down is the same half again. -/
theorem halfContent_getD (cells : Array UInt8) : (halfContent cells).getD [] = cells.toList := by
  unfold halfContent
  split
  · rename_i empty
    simp [Array.isEmpty_iff.mp empty]
  · rfl

namespace Machine

-----------------------------------------------------------------------------------------
-- Taking a snapshot back
-----------------------------------------------------------------------------------------

/-- A machine in the state of another one, as far as a snapshot holds it. -/
def withStateOf (fresh m : Machine) : Machine :=
  { fresh with
    pc := m.pc
    address := m.address
    loops := m.loops
    skip := m.skip
    steps := m.steps
    tape := m.tape }

/-- What makes a machine take over the state of another one. -/
structure TakesOver (fresh m : Machine) : Prop where
  program : fresh.program = m.program
  size_lt : m.program.size < 0x8000000000000000
  empty_of_absent : m.program.given = false → m.program.code = #[]
  pc_nonneg : 0 ≤ m.pc
  pc_le : m.pc ≤ m.program.size
  skip_nonneg : 0 ≤ m.skip
  depth : (m.loops.length : Int) ≤ fresh.maxDepth
  starts : ∀ start ∈ m.loops, m.program.StartsLoop start
  limit : fresh.tape.limit = m.tape.limit
  within : WithinLimit m.tape m.address

namespace TakesOver

variable {fresh m : Machine}

/-- The program counter is written down as it is. -/
theorem toInt_pc (able : fresh.TakesOver m) : m.snapshot.pc.toInt = m.pc := by
  have lower := able.pc_nonneg
  have upper := able.pc_le
  have small := able.size_lt
  exact Int64.toInt_ofInt_of_le (by omega) (by omega)

/-- The start of a loop that was entered is a word. -/
theorem start_lt (able : fresh.TakesOver m) {start : Nat} (member : start ∈ m.loops)
    : start < 0x8000000000000000 := by
  have inside := (able.starts start member).position_lt
  have small := able.size_lt
  omega

/-- The program is written down as it is, and an absent one like an empty one. -/
theorem program_getD (able : fresh.TakesOver m)
    : m.snapshot.program.getD [] = fresh.program.code.toList := by
  rw [able.program]
  cases given : m.program.given with
  | true => simp only [snapshot, given, if_true, Option.getD_some]
  | false => simp [snapshot, given, able.empty_of_absent given]

/-- The snapshot is accepted. -/
theorem accepts (able : fresh.TakesOver m) : fresh.Accepts m.snapshot where
  program := able.program_getD
  pc_nonneg := by
    rw [able.toInt_pc]
    exact able.pc_nonneg
  pc_le := by
    rw [able.toInt_pc, able.program]
    exact able.pc_le
  skip_nonneg := Int64.le_iff_toInt_le.mp able.skip_nonneg
  depth := by simpa [snapshot] using able.depth
  starts := by
    intro position member
    obtain ⟨start, inside, rfl⟩ := List.mem_map.mp member
    have entered := List.mem_reverse.mp inside
    rw [Int64.toInt_ofNat_of_lt (able.start_lt entered), able.program]
    exact ⟨Int.natCast_nonneg start, able.starts start entered⟩
  positive := by
    rw [able.limit]
    intro limited
    simpa [snapshot, halfContent_getD, Tape.cells] using able.within.size_le limited .positive
  negative := by
    rw [able.limit]
    intro limited
    simpa [snapshot, halfContent_getD, Tape.cells] using able.within.size_le limited .negative
  address := by
    rw [able.limit]
    exact fun limited => Address.index_lt_iff.mp (able.within.index_lt limited)

/-- The machine stands where the other one stood. -/
theorem adopt (able : fresh.TakesOver m)
    : fresh.adopt m.snapshot = fresh.withStateOf m := by
  have loops : (m.snapshot.loops.map Int64.toNatClampNeg).reverse = m.loops := by
    simp only [snapshot, List.map_map, List.map_reverse, List.reverse_reverse]
    refine (List.map_congr_left fun start member => ?_).trans (List.map_id _)
    exact Int64.toNatClampNeg_ofNat_of_lt (able.start_lt member)
  have tape : m.tape = { fresh.tape with
      positive := (m.snapshot.positive.getD []).toArray
      negative := (m.snapshot.negative.getD []).toArray } := by
    simp [snapshot, halfContent_getD, able.limit]
  simp only [Machine.adopt, able.toInt_pc, loops, ← tape]
  rfl

/-- A machine that takes over the state of another one reads it back from its bytes. -/
theorem restore (able : fresh.TakesOver m) (addressable : Addressable m.tape)
    (few : m.loops.length ≤ Cbor.maxElements)
    : fresh.restore m.snapshot.encode = .ok (fresh.withStateOf m) := by
  have positive := addressable .positive
  have negative := addressable .negative
  have small := able.size_lt
  have storable : m.snapshot.Storable := {
    loops := by simpa [snapshot] using few
    program := by
      rw [able.program_getD, able.program, Array.length_toList]
      unfold Program.size at small
      omega
    positive := by
      simp only [snapshot, halfContent_getD, Array.length_toList]
      exact Nat.lt_of_le_of_lt positive (by decide)
    negative := by
      simp only [snapshot, halfContent_getD, Array.length_toList]
      exact Nat.lt_of_le_of_lt negative (by decide)
  }
  exact restore_eq_ok_iff.mpr
    ⟨m.snapshot, Snapshot.decode_encode storable, able.accepts, able.adopt.symm⟩

end TakesOver

-----------------------------------------------------------------------------------------
-- Going on
-----------------------------------------------------------------------------------------

/-- Streams with which another machine can go on where a machine stands: the input gives what is
left to read, and the output fails where that of the machine would.
-/
structure Continuation (m : Machine) where
  input : Input
  output : Sink
  rest : m.input.Alike input
  future : m.output.FailsAlike output

end Machine

namespace Setup

/-- A setup with the same program and settings for other streams. -/
def resuming (setup : Setup) {m : Machine} (streams : m.Continuation) : Setup :=
  { setup with input := streams.input, output := streams.output }

/-- Any machine with the same program and limits takes over every state that is reached without an
error.
-/
theorem takesOver_of_limits (setup : Setup) {count : Nat}
    (clean : setup.machine.ErrorFree count) (nonneg : 0 ≤ setup.maxDepth) {fresh : Machine}
    (program : fresh.program = setup.program) (maxDepth : fresh.maxDepth = setup.maxDepth)
    (limit : fresh.tape.limit = setup.maxCells)
    : fresh.TakesOver (setup.machine.after count) := by
  have same := setup.machine.sameSettings_after count
  have reached : (setup.machine.after count).program = setup.program := same.program
  obtain ⟨position, skipped, fit⟩ := setup.loopsFit_after clean
  have mirrors := fit.mirrors
  exact {
    program := program.trans reached.symm
    size_lt := by rw [reached]; exact setup.size_lt
    empty_of_absent := by rw [reached]; exact setup.empty_of_absent
    pc_nonneg := mirrors.pc_nonneg
    pc_le := mirrors.pc_le
    skip_nonneg := mirrors.skip_nonneg
    depth := by rw [maxDepth]; exact setup.length_loops_after nonneg count
    starts := mirrors.starts
    limit := limit.trans same.limit.symm
    within := setup.withinLimit_after count
  }

/-- A fresh machine takes over every state that is reached without an error. -/
theorem takesOver_after (setup : Setup) {count : Nat} (clean : setup.machine.ErrorFree count)
    (nonneg : 0 ≤ setup.maxDepth) {m : Machine} (streams : m.Continuation)
    : (setup.resuming streams).machine.TakesOver (setup.machine.after count) :=
  setup.takesOver_of_limits clean nonneg rfl rfl rfl

/-- A fresh machine in a state that was reached agrees with the machine that reached it. -/
theorem alike_withStateOf (setup : Setup) {count : Nat}
    (streams : (setup.machine.after count).Continuation)
    : Machine.Alike (setup.machine.after count).output.bytes streams.output.bytes
        (setup.machine.after count)
        ((setup.resuming streams).machine.withStateOf (setup.machine.after count)) := by
  have same := setup.machine.sameSettings_after count
  exact {
    program := same.program.symm
    pc := rfl
    loops := rfl
    skip := rfl
    steps := rfl
    maxDepth := same.maxDepth.symm
    endOfInput := same.endOfInput.symm
    breakpoints := same.breakpoints.symm
    store := ⟨rfl, rfl, streams.rest, streams.future, #[],
      Array.append_empty.symm, Array.append_empty.symm⟩
  }

/-- Snapshots are transparent. Whatever the program, the input and the settings, and after however
many steps without an error: a fresh machine with the same program and settings takes the
snapshot back and goes on in step with the machine that it was taken from. Every later step has
the same outcome in both, be it an interrupt or an error, and leaves the same registers and the
same tape, and the bytes that arrive at the two outputs from then on are the same.
-/
theorem resume_transparent (setup : Setup) (count : Nat)
    (clean : setup.machine.ErrorFree count) (nonneg : 0 ≤ setup.maxDepth)
    (few : (setup.machine.after count).loops.length ≤ Cbor.maxElements)
    (streams : (setup.machine.after count).Continuation)
    : ∃ resumed,
        (setup.resuming streams).machine.restore (setup.machine.after count).snapshot.encode
          = .ok resumed
        ∧ ∀ later,
            resumed.outcome later = setup.machine.outcome (count + later)
            ∧ Machine.Alike (setup.machine.after count).output.bytes streams.output.bytes
                (setup.machine.after (count + later)) (resumed.after later) := by
  have able := setup.takesOver_after clean nonneg streams
  have alike := setup.alike_withStateOf streams
  refine ⟨_, able.restore (setup.addressable_after count) few, fun later => ?_⟩
  rw [Machine.outcome_add, Machine.after_add]
  exact ⟨alike.outcome later, alike.after later⟩

/-- A loop that reads a byte and writes it, at most one loop deep and on two cells. -/
def echoLoop : Setup :=
  { program := { code := #[0x2b, 0x5b, 0x3e, 0x2c, 0x2e, 0x3c, 0x5d] }
    input := { pending := [7, 8] }
    maxDepth := 1
    maxCells := 2
    size_lt := by decide
    empty_of_absent := by decide }

/-- What is left to read in the midst of the loop, and a new output. -/
def echoLoop.streams : (echoLoop.machine.after 5).Continuation where
  input := { pending := [8] }
  output := {}
  rest := ⟨by decide, by decide⟩
  future := ⟨fun _ => rfl, fun _ => rfl⟩

theorem resume_transparent_echoLoop
    : echoLoop.machine.ErrorFree 5
      ∧ (echoLoop.machine.after 5).loops = [1]
      ∧ (echoLoop.machine.after 5).output.bytes = #[7]
      ∧ ∃ resumed,
          (echoLoop.resuming echoLoop.streams).machine.restore
              (echoLoop.machine.after 5).snapshot.encode
            = .ok resumed
          ∧ (resumed.after 6).output.bytes = #[8] := by
  have clean : echoLoop.machine.ErrorFree 5 := by decide
  obtain ⟨resumed, restored, run⟩ :=
    resume_transparent echoLoop 5 clean (by decide) (by decide) echoLoop.streams
  refine ⟨clean, by decide, by decide, resumed, restored, ?_⟩
  obtain ⟨bytes, direct, later⟩ := (run 6).2.store.output.arrived
  have written : #[7] ++ bytes = #[7] ++ #[8] := direct.symm
  rw [(Array.append_right_inj #[7]).mp written] at later
  exact later

end Setup

end TapeMachine
