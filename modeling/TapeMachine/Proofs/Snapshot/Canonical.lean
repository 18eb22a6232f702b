import TapeMachine.Proofs.Snapshot.Resume

/-! The state of a machine and the bytes of its snapshot determine each other. Every snapshot that
is small enough is read back from its bytes, so the bytes are those of no other state, and a state
that was taken over is written down again with the same bytes.
-/

namespace TapeMachine

-----------------------------------------------------------------------------------------
-- From bytes to the state
-----------------------------------------------------------------------------------------

/-- Different snapshots have different bytes. -/
theorem Snapshot.eq_of_encode_eq {s other : Snapshot} (storable : s.Storable)
    (otherStorable : other.Storable) (same : s.encode = other.encode)
    : s = other := by
  have decoded := decode_encode storable
  rw [same, decode_encode otherStorable] at decoded
  exact (Option.some.inj decoded).symm

/-- A half of the tape is known from what is written down of it. -/
theorem halfContent_inj {cells others : Array UInt8}
    (same : halfContent cells = halfContent others)
    : cells = others := by
  have content := congrArg (·.getD []) same
  simp only [halfContent_getD] at content
  exact Array.toList_inj.mp content

namespace Machine

/-- Two machines are in one state: their registers and their tapes are the same. -/
structure SameState (m other : Machine) : Prop where
  pc : m.pc = other.pc
  address : m.address = other.address
  loops : m.loops = other.loops
  skip : m.skip = other.skip
  steps : m.steps = other.steps
  positive : m.tape.positive = other.tape.positive
  negative : m.tape.negative = other.tape.negative

/-- The positions that a machine holds are words, and its snapshot is small enough to be read back.
-/
structure Storable (m : Machine) : Prop where
  pc_ge : -0x8000000000000000 ≤ m.pc
  pc_lt : m.pc < 0x8000000000000000
  starts_lt : ∀ start ∈ m.loops, start < 0x8000000000000000
  snapshot : m.snapshot.Storable

/-- The loops are known from the words that are written down of them. -/
theorem Storable.loops_eq {m : Machine} (storable : m.Storable)
    : (m.snapshot.loops.map Int64.toNatClampNeg).reverse = m.loops := by
  simp only [Machine.snapshot, List.map_map, List.map_reverse, List.reverse_reverse]
  refine (List.map_congr_left fun start member => ?_).trans (List.map_id _)
  exact Int64.toNatClampNeg_ofNat_of_lt (storable.starts_lt start member)

theorem Storable.toInt_pc {m : Machine} (storable : m.Storable)
    : m.snapshot.pc.toInt = m.pc := by
  have lower := storable.pc_ge
  have upper := storable.pc_lt
  exact Int64.toInt_ofInt_of_le (by omega) (by omega)

/-- Machines with the same snapshot are in the same state. -/
theorem sameState_of_snapshot_eq {m other : Machine} (storable : m.Storable)
    (otherStorable : other.Storable) (same : m.snapshot = other.snapshot)
    : m.SameState other where
  pc := by rw [← storable.toInt_pc, ← otherStorable.toInt_pc, same]
  address := congrArg Snapshot.address same
  loops := by rw [← storable.loops_eq, ← otherStorable.loops_eq, same]
  skip := congrArg Snapshot.skip same
  steps := congrArg Snapshot.steps same
  positive := halfContent_inj (congrArg Snapshot.positive same)
  negative := halfContent_inj (congrArg Snapshot.negative same)

/-- Machines in the same state with the same program have the same snapshot. -/
theorem SameState.snapshot_eq {m other : Machine} (same : m.SameState other)
    (program : m.program = other.program)
    : m.snapshot = other.snapshot := by
  simp only [snapshot, program, same.pc, same.address, same.loops, same.skip, same.steps,
    same.positive, same.negative]

/-- With one program, the same bytes are written down in the same states only. -/
theorem encode_eq_iff_sameState {m other : Machine} (program : m.program = other.program)
    (storable : m.Storable) (otherStorable : other.Storable)
    : m.snapshot.encode = other.snapshot.encode ↔ m.SameState other := by
  constructor
  · intro same
    exact sameState_of_snapshot_eq storable otherStorable
      (Snapshot.eq_of_encode_eq storable.snapshot otherStorable.snapshot same)
  · intro same
    rw [same.snapshot_eq program]

/-- A machine that took over the state of another one with the same program writes it down in the
same way.
-/
theorem snapshot_withStateOf {fresh m : Machine} (program : fresh.program = m.program)
    : (fresh.withStateOf m).snapshot = m.snapshot :=
  SameState.snapshot_eq ⟨rfl, rfl, rfl, rfl, rfl, rfl, rfl⟩ program

end Machine

-----------------------------------------------------------------------------------------
-- The codec
-----------------------------------------------------------------------------------------

/-- The codec loses nothing and adds nothing. Every snapshot is read back from its bytes; machines
with one program write the same bytes down only if they are in the same state; and every state
that is reached without an error is taken over by any machine with the same program and limits,
which then writes the same bytes down again.
-/
theorem Setup.snapshot_codec
    : (∀ s : Snapshot, s.Storable → Snapshot.decode s.encode = some s)
      ∧ (∀ m other : Machine,
          m.program = other.program
          → m.Storable
          → other.Storable
          → (m.snapshot.encode = other.snapshot.encode ↔ m.SameState other))
      ∧ ∀ (setup : Setup) (count : Nat) (fresh : Machine),
          setup.machine.ErrorFree count
          → 0 ≤ setup.maxDepth
          → (setup.machine.after count).loops.length ≤ Cbor.maxElements
          → fresh.program = setup.program
          → fresh.maxDepth = setup.maxDepth
          → fresh.tape.limit = setup.maxCells
          → ∃ restored,
              fresh.restore (setup.machine.after count).snapshot.encode = .ok restored
              ∧ restored.snapshot.encode = (setup.machine.after count).snapshot.encode := by
  refine ⟨fun s storable => Snapshot.decode_encode storable, fun m other program storable
    otherStorable => Machine.encode_eq_iff_sameState program storable otherStorable, ?_⟩
  intro setup count fresh clean nonneg few program maxDepth limit
  have able := setup.takesOver_of_limits clean nonneg program maxDepth limit
  have taken := able.restore (setup.addressable_after count) few
  exact ⟨_, taken, by rw [Machine.snapshot_withStateOf able.program]⟩

/-- Numbers at the widths of heads, an empty string of bytes and one that is left out. -/
def widthSnapshot : Snapshot :=
  { program := some []
    pc := 255
    address := -0x8000000000000000
    loops := [23, 24, 256, 65536, 0x100000000]
    skip := -257
    steps := 0x7fffffffffffffff
    positive := some [0] }

/-- The machine of the echo loop, recorded step by step. -/
def tracedEcho : Machine :=
  { Setup.echoLoop.machine with trace := true, keepsJournal := true }

theorem Setup.snapshot_codec_echoLoop
    : widthSnapshot.Storable
      ∧ Snapshot.decode widthSnapshot.encode = some widthSnapshot
      ∧ (echoLoop.machine.after 4).snapshot.encode ≠ (echoLoop.machine.after 5).snapshot.encode
      ∧ echoLoop.machine.ErrorFree 5
      ∧ ∃ restored,
          tracedEcho.restore (echoLoop.machine.after 5).snapshot.encode = .ok restored
          ∧ restored.snapshot.encode = (echoLoop.machine.after 5).snapshot.encode := by
  obtain ⟨roundTrip, states, again⟩ := snapshot_codec
  have widths : widthSnapshot.Storable := ⟨by decide, by decide, by decide, by decide⟩
  have clean : echoLoop.machine.ErrorFree 5 := by decide
  have earlier : (echoLoop.machine.after 4).Storable :=
    ⟨by decide, by decide, by decide, ⟨by decide, by decide, by decide, by decide⟩⟩
  have later : (echoLoop.machine.after 5).Storable :=
    ⟨by decide, by decide, by decide, ⟨by decide, by decide, by decide, by decide⟩⟩
  have equal := states _ _ (by decide) earlier later
  have apart : (echoLoop.machine.after 4).pc ≠ (echoLoop.machine.after 5).pc := by decide
  exact ⟨widths, roundTrip _ widths, fun same => apart (equal.mp same).pc, clean,
    again echoLoop 5 tracedEcho clean (by decide) (by decide) rfl rfl rfl⟩

end TapeMachine
