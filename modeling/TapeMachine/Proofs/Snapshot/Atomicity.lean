import TapeMachine.Proofs.Snapshot.Safety

/-! Taking a snapshot back is all or nothing. A snapshot that the machine accepts becomes its
state as a whole, and what the machine was given besides stays as it was. Whatever else the bytes
are, nothing changes at all.
-/

namespace TapeMachine.Machine

/-- A machine is in the state that a snapshot holds. The machine has its innermost loop first, the
snapshot the outermost.
-/
structure StandsAt (m : Machine) (s : Snapshot) : Prop where
  pc : m.pc = s.pc.toInt
  address : m.address = s.address
  loops : m.loops.reverse.map Int.ofNat = s.loops.map Int64.toInt
  skip : m.skip = s.skip
  steps : m.steps = s.steps
  positive : m.tape.positive.toList = s.positive.getD []
  negative : m.tape.negative.toList = s.negative.getD []

/-- Two machines were given the same: the program, the limits, the policy at the end of the input,
the streams, and all that serves debugging.
-/
structure SameSurroundings (m other : Machine) : Prop extends m.SameSettings other where
  input : other.input = m.input
  output : other.output = m.output
  debugging : other.debugging = m.debugging
  journal : other.journal = m.journal

/-- An accepted snapshot is the state of the machine that takes it over. The loops are, as no
accepted position is below zero.
-/
theorem Accepts.standsAt {m : Machine} {s : Snapshot} (accepted : m.Accepts s)
    : (m.adopt s).StandsAt s where
  pc := rfl
  address := rfl
  loops := by
    simp only [adopt, List.reverse_reverse, List.map_map]
    refine List.map_congr_left fun start member => ?_
    have nonneg := (accepted.starts start member).1
    rw [Function.comp_apply, ← Int64.toNat_toInt]
    exact Int.toNat_of_nonneg nonneg
  skip := rfl
  steps := rfl
  positive := rfl
  negative := rfl

/-- Taking over a snapshot touches the state only. -/
theorem sameSurroundings_adopt (m : Machine) (s : Snapshot) : m.SameSurroundings (m.adopt s) :=
  ⟨⟨rfl, rfl, rfl, rfl, rfl⟩, rfl, rfl, rfl, rfl⟩

/-- A machine takes back exactly the snapshots of valid states, and each of them as a whole. For
every machine and every string of bytes: if the bytes hold a snapshot, then taking it back
succeeds just if the snapshot is of the same program and in all bounds of the machine, as numbers.
On success the machine is in the state of the snapshot and keeps everything else. On every
failure, also when the bytes hold no snapshot, the machine and its tape are what they were before.
-/
theorem restores_wholly_or_not_at_all (m : Machine) (bytes : List UInt8)
    : (∀ s,
          Snapshot.decode bytes = some s
          → ((∃ restored, m.restore bytes = .ok restored) ↔ m.Accepts s)
            ∧ ∀ restored,
                m.restore bytes = .ok restored
                → m.afterCall (.restore bytes) = restored
                  ∧ restored.StandsAt s
                  ∧ m.SameSurroundings restored)
      ∧ ∀ cause, m.restore bytes = .error cause → m.afterCall (.restore bytes) = m := by
  refine ⟨fun s decoded => ⟨⟨?_, fun accepted => ?_⟩, fun restored taken => ?_⟩,
    fun cause failed => ?_⟩
  · rintro ⟨restored, taken⟩
    obtain ⟨other, same, accepted, _⟩ := restore_eq_ok_iff.mp taken
    obtain rfl : s = other := Option.some.inj (decoded.symm.trans same)
    exact accepted
  · exact ⟨m.adopt s, restore_eq_ok_iff.mpr ⟨s, decoded, accepted, rfl⟩⟩
  · obtain ⟨other, same, accepted, rfl⟩ := restore_eq_ok_iff.mp taken
    obtain rfl : s = other := Option.some.inj (decoded.symm.trans same)
    exact ⟨by simp only [afterCall, taken], accepted.standsAt, m.sameSurroundings_adopt s⟩
  · simp only [afterCall, failed]

/-- A made-up state of the machine with one loop, at the least address. Its negation is itself, so
it is below every limit.
-/
def farthestSnapshot : Snapshot :=
  { forgedSnapshot with address := Int64.minValue }

theorem restores_wholly_or_not_at_all_leastAddress
    : (∃ restored,
          oneLoop.restore forgedSnapshot.encode = .ok restored
          ∧ restored.address = -1
          ∧ restored.loops.reverse.map Int.ofNat = [0, 0]
          ∧ restored.maxDepth = 2)
      ∧ ¬oneLoop.Accepts farthestSnapshot
      ∧ oneLoop.afterCall (.restore farthestSnapshot.encode) = oneLoop := by
  have forged : Snapshot.decode forgedSnapshot.encode = some forgedSnapshot :=
    Snapshot.decode_encode ⟨by decide, by decide, by decide, by decide⟩
  have farthest : Snapshot.decode farthestSnapshot.encode = some farthestSnapshot :=
    Snapshot.decode_encode ⟨by decide, by decide, by decide, by decide⟩
  obtain ⟨admits, _⟩ := restores_wholly_or_not_at_all oneLoop forgedSnapshot.encode
  obtain ⟨rejects, unchanged⟩ := restores_wholly_or_not_at_all oneLoop farthestSnapshot.encode
  have accepted : oneLoop.Accepts forgedSnapshot := check_eq_ok_iff.mp rfl
  have failed : oneLoop.restore farthestSnapshot.encode = .error .exhausted := by
    rw [restore, farthest]
    rfl
  have refused : ¬∃ restored, oneLoop.restore farthestSnapshot.encode = .ok restored := by
    rw [failed]
    rintro ⟨_, taken⟩
    cases taken
  obtain ⟨restored, taken⟩ := (admits _ forged).1.mpr accepted
  obtain ⟨_, stands, surroundings⟩ := (admits _ forged).2 restored taken
  exact ⟨⟨restored, taken, stands.address, stands.loops, surroundings.maxDepth⟩,
    mt (rejects _ farthest).1.mpr refused, unchanged _ failed⟩

end TapeMachine.Machine
