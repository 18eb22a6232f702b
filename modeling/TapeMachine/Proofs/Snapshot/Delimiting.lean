import TapeMachine.Proofs.Cbor.Delimiting
import TapeMachine.Proofs.Snapshot.Safety

/-! Snapshots delimit themselves. Bytes that were cut off while a snapshot was written, and bytes
with anything behind them, are no snapshot, whatever the state that was written down; a machine
that is asked to take them back stays as it is.
-/

namespace TapeMachine

/-- The loops and the strings of bytes of a snapshot are counted by words. There may be more loops
than can be read back.
-/
structure Snapshot.Measured (s : Snapshot) : Prop where
  loops : s.loops.length < 0x10000000000000000
  program : (s.program.getD []).length < 0x10000000000000000
  positive : (s.positive.getD []).length < 0x10000000000000000
  negative : (s.negative.getD []).length < 0x10000000000000000

namespace Snapshot

open Cbor

/-- The loops take their bytes, or there are too many of them. -/
theorem delimits_loops (inner : Option (Reader Item)) {loops : List Int64}
    (measured : loops.length < 0x10000000000000000)
    : Delimits (readItem (some (readItem inner)))
        (.array (loops.map fun start => .int start.toInt)) := by
  refine delimits_array (by simpa using measured) ?_
  intro item member
  obtain ⟨start, _, rfl⟩ := List.mem_map.mp member
  exact (reads_word inner start).delimits

/-- Reading the item of a snapshot takes exactly its bytes, if they can be read at all. -/
theorem delimits_toItem {s : Snapshot} (measured : s.Measured)
    : Delimits (readNested maxLevels) s.toItem := by
  have name (text : String) (known : text ∈ fieldNames)
      : Delimits (readNested 31) (.string text) :=
    (reads_name _ text known).delimits
  have word (value : Int64) : Delimits (readNested 31) (.int value.toInt) :=
    (reads_word _ value).delimits
  refine delimits_map (show 8 < 0x10000000000000000 by decide) ?_
  simp only [List.forall_mem_cons, List.not_mem_nil, false_implies, implies_true, and_true]
  exact ⟨⟨name _ (by decide), word _⟩, ⟨name _ (by decide), word _⟩,
    ⟨name _ (by decide), word _⟩, ⟨name _ (by decide), delimits_loops _ measured.loops⟩,
    ⟨name _ (by decide), word _⟩,
    ⟨name _ (by decide), (reads_bytesItem _ measured.program).delimits⟩,
    ⟨name _ (by decide), (reads_bytesItem _ measured.negative).delimits⟩,
    ⟨name _ (by decide), (reads_bytesItem _ measured.positive).delimits⟩⟩

/-- The bytes of a snapshot without the last ones hold no snapshot. -/
theorem decode_of_cut {s : Snapshot} (measured : s.Measured) {front : List UInt8}
    (begins : front <+: s.encode) (proper : front ≠ s.encode)
    : decode front = none := by
  obtain ⟨missing, whole⟩ := begins
  have lacks : missing ≠ [] := by
    rintro rfl
    exact proper ((List.append_nil front).symm.trans whole)
  rw [decode, Cbor.decode_of_cut (delimits_toItem measured) whole lacks]
  rfl

/-- The bytes of a snapshot with more behind them hold no snapshot. -/
theorem decode_of_surplus {s : Snapshot} (measured : s.Measured) {more : List UInt8}
    (some : more ≠ [])
    : decode (s.encode ++ more) = none := by
  rw [decode, encode, Cbor.decode_of_surplus (delimits_toItem measured) some]
  rfl

end Snapshot

namespace Machine

/-- The loops of a machine, the bytes of its program and the cells of its tape are counted by words,
as they are on every machine that has room for them.
-/
structure Measured (m : Machine) : Prop where
  loops : m.loops.length < 0x10000000000000000
  program : m.program.size < 0x10000000000000000
  positive : m.tape.positive.size < 0x10000000000000000
  negative : m.tape.negative.size < 0x10000000000000000

theorem Measured.snapshot {m : Machine} (measured : m.Measured) : m.snapshot.Measured where
  loops := by simpa [Machine.snapshot] using measured.loops
  program := by
    have program := measured.program
    unfold Program.size at program
    cases given : m.program.given <;> simp [Machine.snapshot, given, program]
  positive := by simpa [Machine.snapshot, halfContent_getD] using measured.positive
  negative := by simpa [Machine.snapshot, halfContent_getD] using measured.negative

/-- A machine finds bytes malformed, and asking it to take them back leaves it as it is. -/
structure Declines (m : Machine) (bytes : List UInt8) : Prop where
  malformed : m.restore bytes = .error .malformed
  unchanged : m.afterCall (.restore bytes) = m

/-- Bytes that hold no snapshot are declined. -/
theorem declines_of_decode {m : Machine} {bytes : List UInt8}
    (nothing : Snapshot.decode bytes = none)
    : m.Declines bytes := by
  have malformed : m.restore bytes = .error .malformed := by
    rw [restore, nothing]
  exact ⟨malformed, by simp only [afterCall, malformed]⟩

/-- Snapshots delimit themselves. Whatever the state that was written down, and whatever machine is
asked to take it back: no bytes that the snapshot properly begins with are accepted, and none that
properly begin with it. The bytes are found to be malformed, and nothing changes.
-/
theorem declines_of_cut_or_surplus (m restoring : Machine) (measured : m.Measured)
    : (∀ front, front <+: m.snapshot.encode → front ≠ m.snapshot.encode → restoring.Declines front)
      ∧ ∀ more, more ≠ [] → restoring.Declines (m.snapshot.encode ++ more) :=
  ⟨fun _ begins proper =>
      declines_of_decode (Snapshot.decode_of_cut measured.snapshot begins proper),
    fun _ some => declines_of_decode (Snapshot.decode_of_surplus measured.snapshot some)⟩

/-- A machine in the midst of a loop, with cells on both halves of its tape. -/
def midLoop : Machine :=
  { program := { code := #[0x2b, 0x5b, 0x3c, 0x2b, 0x5d] }
    tape := { positive := #[1], negative := #[0] }
    pc := 3
    address := -1
    loops := [1]
    steps := 3 }

theorem declines_of_cut_or_surplus_midLoop
    : midLoop.Measured
      ∧ midLoop.restore midLoop.snapshot.encode = .ok midLoop
      ∧ midLoop.Declines []
      ∧ midLoop.Declines midLoop.snapshot.encode.dropLast
      ∧ midLoop.Declines (midLoop.snapshot.encode ++ [0]) := by
  have measured : midLoop.Measured := ⟨by decide, by decide, by decide, by decide⟩
  obtain ⟨cut, surplus⟩ := declines_of_cut_or_surplus midLoop midLoop measured
  have accepted : midLoop.restore midLoop.snapshot.encode = .ok midLoop := by
    have storable : midLoop.snapshot.Storable := ⟨by decide, by decide, by decide, by decide⟩
    rw [restore, Snapshot.decode_encode storable]
    rfl
  refine ⟨measured, accepted, cut _ List.nil_prefix ?_,
    cut _ (List.dropLast_prefix _) ?_, surplus _ (by decide)⟩
  · decide +kernel
  · decide +kernel

end Machine

end TapeMachine
