import TapeMachine.Machine.Snapshot
import TapeMachine.Proofs.Loops.Brackets
import TapeMachine.Proofs.Tape.Cells

/-! Which snapshots a machine takes back. The checks look at one thing after the other and compare
words; passing all of them means that the snapshot holds a state of the same program inside of the
program and of the two limits, where all bounds are bounds on numbers.
-/

namespace TapeMachine.Machine

/-- A machine accepts a snapshot: its program is the same, and its registers, its loops and its tape
are in the bounds of the machine.
-/
structure Accepts (m : Machine) (s : Snapshot) : Prop where
  program : s.program.getD [] = m.program.code.toList
  pc_nonneg : 0 ≤ s.pc.toInt
  pc_le : s.pc.toInt ≤ m.program.size
  skip_nonneg : 0 ≤ s.skip.toInt
  depth : (s.loops.length : Int) ≤ m.maxDepth
  starts
    : ∀ start ∈ s.loops, 0 ≤ start.toInt ∧ m.program.StartsLoop start.toInt.toNat
  positive : 0 < m.tape.limit → ((s.positive.getD []).length : Int) ≤ m.tape.limit
  negative : 0 < m.tape.limit → ((s.negative.getD []).length : Int) ≤ m.tape.limit
  address
    : 0 < m.tape.limit
      → -m.tape.limit ≤ s.address.toInt ∧ s.address.toInt < m.tape.limit

/-- The checks in their order. -/
theorem check_eq (m : Machine) (s : Snapshot)
    : m.check s
      = if s.program.getD [] ≠ m.program.code.toList then .error .programMismatch
        else if s.pc < 0 || (m.program.size : Int) < s.pc.toInt || s.skip < 0
            || m.maxDepth < s.loops.length then
          .error (.badState s.pc s.skip s.loops.length)
        else
          match s.loops.find? (!m.startsLoop ·) with
          | some start => .error (.badLoop start)
          | none =>
            if 0 < m.tape.limit && !Machine.fits m.tape.limit s then .error .exhausted
            else .ok () := by
  unfold check
  rfl

/-- A word is the position of a loop start just if the number is. -/
theorem startsLoop_iff (m : Machine) (position : Int64)
    : m.startsLoop position = true
      ↔ 0 ≤ position.toInt ∧ m.program.StartsLoop position.toInt.toNat := by
  unfold startsLoop Program.StartsLoop
  rw [Bool.and_eq_true, decide_eq_true_eq, beq_iff_eq, Int64.le_iff_toInt_le, Int64.toInt_zero,
    Int64.toNat_toInt]

/-- A snapshot fits a limit if both halves of its tape and its address do. The place of an address
in the negative half is computed by a negation of words, which is right for every address.
-/
theorem fits_iff {limit : Int} {s : Snapshot}
    : fits limit s = true
      ↔ ((s.positive.getD []).length : Int) ≤ limit
        ∧ ((s.negative.getD []).length : Int) ≤ limit
        ∧ -limit ≤ s.address.toInt
        ∧ s.address.toInt < limit := by
  simp only [fits, Bool.and_eq_true, decide_eq_true_eq, Address.toInt_neg_sub_one]
  omega

/-- The registers pass their check just if they are in their ranges. -/
theorem registers_iff (m : Machine) (s : Snapshot)
    : (s.pc < 0 || (m.program.size : Int) < s.pc.toInt || s.skip < 0
          || m.maxDepth < s.loops.length)
        = false
      ↔ 0 ≤ s.pc.toInt
        ∧ s.pc.toInt ≤ m.program.size
        ∧ 0 ≤ s.skip.toInt
        ∧ (s.loops.length : Int) ≤ m.maxDepth := by
  simp only [Bool.or_eq_false_iff, decide_eq_false_iff_not, Int64.lt_iff_toInt_lt,
    Int64.toInt_zero, Int.not_lt, and_assoc]

/-- The checks let exactly those snapshots pass that the machine accepts. -/
theorem check_eq_ok_iff {m : Machine} {s : Snapshot} : m.check s = .ok () ↔ m.Accepts s := by
  rw [check_eq]
  constructor
  · -- Every check that was passed gives a part of what is accepted.
    intro passed
    split at passed
    · cases passed
    rename_i program
    split at passed
    · cases passed
    rename_i registers
    split at passed
    · cases passed
    rename_i loops
    split at passed
    · cases passed
    rename_i tape
    obtain ⟨pcNonneg, pcInside, skipNonneg, depth⟩ :=
      (m.registers_iff s).mp (Bool.eq_false_iff.mpr registers)
    have fit (limited : 0 < m.tape.limit) : fits m.tape.limit s = true := by
      simpa [limited] using tape
    exact {
      program := by simpa using program
      pc_nonneg := pcNonneg
      pc_le := pcInside
      skip_nonneg := skipNonneg
      depth
      starts := fun start member =>
        (m.startsLoop_iff start).mp (by simpa using List.find?_eq_none.mp loops start member)
      positive := fun limited => (fits_iff.mp (fit limited)).1
      negative := fun limited => (fits_iff.mp (fit limited)).2.1
      address := fun limited => (fits_iff.mp (fit limited)).2.2
    }
  · intro accepted
    have registers := (m.registers_iff s).mpr
      ⟨accepted.pc_nonneg, accepted.pc_le, accepted.skip_nonneg, accepted.depth⟩
    have loops : s.loops.find? (!m.startsLoop ·) = none := by
      rw [List.find?_eq_none]
      intro start member
      simpa using (m.startsLoop_iff start).mpr (accepted.starts start member)
    have tape : ¬(0 < m.tape.limit && !fits m.tape.limit s) = true := by
      rw [Bool.and_eq_true, decide_eq_true_eq, not_and, Bool.not_eq_true, Bool.not_eq_false']
      intro limited
      exact fits_iff.mpr
        ⟨accepted.positive limited, accepted.negative limited, accepted.address limited⟩
    rw [if_neg (not_not_intro accepted.program), registers, if_neg Bool.false_ne_true, loops]
    exact if_neg tape

/-- What is taken back is an accepted snapshot that the bytes hold, and every such snapshot is. -/
theorem restore_eq_ok_iff {m restored : Machine} {bytes : List UInt8}
    : m.restore bytes = .ok restored
      ↔ ∃ s, Snapshot.decode bytes = some s ∧ m.Accepts s ∧ restored = m.adopt s := by
  unfold restore
  cases decoded : Snapshot.decode bytes with
  | none => simp
  | some s =>
      simp only [Option.some.injEq, exists_eq_left', ← check_eq_ok_iff]
      cases checked : m.check s with
      | error cause => simp [bind, Except.bind]
      | ok => simp [bind, Except.bind, pure, Except.pure, eq_comm]

end TapeMachine.Machine
