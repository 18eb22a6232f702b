import TapeMachine.Proofs.Loops.Skipping
import TapeMachine.Proofs.Snapshot.Safety

/-! A snapshot that was taken back may say that any number of loops is being skipped, as long as the
number is not negative. The machine counts on from there. Whether the counter holds out depends on
the brackets behind the program counter; that there is room for all of them is not checked.
-/

namespace TapeMachine.Machine

/-- Whatever bytes were accepted, every later run, of any length and with errors in between, stands
still as long as a loop is skipped, and goes on by a loop end that closes the last skipped loop or
by a loop start that makes the counter wrap. The counter is sound throughout the run exactly if the
text behind the program counter does not overrun it, in particular if it leaves room for as many
loops as bytes are left.
-/
theorem keepsCount_of_restore (m restored : Machine) (bytes : List UInt8)
    (taken : m.restore bytes = .ok restored) (small : m.program.size < 0x8000000000000000)
    : (∀ first count,
        (∀ index < count, 0 < (restored.after (first + index)).skip)
        → (restored.after first).StandsStill (restored.after (first + count)))
      ∧ (∀ count,
          0 < (restored.after count).skip
          → (restored.after (count + 1)).skip ≤ 0
          → (restored.after count).ClosesLast ∨ (restored.after count).CountsOver)
      ∧ (restored.KeepsCount
          ↔ ¬m.program.Overruns restored.pc.toNat restored.skip.toInt)
      ∧ (restored.skip.toInt + (m.program.size - restored.pc) < 0x8000000000000000
          → restored.KeepsCount) := by
  obtain ⟨settings, confined⟩ := confined_of_restore taken
  have started := confined.pc_nonneg
  have inside := confined.pc_le
  have nonneg : 0 ≤ restored.skip.toInt := by
    obtain ⟨s, _, accepted, rfl⟩ := restore_eq_ok_iff.mp taken
    exact accepted.skip_nonneg
  have sound := keepsCount_iff started nonneg (by rwa [settings.program])
  rw [settings.program] at sound inside
  refine ⟨fun first count skipping => ?_,
    fun count skipping stops => closesLast_or_countsOver skipping stops, sound,
    fun room => sound.mpr (Program.not_overruns_of_room ?_ ?_)⟩
  · simp only [after_add] at skipping ⊢
    exact standsStill_after skipping
  · omega
  · omega

/-- A loop that is never closed, with an addition and an output inside. -/
def openLoop : Machine :=
  { program := { code := #[0x5b, 0x2b, 0x2e] } }

/-- A made-up state at the start of that program, in which so many loops are being skipped. -/
def skippingSnapshot (skip : Int64) : Snapshot :=
  { program := some [0x5b, 0x2b, 0x2e], skip }

/-- The machine accepts that state for every number that is not negative. -/
theorem accepts_skippingSnapshot {skip : Int64} (nonneg : 0 ≤ skip.toInt)
    : openLoop.Accepts (skippingSnapshot skip) where
  program := rfl
  pc_nonneg := (by decide : 0 ≤ (0 : Int64).toInt)
  pc_le := (by decide : (0 : Int64).toInt ≤ 3)
  skip_nonneg := nonneg
  depth := (by decide : (0 : Int) ≤ defaultMaxDepth)
  starts := nofun
  positive := nofun
  negative := nofun
  address := nofun

/-- It takes the bytes of that state back. -/
theorem restore_skippingSnapshot (skip : Int64) (nonneg : 0 ≤ skip.toInt)
    : openLoop.restore (skippingSnapshot skip).encode
      = .ok (openLoop.adopt (skippingSnapshot skip)) := by
  have storable : (skippingSnapshot skip).Storable := by constructor <;> simp [skippingSnapshot]
  exact restore_eq_ok_iff.mpr
    ⟨_, Snapshot.decode_encode storable, accepts_skippingSnapshot nonneg, rfl⟩

theorem keepsCount_of_restore_room
    : openLoop.restore (skippingSnapshot 5).encode
        = .ok (openLoop.adopt (skippingSnapshot 5))
      ∧ (openLoop.adopt (skippingSnapshot 5)).KeepsCount
      ∧ openLoop.restore (skippingSnapshot Int64.maxValue).encode
        = .ok (openLoop.adopt (skippingSnapshot Int64.maxValue))
      ∧ ¬(openLoop.adopt (skippingSnapshot Int64.maxValue)).KeepsCount := by
  have few := restore_skippingSnapshot 5 (by decide)
  have most := restore_skippingSnapshot Int64.maxValue (by decide)
  refine ⟨few, (keepsCount_of_restore _ _ _ few (by decide)).2.2.2 (by decide), most,
    fun keeps => ?_⟩
  -- One byte is too many: the loop start at the program counter.
  exact (keepsCount_of_restore _ _ _ most (by decide)).2.2.1.mp keeps
    ⟨1, by decide, by decide⟩

/-- Taken back with the greatest word, the counter wraps at the first loop start: the two instructions
inside the loop are executed, and a byte is written.
-/
theorem openLoop_executes_skipped
    : openLoop.restore (skippingSnapshot Int64.maxValue).encode
        = .ok (openLoop.adopt (skippingSnapshot Int64.maxValue))
      ∧ ((openLoop.adopt (skippingSnapshot Int64.maxValue)).after 1).skip = Int64.minValue
      ∧ ((openLoop.adopt (skippingSnapshot Int64.maxValue)).after 3).steps = 2
      ∧ ((openLoop.adopt (skippingSnapshot Int64.maxValue)).after 3).output.bytes = #[1] := by
  refine ⟨restore_skippingSnapshot _ (by decide), ?_, ?_, ?_⟩ <;> decide

end TapeMachine.Machine
