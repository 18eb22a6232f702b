import TapeMachine.Proofs.Loops.Stack

/-! The counter of the loops to be closed while a loop is skipped. It is a word, so it can only be
trusted as far as the number it stands for: the number of loops that the text behind the program
counter still leaves open. Where that number stays below the greatest word the counter follows it,
and where it does not the counter wraps and instructions inside the skipped loop are executed.
-/

namespace TapeMachine

-----------------------------------------------------------------------------------------
-- The number of loops to be closed
-----------------------------------------------------------------------------------------

namespace Instruction

/-- What a byte adds to the number of loops to be closed. -/
def nesting (byte : UInt8) : Int :=
  match ofByte? byte with
  | some .loopStart => 1
  | some .loopEnd => -1
  | _ => 0

theorem nesting_other {byte : UInt8} (notStart : byte ≠ loopStart.toByte)
    (notEnd : byte ≠ loopEnd.toByte)
    : nesting byte = 0 := by
  unfold nesting
  split
  · rename_i means
    exact absurd (ofByte?_eq_some_iff.mp means) notStart
  · rename_i means
    exact absurd (ofByte?_eq_some_iff.mp means) notEnd
  · rfl

/-- A byte is a loop start, a loop end or neither, and what it adds tells which. -/
theorem nesting_cases (byte : UInt8)
    : (byte = loopStart.toByte ∧ nesting byte = 1)
      ∨ (byte = loopEnd.toByte ∧ nesting byte = -1)
      ∨ (byte ≠ loopStart.toByte ∧ byte ≠ loopEnd.toByte ∧ nesting byte = 0) := by
  by_cases start : byte = loopStart.toByte
  · exact .inl ⟨start, start ▸ rfl⟩
  · by_cases stop : byte = loopEnd.toByte
    · exact .inr (.inl ⟨stop, stop ▸ rfl⟩)
    · exact .inr (.inr ⟨start, stop, nesting_other start stop⟩)

theorem nesting_bounds (byte : UInt8) : -1 ≤ nesting byte ∧ nesting byte ≤ 1 := by
  rcases nesting_cases byte with ⟨_, adds⟩ | ⟨_, adds⟩ | ⟨_, _, adds⟩ <;> omega

end Instruction

namespace Program

/-- The number of loops to be closed when so many bytes from a position on were passed over, and
there were `skipped` of them at the position. Behind the program nothing is added.
-/
def pending (program : Program) (position : Nat) (skipped : Int) : Nat → Int
  | 0 => skipped
  | length + 1 =>
    program.pending position skipped length
      + ((program.byte? (position + length)).map Instruction.nesting).getD 0

/-- More loops are opened behind a position than a word can count, before those to be closed there
are all closed.
-/
def Overruns (program : Program) (position : Nat) (skipped : Int) : Prop :=
  ∃ length,
    (∀ shorter ≤ length, 0 < program.pending position skipped shorter)
    ∧ 0x8000000000000000 ≤ program.pending position skipped length

/-- The first byte can be counted before all others. -/
theorem pending_succ {program : Program} {position : Nat} {byte : UInt8}
    (present : program.byte? position = some byte) (skipped : Int) (length : Nat)
    : program.pending position skipped (length + 1)
      = program.pending (position + 1) (skipped + Instruction.nesting byte) length := by
  induction length with
  | zero => simp [pending, present]
  | succ length ih =>
      have place : position + (length + 1) = position + 1 + length := by omega
      rw [pending, ih, place]
      rfl

/-- Behind the program the number does not change. -/
theorem pending_of_outside {program : Program} {position : Nat}
    (outside : program.size ≤ position) (skipped : Int) (length : Nat)
    : program.pending position skipped length = skipped := by
  induction length with
  | zero => rfl
  | succ length ih =>
      have absent : program.byte? (position + length) = none :=
        Array.getElem?_eq_none (Nat.le_add_right_of_le outside)
      simp [pending, ih, absent]

/-- The number grows by the bytes that are left, at most. -/
theorem pending_le (program : Program) {position : Nat} (inside : position ≤ program.size)
    (skipped : Int) (length : Nat)
    : program.pending position skipped length ≤ skipped + (program.size - position) := by
  induction rest : program.size - position generalizing position skipped length with
  | zero =>
      rw [program.pending_of_outside (by omega)]
      omega
  | succ rest ih =>
      have below : position < program.size := by omega
      have present : program.byte? position = some program.code[position] :=
        Array.getElem?_eq_getElem below
      cases length with
      | zero =>
          rw [pending]
          omega
      | succ length =>
          have bounds := Instruction.nesting_bounds program.code[position]
          have next : position + 1 ≤ program.size := below
          have later :=
            ih next (skipped + Instruction.nesting program.code[position]) length (by omega)
          rw [pending_succ present]
          omega

/-- Whatever lies between a number of loops and the greatest word is room for the bytes that are
left.
-/
theorem not_overruns_of_room {program : Program} {position : Nat} {skipped : Int}
    (inside : position ≤ program.size)
    (room : skipped + (program.size - position) < 0x8000000000000000)
    : ¬program.Overruns position skipped := by
  rintro ⟨length, _, wide⟩
  have bound := program.pending_le inside skipped length
  omega

theorem overruns_of_le {program : Program} {position : Nat} {skipped : Int}
    (wide : 0x8000000000000000 ≤ skipped)
    : program.Overruns position skipped := by
  refine ⟨0, fun shorter le => ?_, wide⟩
  obtain rfl := Nat.le_zero.mp le
  rw [pending]
  omega

/-- The text behind a byte overruns the counter that has counted the byte exactly if the text with
the byte overruns the counter before.
-/
theorem overruns_iff {program : Program} {position : Nat} {byte : UInt8}
    (present : program.byte? position = some byte) {skipped : Int} (positive : 0 < skipped)
    (fits : skipped < 0x8000000000000000)
    : program.Overruns position skipped
      ↔ program.Overruns (position + 1) (skipped + Instruction.nesting byte) := by
  constructor
  · rintro ⟨length, positives, wide⟩
    cases length with
    | zero =>
        rw [pending] at wide
        omega
    | succ length =>
        refine ⟨length, fun shorter le => ?_, ?_⟩
        · rw [← pending_succ present]
          exact positives _ (by omega)
        · rw [← pending_succ present]
          exact wide
  · rintro ⟨length, positives, wide⟩
    refine ⟨length + 1, fun shorter le => ?_, ?_⟩
    · cases shorter with
      | zero => exact positive
      | succ shorter =>
          rw [pending_succ present]
          exact positives shorter (by omega)
    · rw [pending_succ present]
      exact wide

theorem Overruns.positive {program : Program} {position : Nat} {skipped : Int}
    (overruns : program.Overruns position skipped)
    : 0 < skipped := by
  obtain ⟨length, positives, _⟩ := overruns
  exact positives 0 (Nat.zero_le length)

end Program

-----------------------------------------------------------------------------------------
-- A step while a loop is skipped
-----------------------------------------------------------------------------------------

namespace Machine

/-- Between two machines at most the program counter and the counter of skipped loops changed. -/
def StandsStill (m next : Machine) : Prop :=
  next = { m with pc := next.pc, skip := next.skip }

theorem StandsStill.refl (m : Machine) : m.StandsStill m :=
  rfl

theorem StandsStill.trans {m next last : Machine} (first : m.StandsStill next)
    (second : next.StandsStill last)
    : m.StandsStill last := by
  unfold StandsStill at *
  rw [second, first]

/-- Counting a byte adds to the counter what the byte adds to the number it stands for. -/
theorem countBracket_eq (m : Machine) (byte : UInt8)
    : m.countBracket byte
      = { m with skip := m.skip + Int64.ofInt (Instruction.nesting byte) } := by
  rcases Instruction.nesting_cases byte with
    ⟨rfl, adds⟩ | ⟨rfl, adds⟩ | ⟨notStart, notEnd, adds⟩
  · rw [countBracket_loopStart, adds]
    rfl
  · rw [countBracket_loopEnd, adds, Int64.sub_eq_add_neg]
    rfl
  · rw [countBracket_other m notStart notEnd, adds]
    exact congrArg (fun skip => { m with skip }) (Int64.add_zero m.skip).symm

theorem Fetches.step_of_count {m : Machine} {position : Nat} {byte : UInt8}
    (fetched : m.Fetches position byte) (skipping : 0 < m.skip)
    : m.step
      = (.next,
          { m with
            pc := m.pc + 1
            skip := m.skip + Int64.ofInt (Instruction.nesting byte) }) := by
  rw [fetched.step_of_skipping skipping, countBracket_eq]

/-- A step while a loop is skipped does nothing else, at the end of the program as inside. -/
theorem standsStill_step {m : Machine} (skipping : 0 < m.skip) : m.StandsStill m.step.2 := by
  rcases stepped : m.step with ⟨outcome, next⟩
  cases transition_of_step stepped with
  | ended | misplaced => exact StandsStill.refl m
  | scanned => rw [countBracket_eq]; rfl
  | passed _ normal | interrupted _ _ normal => exact absurd skipping normal
  | commanded _ dispatched | refused _ dispatched | bypassed _ dispatched
  | overflowed _ dispatched | entered _ dispatched | unmatched _ dispatched
  | left _ dispatched | repeated _ dispatched => exact absurd skipping dispatched.normal

/-- As long as a loop is skipped a run stands still, by induction on the number of steps. -/
theorem standsStill_after {m : Machine} {count : Nat}
    (skipping : ∀ index < count, 0 < (m.after index).skip)
    : m.StandsStill (m.after count) := by
  induction count with
  | zero => exact StandsStill.refl m
  | succ count ih =>
      have before := ih fun index below => skipping index (by omega)
      exact before.trans (standsStill_step (skipping count (by omega)))

/-- The counter follows the number it stands for as long as that fits into a word. -/
theorem toInt_counted {skip : Int64} (positive : 0 < skip.toInt) {byte : UInt8}
    (fits : skip.toInt + Instruction.nesting byte < 0x8000000000000000)
    : (skip + Int64.ofInt (Instruction.nesting byte)).toInt
      = skip.toInt + Instruction.nesting byte := by
  have bounds := Instruction.nesting_bounds byte
  rw [Int64.toInt_add, Int64.toInt_ofInt_of_le (by omega) (by omega),
    Int.bmod_eq_of_le (by omega) (by omega)]

/-- Where the number does not fit, the greatest word has met a loop start and becomes the least. -/
theorem wraps_of_le {skip : Int64} {byte : UInt8}
    (wide : 0x8000000000000000 ≤ skip.toInt + Instruction.nesting byte)
    : byte = Instruction.loopStart.toByte
      ∧ skip = Int64.maxValue
      ∧ skip + Int64.ofInt (Instruction.nesting byte) = Int64.minValue := by
  have upper := skip.toInt_lt
  rcases Instruction.nesting_cases byte with ⟨start, adds⟩ | ⟨_, adds⟩ | ⟨_, _, adds⟩
  · have greatest : skip = Int64.maxValue := by
      refine Int64.toInt.inj ?_
      rw [Int64.toInt_maxValue]
      omega
    exact ⟨start, greatest, by rw [adds, greatest]; rfl⟩
  · omega
  · omega

/-- A step counts the last loop to be closed down to zero. -/
structure ClosesLast (m : Machine) : Prop where
  fetched : ∃ position, m.Fetches position Instruction.loopEnd.toByte
  before : m.skip = 1
  after : m.step.2.skip = 0

/-- A step counts one loop more than the greatest word. -/
structure CountsOver (m : Machine) : Prop where
  fetched : ∃ position, m.Fetches position Instruction.loopStart.toByte
  before : m.skip = Int64.maxValue
  after : m.step.2.skip = Int64.minValue

/-- A counter that was positive and is no more has counted the last loop down, or has wrapped. -/
theorem closesLast_or_countsOver {m : Machine} (skipping : 0 < m.skip)
    (stops : m.step.2.skip ≤ 0)
    : m.ClosesLast ∨ m.CountsOver := by
  have still : m.step.2.skip ≠ m.skip := by
    intro same
    rw [same] at stops
    exact Int64.not_lt.mpr stops skipping
  by_cases past : m.done = true
  · exact absurd (by rw [step_of_done past]) still
  by_cases before : m.pc < 0
  · exact absurd (by rw [step_of_misplaced before]) still
  obtain ⟨position, byte, fetched⟩ :=
    fetches_of_inside (by simpa using past) (Int.not_lt.mp before)
  have counted : m.step.2.skip = m.skip + Int64.ofInt (Instruction.nesting byte) := by
    rw [fetched.step_of_count skipping]
  rcases Int.lt_or_le (m.skip.toInt + Instruction.nesting byte) 0x8000000000000000 with
    fits | wide
  · -- The counter is right, so only a loop end can take it from one to zero.
    have positive := skipping
    rw [Int64.lt_iff_toInt_lt, Int64.toInt_zero] at positive
    have value := toInt_counted positive fits
    rw [← counted] at value
    rw [Int64.le_iff_toInt_le, Int64.toInt_zero] at stops
    rcases Instruction.nesting_cases byte with ⟨_, adds⟩ | ⟨rfl, adds⟩ | ⟨_, _, adds⟩
    · omega
    · have last : m.skip = 1 := by
        refine Int64.toInt.inj ?_
        rw [Int64.toInt_one]
        omega
      exact .inl ⟨⟨position, fetched⟩, last, by rw [counted, adds, last]; rfl⟩
    · omega
  · obtain ⟨rfl, greatest, wraps⟩ := wraps_of_le wide
    exact .inr ⟨⟨position, fetched⟩, greatest, counted.trans wraps⟩

-----------------------------------------------------------------------------------------
-- Runs
-----------------------------------------------------------------------------------------

/-- The counter of a machine can be trusted: it is not negative, and the text behind the program
counter does not overrun it.
-/
structure Countable (m : Machine) : Prop where
  started : 0 ≤ m.pc
  nonneg : 0 ≤ m.skip.toInt
  room : ¬m.program.Overruns m.pc.toNat m.skip.toInt

/-- No step leads to a place before the program. -/
theorem pc_nonneg_step {m : Machine} (started : 0 ≤ m.pc) : 0 ≤ m.step.2.pc := by
  rcases m.pc_step with same | ⟨position, _, _, next⟩ | ⟨start, _, back⟩ <;> omega

/-- A step while a loop is skipped leaves a counter that can be trusted: the number it stands for
after the byte fits into a word, as it would overrun the counter otherwise.
-/
theorem Countable.scan {m : Machine} (countable : m.Countable) {position : Nat} {byte : UInt8}
    (fetched : m.Fetches position byte) (skipping : 0 < m.skip)
    : ({ m with pc := m.pc + 1 }.countBracket byte).Countable := by
  have positive := skipping
  rw [Int64.lt_iff_toInt_lt, Int64.toInt_zero] at positive
  have place : m.pc.toNat = position := by rw [fetched.pc]; rfl
  have onward : (m.pc + 1).toNat = position + 1 := by rw [fetched.pc]; rfl
  have room := countable.room
  rw [place, Program.overruns_iff fetched.byte positive m.skip.toInt_lt] at room
  have below := Int.not_le.mp fun wide => room (Program.overruns_of_le wide)
  have bounds := Instruction.nesting_bounds byte
  have started := countable.started
  rw [countBracket_eq]
  refine ⟨by dsimp only; omega, ?_, ?_⟩
  · rw [toInt_counted positive below]
    omega
  · rw [toInt_counted positive below, onward]
    exact room

/-- A counter that can be trusted still can after a step, whether it fails or not. A loop that is
newly skipped leaves room for all the brackets that a program can have.
-/
theorem Countable.step {m : Machine} (countable : m.Countable)
    (small : m.program.size < 0x8000000000000000)
    : m.step.2.Countable := by
  have started := pc_nonneg_step countable.started
  -- When nothing is skipped, the counter is zero and most instructions leave it so.
  have idle (normal : ¬0 < m.skip) (same : m.step.2.skip = m.skip) : m.step.2.Countable := by
    have nonneg := countable.nonneg
    rw [Int64.lt_iff_toInt_lt, Int64.toInt_zero] at normal
    refine ⟨started, by rw [same]; exact nonneg, fun overruns => normal ?_⟩
    rw [same] at overruns
    exact overruns.positive
  rcases stepped : m.step with ⟨outcome, next⟩
  rw [stepped] at started idle
  cases transition_of_step stepped with
  | ended | misplaced => exact countable
  | scanned fetched skipping => exact countable.scan fetched skipping
  | bypassed journal dispatched =>
      have inside := dispatched.fetched.position_lt
      have pc := dispatched.fetched.pc
      refine ⟨started, Int.one_nonneg, Program.not_overruns_of_room ?_ ?_⟩
      · change (m.pc + 1).toNat ≤ m.program.size
        omega
      · change (1 : Int) + (m.program.size - ((m.pc + 1).toNat : Int)) < _
        omega
  | passed _ normal | interrupted _ _ normal => exact idle normal rfl
  | commanded _ dispatched | refused _ dispatched | overflowed _ dispatched
  | entered _ dispatched | unmatched _ dispatched | left _ dispatched
  | repeated _ dispatched => exact idle dispatched.normal rfl

/-- A counter that can be trusted still can after any number of steps. -/
theorem Countable.after {m : Machine} (countable : m.Countable)
    (small : m.program.size < 0x8000000000000000) (count : Nat)
    : (m.after count).Countable := by
  induction count with
  | zero => exact countable
  | succ count ih =>
      refine ih.step ?_
      rwa [(m.sameSettings_after count).program]

/-- The counter of a machine is sound throughout its run: it is never negative, and when it is
positive and no more after a step, then the step took the end of the last skipped loop.
-/
def KeepsCount (m : Machine) : Prop :=
  ∀ count,
    0 ≤ (m.after count).skip
    ∧ (0 < (m.after count).skip
        → (m.after (count + 1)).skip ≤ 0
        → (m.after count).ClosesLast)

theorem KeepsCount.tail {m : Machine} (keeps : m.KeepsCount) : m.step.2.KeepsCount := by
  intro count
  have later := keeps (count + 1)
  rwa [after_succ_eq, after_succ_eq] at later

/-- Where the text overruns the counter, the counter is not sound; by induction on the bytes up to
the one that is too many. Until then the counter follows the number, and there it wraps.
-/
theorem KeepsCount.not_overruns {m : Machine} (keeps : m.KeepsCount) {position : Nat}
    (place : m.pc = position)
    : ¬m.program.Overruns position m.skip.toInt := by
  rintro ⟨length, positives, wide⟩
  have fits := m.skip.toInt_lt
  induction length generalizing m position with
  | zero =>
      rw [Program.pending] at wide
      omega
  | succ length ih =>
      have positive : 0 < m.skip.toInt := positives 0 (Nat.zero_le _)
      have skipping : 0 < m.skip := by
        rwa [Int64.lt_iff_toInt_lt, Int64.toInt_zero]
      cases present : m.program.byte? position with
      | none =>
          rw [Program.pending_of_outside (Array.getElem?_eq_none_iff.mp present)] at wide
          omega
      | some byte =>
          have fetched : m.Fetches position byte := ⟨place, present⟩
          have stepped := fetched.step_of_count skipping
          rcases Int.lt_or_le (m.skip.toInt + Instruction.nesting byte) 0x8000000000000000
            with below | above
          · -- The rest of the text overruns what is counted after this byte.
            have value : m.step.2.skip.toInt = m.skip.toInt + Instruction.nesting byte := by
              rw [stepped]
              exact toInt_counted positive below
            have program := m.sameSettings_step.program
            have onward : m.step.2.pc = (position + 1 : Nat) := by
              rw [stepped, place]
              rfl
            refine ih keeps.tail onward (fun shorter le => ?_) ?_ m.step.2.skip.toInt_lt
            · rw [program, value, ← Program.pending_succ present]
              exact positives _ (by omega)
            · rw [program, value, ← Program.pending_succ present]
              exact wide
          · -- This byte is the one that is too many.
            obtain ⟨_, _, wraps⟩ := wraps_of_le above
            have least : (m.after 1).skip = Int64.minValue := by
              rw [after, after, stepped]
              exact wraps
            have nonneg := (keeps 1).1
            rw [least] at nonneg
            exact absurd nonneg (by decide)

/-- A counter that can be trusted is sound throughout the run. -/
theorem Countable.keepsCount {m : Machine} (countable : m.Countable)
    (small : m.program.size < 0x8000000000000000)
    : m.KeepsCount := by
  have nonneg (count : Nat) : 0 ≤ (m.after count).skip := by
    rw [Int64.le_iff_toInt_le, Int64.toInt_zero]
    exact (countable.after small count).nonneg
  intro count
  refine ⟨nonneg count, fun skipping stops => ?_⟩
  refine (closesLast_or_countsOver skipping stops).resolve_right fun wraps => ?_
  have least := nonneg (count + 1)
  rw [Machine.after, wraps.after] at least
  exact absurd least (by decide)

/-- A counter that is not negative is sound throughout the run exactly if the text behind the program
counter does not overrun it.
-/
theorem keepsCount_iff {m : Machine} (started : 0 ≤ m.pc) (nonneg : 0 ≤ m.skip.toInt)
    (small : m.program.size < 0x8000000000000000)
    : m.KeepsCount ↔ ¬m.program.Overruns m.pc.toNat m.skip.toInt := by
  constructor
  · intro keeps
    exact keeps.not_overruns (Int.toNat_of_nonneg started).symm
  · intro room
    exact (Countable.mk started nonneg room).keepsCount small

end Machine

end TapeMachine
