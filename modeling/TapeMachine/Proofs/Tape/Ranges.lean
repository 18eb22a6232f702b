import TapeMachine.Proofs.Tape.Memory

/-! Copies of ranges of cells.
A range is walked from its start to its stop by comparing addresses, but room for the copy is made
for as many bytes as the difference of the two words says, and that difference wraps. The two agree
as long as the addresses lie less than half the words apart; beyond that a reversed range looks like
a wide one.
-/

namespace TapeMachine

-----------------------------------------------------------------------------------------
-- Walking from one address up to another
-----------------------------------------------------------------------------------------

/-- An address that another one exceeds has a next address, one step closer to the other. -/
theorem Address.toInt_succ_of_lt {address stop : Address} (below : address < stop)
    : (address + 1).toInt = address.toInt + 1 := by
  have upper := stop.toInt_lt
  rw [Int64.lt_iff_toInt_lt] at below
  exact TapeMachine.toInt_succ_of_lt (by omega)

/-- An address inside a range is as many steps from its start as its place says. -/
theorem Address.toInt_add_ofNat {start stop : Address} {place : Nat}
    (inside : start.toInt + place ≤ stop.toInt)
    : (start + Int64.ofNat place).toInt = start.toInt + place := by
  have lower := start.le_toInt
  have upper := stop.toInt_lt
  have words : Int64.size = 2 ^ 64 := rfl
  rw [Int64.toInt_add, Int64.toInt_ofNat', words, Int.add_bmod_bmod,
    Int.bmod_eq_of_le (by omega) (by omega)]

namespace Tape

/-- Copies the bytes from an address up to another behind those that are copied already, one
address after the other.
-/
def copyFrom (tape : Tape) (address stop : Address) (copied : Array UInt8) : Array UInt8 :=
  if address < stop then tape.copyFrom (address + 1) stop (copied.push (tape.peek address))
  else copied
termination_by (stop.toInt - address.toInt).toNat
decreasing_by
  rename_i below
  have next := Address.toInt_succ_of_lt below
  rw [Int64.lt_iff_toInt_lt] at below
  omega

def bytesFrom (tape : Tape) (address : Address) (count : Nat) : List UInt8 :=
  (List.range count).map fun offset => tape.peek (address + Int64.ofNat offset)

theorem bytesFrom_succ (tape : Tape) (address : Address) (count : Nat)
    : tape.bytesFrom address (count + 1)
      = tape.peek address :: tape.bytesFrom (address + 1) count := by
  have first : address + Int64.ofNat 0 = address := Int64.add_zero address
  have later (offset : Nat)
      : address + Int64.ofNat (offset + 1) = address + 1 + Int64.ofNat offset := by
    rw [Int64.ofNat_add, Int64.add_comm (Int64.ofNat offset), ← Int64.add_assoc]
    rfl
  simp only [bytesFrom, List.range_succ_eq_map, List.map_cons, List.map_map, first]
  congr 1
  apply List.map_congr_left
  intro offset _
  exact congrArg tape.peek (later offset)

/-- The walk copies the bytes of the range; by the number of addresses that are left. -/
theorem copyFrom_eq (tape : Tape) (address stop : Address) (copied : Array UInt8)
    : (tape.copyFrom address stop copied).toList
      = copied.toList ++ tape.bytesFrom address (stop.toInt - address.toInt).toNat := by
  fun_induction copyFrom tape address stop copied with
  | case1 address copied below ih =>
      have next := Address.toInt_succ_of_lt below
      have closer := Int64.lt_iff_toInt_lt.mp below
      have count : (stop.toInt - address.toInt).toNat
          = (stop.toInt - (address + 1).toInt).toNat + 1 := by
        omega
      rw [ih, count, bytesFrom_succ]
      simp
  | case2 address copied reached =>
      have none : (stop.toInt - address.toInt).toNat = 0 := by
        rw [Int64.lt_iff_toInt_lt] at reached
        omega
      rw [none]
      simp [bytesFrom]

theorem size_copyFrom (tape : Tape) (start stop : Address)
    : (tape.copyFrom start stop #[]).size = (stop.toInt - start.toInt).toNat := by
  rw [← Array.length_toList, copyFrom_eq]
  simp [bytesFrom]

theorem getElem_copyFrom (tape : Tape) (start stop : Address) {place : Nat}
    (inside : place < (tape.copyFrom start stop #[]).size)
    : (tape.copyFrom start stop #[])[place] = tape.peek (start + Int64.ofNat place) := by
  rw [← Array.getElem_toList]
  simp only [copyFrom_eq]
  simp [bytesFrom]

/-- A range that is not too wide holds what the walk through it copies. -/
theorem range?_eq (tape : Tape) (start stop : Address)
    : tape.range? start stop
      = if rangeTooWide start stop then none else some (tape.copyFrom start stop #[]) := by
  unfold range?
  split
  · rfl
  · congr 1
    apply Array.toList_inj.mp
    rw [copyFrom_eq]
    simp [bytesFrom]

-----------------------------------------------------------------------------------------
-- Which ranges are refused
-----------------------------------------------------------------------------------------

/-- The difference of two words is that of the numbers, or it is wrapped one way or the other. -/
theorem toInt_sub_cases (start stop : Address)
    : (stop - start).toInt
      = if stop.toInt - start.toInt < -0x8000000000000000 then
          stop.toInt - start.toInt + 0x10000000000000000
        else if stop.toInt - start.toInt < 0x8000000000000000 then stop.toInt - start.toInt
        else stop.toInt - start.toInt - 0x10000000000000000 := by
  have lower := start.le_toInt
  have upper := start.toInt_lt
  have stopLower := stop.le_toInt
  have stopUpper := stop.toInt_lt
  rw [Int64.toInt_sub, Int.bmod_def]
  split <;> split <;> (try split) <;> omega

/-- A range is refused if it holds more addresses than can be copied, up to half the words; and if
it is reversed and its ends lie more than half the words apart, but not so far that the wrapped
difference is small again.
-/
theorem rangeTooWide_iff (start stop : Address)
    : rangeTooWide start stop = true
      ↔ (maxRange < stop.toInt - start.toInt ∧ stop.toInt - start.toInt < 0x8000000000000000)
        ∨ (0x8000000000000000 < start.toInt - stop.toInt
          ∧ start.toInt - stop.toInt < 0x10000000000000000 - maxRange) := by
  have width := toInt_sub_cases start stop
  have lower := start.le_toInt
  have upper := stop.toInt_lt
  unfold rangeTooWide maxRange
  rw [decide_eq_true_eq, ← Int64.toNat_toInt]
  split at width
  · omega
  · split at width <;> omega

theorem range?_of_reversed {tape : Tape} {start stop : Address} (reversed : stop ≤ start)
    (admitted : rangeTooWide start stop = false)
    : tape.range? start stop = some #[] := by
  have passed : ¬start < stop := by
    rw [Int64.lt_iff_toInt_lt]
    have order := Int64.le_iff_toInt_le.mp reversed
    omega
  rw [range?_eq, admitted, copyFrom, if_neg passed]
  rfl

-----------------------------------------------------------------------------------------
-- What copying a range gives
-----------------------------------------------------------------------------------------

/-- What comes of copying the bytes from one address up to another. -/
structure RangeLaws (tape : Tape) (start stop : Address) : Prop where
  /-- The tape stays as it was. -/
  kept : (tape.call (.range start stop)).2 = tape
  /-- The range is refused exactly if it is too wide, or looks so because it is reversed and its
  ends lie more than half the words apart.
  -/
  refused_iff
    : (tape.call (.range start stop)).1 = .bytes none
      ↔ (maxRange < stop.toInt - start.toInt ∧ stop.toInt - start.toInt < 0x8000000000000000)
        ∨ (0x8000000000000000 < start.toInt - stop.toInt
          ∧ start.toInt - stop.toInt < 0x10000000000000000 - maxRange)
  /-- Every other reversed range reads nothing. -/
  reversed
    : stop ≤ start
      → (tape.call (.range start stop)).1 ≠ .bytes none
      → (tape.call (.range start stop)).1 = .bytes (some #[])
  /-- A range of up to half as many bytes as 32 bits count holds exactly the bytes at its addresses,
  one after the other.
  -/
  forward
    : start < stop
      → stop.toInt - start.toInt ≤ 0x80000000
      → ∃ content : Array UInt8,
          (tape.call (.range start stop)).1 = .bytes (some content)
          ∧ content.size = stop.toInt - start.toInt
          ∧ ∀ (place : Nat) (inside : place < content.size),
              (start + Int64.ofNat place).toInt = start.toInt + place
              ∧ content[place] = tape.peek (start + Int64.ofNat place)

/-- For every tape and all pairs of addresses: copying a range leaves the tape alone and gives
exactly the bytes of the range, and nothing for a reversed one, unless the difference of its ends
wraps to a width that is refused.
-/
theorem rangeLaws (tape : Tape) (start stop : Address) : tape.RangeLaws start stop where
  kept := rfl
  refused_iff := by
    rw [← rangeTooWide_iff]
    cases wide : rangeTooWide start stop <;> simp [Tape.call, range?, wide]
  reversed order admitted := by
    have narrow : rangeTooWide start stop = false := by
      cases wide : rangeTooWide start stop with
      | false => rfl
      | true => simp [Tape.call, range?, wide] at admitted
    simp only [Tape.call, range?_of_reversed order narrow]
  forward order near := by
    have below := Int64.lt_iff_toInt_lt.mp order
    have narrow : rangeTooWide start stop = false := by
      rw [← Bool.not_eq_true, rangeTooWide_iff]
      unfold maxRange
      omega
    refine ⟨tape.copyFrom start stop #[], ?_, ?_, ?_⟩
    · simp only [Tape.call, range?_eq, narrow, Bool.false_eq_true, if_false]
    · rw [size_copyFrom]
      omega
    · intro place inside
      refine ⟨?_, tape.getElem_copyFrom start stop inside⟩
      rw [size_copyFrom] at inside
      have within : start.toInt + place ≤ stop.toInt := by omega
      exact Address.toInt_add_ofNat within

/-- The range from `2 ^ 62` down to `-2 ^ 62 - 1` is reversed, and yet refused. -/
theorem reversed_range_refused
    : ((-0x4000000000000001 : Address) ≤ 0x4000000000000000)
      ∧ (({} : Tape).call (.range 0x4000000000000000 (-0x4000000000000001))).1 = .bytes none := by
  decide

end Tape

end TapeMachine
