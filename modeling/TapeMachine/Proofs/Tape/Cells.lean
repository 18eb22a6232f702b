import TapeMachine.Tape

/-! What bringing a cell into being and replacing a byte do to a tape.
Growth adds zero cells only, so it is invisible to `Tape.peek`; replacing a byte keeps both
lengths. A cell that exists is never refused and never makes the tape grow again.
-/

namespace TapeMachine

-----------------------------------------------------------------------------------------
-- Words and addresses
-----------------------------------------------------------------------------------------

/-- The next word is the next number, below the greatest one. -/
theorem toInt_succ_of_lt {word : Int64} (below : word.toInt + 1 < 0x8000000000000000)
    : (word + 1).toInt = word.toInt + 1 := by
  have lower := word.le_toInt
  rw [Int64.toInt_add, Int64.toInt_one, Int.bmod_eq_of_le (by omega) (by omega)]

/-- The word before is the number before, above the least one. -/
theorem toInt_pred_of_lt {word : Int64} (above : -0x8000000000000000 < word.toInt)
    : (word - 1).toInt = word.toInt - 1 := by
  have upper := word.toInt_lt
  rw [Int64.toInt_sub, Int64.toInt_one, Int.bmod_eq_of_le (by omega) (by omega)]

/-- The place of an address in its half is smaller than half the number of words. -/
theorem Address.index_lt (address : Address) : address.index < 0x8000000000000000 :=
  Int64.toNatClampNeg_lt _

/-- The negation of an address wraps for the least one only, and what is one less never does. -/
theorem Address.toInt_neg_sub_one (address : Address)
    : (-address - 1).toInt = -address.toInt - 1 := by
  have lower := address.le_toInt
  have upper := address.toInt_lt
  rw [Int64.toInt_sub, Int64.toInt_neg, Int64.toInt_one, Int.bmod_sub_bmod,
    Int.bmod_eq_of_le (by omega) (by omega)]

/-- The place of an address in its half as a number: the distance from the start of the half. -/
theorem Address.index_eq (address : Address)
    : (address.index : Int)
      = if address < 0 then -address.toInt - 1 else address.toInt := by
  unfold index
  split
  · rename_i below
    rw [Int64.lt_iff_toInt_lt, Int64.toInt_zero] at below
    rw [← Int64.toNat_toInt, address.toInt_neg_sub_one, Int.toNat_of_nonneg (by omega)]
  · rename_i above
    rw [Int64.lt_iff_toInt_lt, Int64.toInt_zero] at above
    rw [← Int64.toNat_toInt, Int.toNat_of_nonneg (by omega)]

/-- The place of an address lies below a limit just if the address lies between the negation of the
limit and the limit.
-/
theorem Address.index_lt_iff {address : Address} {limit : Int}
    : (address.index : Int) < limit ↔ -limit ≤ address.toInt ∧ address.toInt < limit := by
  simp only [index_eq, Int64.lt_iff_toInt_lt, Int64.toInt_zero]
  split <;> omega

-----------------------------------------------------------------------------------------
-- Growth and replaced bytes
-----------------------------------------------------------------------------------------

namespace Tape

/-- The cell at an address exists. -/
def Holds (tape : Tape) (address : Address) : Prop :=
  address.index < (tape.cells address.half).size

theorem cells_mapCells_same (tape : Tape) (half : Half) (f : Array UInt8 → Array UInt8)
    : (tape.mapCells half f).cells half = f (tape.cells half) := by
  cases half <;> rfl

theorem cells_mapCells_other (tape : Tape) {half other : Half} (differ : other ≠ half)
    (f : Array UInt8 → Array UInt8)
    : (tape.mapCells half f).cells other = tape.cells other := by
  cases half <;> cases other <;> first | rfl | exact absurd rfl differ

@[simp]
theorem limit_extend (tape : Tape) (address : Address)
    : (tape.extend address).limit = tape.limit := by
  cases half : address.half <;> simp [extend, mapCells, half]

@[simp]
theorem limit_put (tape : Tape) (address : Address) (value : UInt8)
    : (tape.put address value).limit = tape.limit := by
  cases half : address.half <;> simp [put, mapCells, half]

/-- Growth makes a half just long enough for the cell that was asked for. -/
theorem size_cells_extend (tape : Tape) (address : Address) (half : Half)
    : ((tape.extend address).cells half).size
      = if half = address.half then max (tape.cells half).size (address.index + 1)
        else (tape.cells half).size := by
  by_cases same : half = address.half
  · subst same
    simp only [extend, cells_mapCells_same, if_true]
    split
    · omega
    · simp only [Array.size_append, Array.size_replicate]
      omega
  · simp only [extend, cells_mapCells_other _ same, same, if_false]

/-- Replacing a byte keeps the lengths of both halves. -/
theorem size_cells_put (tape : Tape) (address : Address) (value : UInt8) (half : Half)
    : ((tape.put address value).cells half).size = (tape.cells half).size := by
  by_cases same : half = address.half
  · subst same
    simp only [put, cells_mapCells_same, Array.size_setIfInBounds]
  · simp only [put, cells_mapCells_other _ same]

/-- Zero cells that are added to a half read like cells that do not exist. -/
theorem peek_extend (tape : Tape) (address other : Address)
    : (tape.extend address).peek other = tape.peek other := by
  by_cases same : other.half = address.half
  · simp only [peek, extend, same, cells_mapCells_same]
    split
    · rfl
    · rw [Array.getElem?_append]
      split
      · rfl
      · rename_i beyond
        rw [Array.getElem?_replicate, Array.getElem?_eq_none (by omega)]
        split <;> rfl
  · simp only [peek, extend, cells_mapCells_other _ same]

theorem holds_extend (tape : Tape) (address : Address) : (tape.extend address).Holds address := by
  simp only [Holds, size_cells_extend, if_true]
  omega

/-- No cell goes away when the tape grows. -/
theorem Holds.extend {tape : Tape} {address : Address} (held : tape.Holds address)
    (other : Address)
    : (tape.extend other).Holds address := by
  simp only [Holds, size_cells_extend] at held ⊢
  split <;> omega

/-- No cell goes away when a byte is replaced. -/
theorem Holds.put {tape : Tape} {address : Address} (held : tape.Holds address)
    (other : Address) (value : UInt8)
    : (tape.put other value).Holds address := by
  simpa only [Holds, size_cells_put] using held

/-- The limit does not stand in the way of a cell that exists. -/
theorem Holds.not_refused {tape : Tape} {address : Address} (held : tape.Holds address)
    : tape.refuses address = false := by
  simp only [Holds] at held
  simp only [refuses, Bool.and_eq_false_iff, decide_eq_false_iff_not]
  omega

/-- Asking for a cell that exists changes nothing. -/
theorem Holds.extend_eq {tape : Tape} {address : Address} (held : tape.Holds address)
    : tape.extend address = tape := by
  simp only [Holds] at held
  cases half : address.half <;> simp only [half] at held <;>
    simp only [Tape.extend, mapCells, half, cells] at held ⊢ <;> rw [if_pos held]

/-- Reading a cell gives its byte and a tape on which it exists, unless the limit refuses it. -/
theorem get_eq (tape : Tape) (address : Address)
    : tape.get address
      = if tape.refuses address then .error ⟨address, tape.limit⟩
        else .ok (tape.peek address, tape.extend address) := by
  simp only [get, resolve]
  split
  · rfl
  · simp only [bind, Except.bind, pure, Except.pure, peek_extend]

/-- Writing a cell replaces its byte on a tape on which it exists, unless the limit refuses it. -/
theorem set_eq (tape : Tape) (address : Address) (value : UInt8)
    : tape.set address value
      = if tape.refuses address then .error ⟨address, tape.limit⟩
        else .ok ((tape.extend address).put address value) := by
  simp only [set, resolve]
  split <;> rfl

theorem refuses_of_unlimited {tape : Tape} (unlimited : tape.limit ≤ 0) (address : Address)
    : tape.refuses address = false := by
  have none : ¬0 < tape.limit := by omega
  simp [refuses, none]

/-- A tape without a limit has every cell that is asked for. -/
theorem resolve_of_unlimited {tape : Tape} (unlimited : tape.limit ≤ 0) (address : Address)
    : tape.resolve address = .ok (tape.extend address) := by
  rw [resolve, refuses_of_unlimited unlimited]
  rfl

theorem peek_blank (limit : Int) (address : Address) : ({ limit } : Tape).peek address = 0 := by
  unfold peek
  cases address.half <;> rfl

-----------------------------------------------------------------------------------------
-- Work at one cell
-----------------------------------------------------------------------------------------

/-- A tape was worked on at an address: the cell exists, and its byte may have been replaced. -/
inductive WorkedAt (tape : Tape) (address : Address) : Tape → Prop
  | grown
    : WorkedAt tape address (tape.extend address)
  | changed (value : UInt8)
    : WorkedAt tape address ((tape.extend address).put address value)

namespace WorkedAt

variable {tape next : Tape} {address : Address}

theorem limit (worked : tape.WorkedAt address next) : next.limit = tape.limit := by
  cases worked with
  | grown => exact limit_extend tape address
  | changed value => rw [limit_put, limit_extend]

/-- The cell that was worked on exists. -/
theorem holds (worked : tape.WorkedAt address next) : next.Holds address := by
  cases worked with
  | grown => exact tape.holds_extend address
  | changed value => exact (tape.holds_extend address).put address value

/-- Work at an address makes its half just long enough, and the other stays as it was. -/
theorem size_cells (worked : tape.WorkedAt address next) (half : Half)
    : (next.cells half).size
      = if half = address.half then max (tape.cells half).size (address.index + 1)
        else (tape.cells half).size := by
  cases worked with
  | grown => exact tape.size_cells_extend address half
  | changed value => rw [size_cells_put, size_cells_extend]

/-- Work at an address leaves the other half alone. -/
theorem cells_other (worked : tape.WorkedAt address next) {half : Half}
    (differ : half ≠ address.half)
    : next.cells half = tape.cells half := by
  cases worked with
  | grown => simp only [extend, cells_mapCells_other _ differ]
  | changed value => simp only [put, extend, cells_mapCells_other _ differ]

end WorkedAt

end Tape

end TapeMachine
