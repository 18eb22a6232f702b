import TapeMachine.Cbor.Decode

/-! Reading back what was written, in the form that composes: a reader gives the item and leaves
whatever stands behind it. Heads are read back for every argument that is a word; items are read
back one kind at a time, arrays and maps from what is known of their elements.
-/

namespace TapeMachine.Cbor

-----------------------------------------------------------------------------------------
-- Heads
-----------------------------------------------------------------------------------------

/-- The bytes of a number are read back behind the digits that were read before. -/
theorem readNumber_bigEndian (width number before : Nat) (rest : List UInt8)
    : readNumber width before (bigEndian width number ++ rest)
      = some (before * Nat.pow 256 width + number % Nat.pow 256 width, rest) := by
  induction width generalizing before with
  | zero => simp [readNumber, bigEndian, Nat.mod_one]
  | succ width ih =>
      have digit
          : (UInt8.ofNat (number / Nat.pow 256 width)).toNat
            = number / Nat.pow 256 width % 256 := rfl
      have longer : Nat.pow 256 (width + 1) = Nat.pow 256 width * 256 := rfl
      simp only [bigEndian, List.cons_append, readNumber, ih, digit, longer]
      generalize Nat.pow 256 width = power
      rw [Nat.add_mul, Nat.mul_assoc, Nat.add_assoc, Nat.mul_comm 256 power, Nat.mod_mul,
        Nat.add_comm (number % power), Nat.mul_comm power (_ % 256)]

/-- The number of bytes behind the first one of a head. -/
def headWidth (argument : Nat) : Nat :=
  if argument < 24 then 0
  else if argument < 0x100 then 1
  else if argument < 0x10000 then 2
  else if argument < 0x100000000 then 4
  else 8

/-- The first byte of a head holds the major type and five more bits. -/
theorem toNat_firstByte {major low : Nat} (isMajor : major < 8) (isLow : low < 32)
    : (UInt8.ofNat (major * 32 + low)).toNat = major * 32 + low := by
  change (major * 32 + low) % 256 = _
  omega

/-- A head that announces a number of bytes is read with them. -/
theorem readHead_following {major low width argument : Nat} (isMajor : major < 8)
    (form : (low = 24 ∧ width = 1) ∨ (low = 25 ∧ width = 2)
      ∨ (low = 26 ∧ width = 4) ∨ (low = 27 ∧ width = 8))
    (fits : argument < Nat.pow 256 width) (rest : List UInt8)
    : readHead (UInt8.ofNat (major * 32 + low) :: bigEndian width argument ++ rest)
      = some ((major, .stated width argument), rest) := by
  have first := @toNat_firstByte major low isMajor (by omega)
  have high : (major * 32 + low) / 32 = major := by omega
  have bits : (major * 32 + low) % 32 = low := by omega
  have number := readNumber_bigEndian width argument 0 rest
  rw [Nat.zero_mul, Nat.zero_add, Nat.mod_eq_of_lt fits] at number
  simp only [List.cons_append, readHead, first, high, bits]
  rcases form with ⟨rfl, rfl⟩ | ⟨rfl, rfl⟩ | ⟨rfl, rfl⟩ | ⟨rfl, rfl⟩ <;> simp [number]

/-- Every head whose argument is a word is read back. -/
theorem readHead_head {major argument : Nat} (isMajor : major < 8)
    (fits : argument < 0x10000000000000000) (rest : List UInt8)
    : readHead (head major argument ++ rest)
      = some ((major, .stated (headWidth argument) argument), rest) := by
  unfold head headWidth
  split
  · rename_i small
    have high : (major * 32 + argument) / 32 = major := by omega
    have bits : (major * 32 + argument) % 32 = argument := by omega
    simp only [List.cons_append, List.nil_append, readHead,
      toNat_firstByte isMajor (show argument < 32 by omega), high, bits, small, if_true]
  split
  · exact readHead_following isMajor (by decide) (show argument < 0x100 by omega) rest
  split
  · exact readHead_following isMajor (by decide) (show argument < 0x10000 by omega) rest
  split
  · exact readHead_following isMajor (by decide) (show argument < 0x100000000 by omega) rest
  · exact readHead_following isMajor (by decide) fits rest

/-- Only heads of the sixth major type start a tag. -/
theorem startsTag_head {major : Nat} (isMajor : major < 8) (argument : Nat)
    (rest : List UInt8)
    : startsTag (head major argument ++ rest) = (major == 6) := by
  have starts {low : Nat} (isLow : low < 32) (more : List UInt8)
      : startsTag (UInt8.ofNat (major * 32 + low) :: more) = (major == 6) := by
    have high : (major * 32 + low) / 32 = major := by omega
    simp only [startsTag, toNat_firstByte isMajor isLow, high]
  unfold head
  split
  · exact starts (by omega) _
  split
  · exact starts (by omega) _
  split
  · exact starts (by omega) _
  split
  · exact starts (by omega) _
  · exact starts (by omega) _

-----------------------------------------------------------------------------------------
-- Items
-----------------------------------------------------------------------------------------

/-- A reader gives an item back from its bytes and leaves what stands behind them. -/
def Reads (reader : Reader Item) (item : Item) : Prop :=
  ∀ rest, reader (item.encode ++ rest) = some (item, rest)

/-- Bytes are read back by their number. -/
theorem readBytes_append (content rest : List UInt8)
    : readBytes content.length (content ++ rest) = some (content, rest) := by
  simp [readBytes]

/-- An item that begins with the head of another major type than tags is read as such. -/
theorem readItem_head (inner : Option (Reader Item)) {major argument : Nat}
    (isMajor : major < 8) (untagged : major ≠ 6) (rest : List UInt8)
    : readItem inner (head major argument ++ rest)
      = readUntagged inner (head major argument ++ rest) := by
  have plain : (major == 6) = false := by simpa using untagged
  simp only [readItem, startsTag_head isMajor, plain, Bool.false_eq_true, if_false]

section Kinds

variable (inner : Option (Reader Item))

theorem reads_unsigned {value : Nat} (fits : value < 0x10000000000000000)
    : Reads (readItem inner) (.unsigned value) := by
  intro rest
  rw [Item.encode, readItem_head inner (by decide) (by decide)]
  simp [readUntagged, readHead_head (show 0 < 8 by decide) fits]

theorem reads_negative {value : Nat} (fits : value < 0x10000000000000000)
    : Reads (readItem inner) (.negative value) := by
  intro rest
  rw [Item.encode, readItem_head inner (by decide) (by decide)]
  simp [readUntagged, readHead_head (show 1 < 8 by decide) fits]

theorem reads_bytes {content : List UInt8} (fits : content.length < 0x10000000000000000)
    : Reads (readItem inner) (.bytes content) := by
  intro rest
  rw [Item.encode, List.append_assoc, readItem_head inner (by decide) (by decide)]
  simp [readUntagged, readHead_head (show 2 < 8 by decide) fits, readBytes_append]

/-- A text in one piece is read back. -/
theorem reads_text {piece : List UInt8} (fits : piece.length < 0x10000000000000000)
    : Reads (readItem inner) (.text [piece]) := by
  intro rest
  have whole : [piece].flatten = piece := by simp
  rw [Item.encode, whole, List.append_assoc, readItem_head inner (by decide) (by decide)]
  simp [readUntagged, readHead_head (show 3 < 8 by decide) fits, readBytes_append]

theorem reads_null : Reads (readItem inner) .null := by
  intro rest
  rw [Item.null, Item.encode, readItem_head inner (by decide) (by decide)]
  simp [readUntagged, headWidth,
    readHead_head (show 7 < 8 by decide) (show 22 < 0x10000000000000000 by decide)]

/-- A signed number is read back if it is a word or one bit longer. -/
theorem reads_int {value : Int} (lower : -0x10000000000000000 ≤ value)
    (upper : value < 0x10000000000000000)
    : Reads (readItem inner) (.int value) := by
  unfold Item.int
  split
  · exact reads_negative inner (by omega)
  · exact reads_unsigned inner (by omega)

end Kinds

/-- Items that are read back one by one are read back together. -/
theorem readItems_encodeAll {reader : Reader Item} {items : List Item}
    (each : ∀ item ∈ items, Reads reader item) (rest : List UInt8)
    : readItems reader items.length (encodeAll items ++ rest) = some (items, rest) := by
  induction items with
  | nil => rfl
  | cons first others ih =>
      have head := each first (by simp)
      have later := ih (fun item member => each item (by simp [member]))
      simp only [encodeAll, List.length_cons, readItems, List.append_assoc]
      rw [head]
      simp [later]

/-- The keys and values of a map, one after the other. -/
def flatEntries (entries : List (Item × Item)) : List Item :=
  entries.flatMap fun entry => [entry.1, entry.2]

/-- The bytes of entries are those of their keys and values. -/
theorem encodeEntries_eq (entries : List (Item × Item))
    : encodeEntries entries = encodeAll (flatEntries entries) := by
  induction entries with
  | nil => rfl
  | cons entry others ih =>
      simp only [encodeEntries, ih, flatEntries, List.flatMap_cons, List.cons_append,
        List.nil_append, encodeAll, List.append_assoc]

/-- Keys and values are paired up again. -/
theorem pairUp_flatEntries (entries : List (Item × Item))
    : pairUp (flatEntries entries) = some entries := by
  induction entries with
  | nil => rfl
  | cons entry others ih =>
      simp only [flatEntries, List.flatMap_cons, List.cons_append, List.nil_append, pairUp]
      rw [show others.flatMap (fun entry => [entry.1, entry.2]) = flatEntries others from rfl, ih]
      rfl

theorem length_flatEntries (entries : List (Item × Item))
    : (flatEntries entries).length = entries.length * 2 := by
  simp only [flatEntries, List.length_flatMap, List.length_cons, List.length_nil,
    List.map_const', List.sum_replicate_nat]

/-- What holds of all keys and values holds of each of them. -/
theorem forall_mem_flatEntries {motive : Item → Prop} {entries : List (Item × Item)}
    (each : ∀ entry ∈ entries, motive entry.1 ∧ motive entry.2)
    : ∀ item ∈ flatEntries entries, motive item := by
  intro item member
  obtain ⟨entry, inside, which⟩ := List.mem_flatMap.mp member
  simp only [List.mem_cons, List.not_mem_nil, or_false] at which
  rcases which with rfl | rfl
  · exact (each entry inside).1
  · exact (each entry inside).2

/-- An array is read back if its items are and there are not too many. -/
theorem reads_array {reader : Reader Item} {items : List Item}
    (few : items.length ≤ maxElements) (each : ∀ item ∈ items, Reads reader item)
    : Reads (readItem (some reader)) (.array items) := by
  intro rest
  have fits : items.length < 0x10000000000000000 := by
    unfold maxElements at few
    omega
  rw [Item.encode, List.append_assoc, readItem_head _ (by decide) (by decide)]
  simp [readUntagged, readHead_head (show 4 < 8 by decide) fits, readElements,
    Nat.not_lt.mpr few, readItems_encodeAll each]

/-- A map is read back if its keys and values are and there are not too many. -/
theorem reads_map {reader : Reader Item} {entries : List (Item × Item)}
    (few : entries.length ≤ maxElements)
    (each : ∀ entry ∈ entries, Reads reader entry.1 ∧ Reads reader entry.2)
    : Reads (readItem (some reader)) (.map entries) := by
  intro rest
  have fits : entries.length < 0x10000000000000000 := by
    unfold maxElements at few
    omega
  have count := length_flatEntries entries
  have all := forall_mem_flatEntries each
  have elements := readItems_encodeAll all rest
  rw [count] at elements
  rw [Item.encode, encodeEntries_eq, List.append_assoc,
    readItem_head _ (by decide) (by decide)]
  simp [readUntagged, readHead_head (show 5 < 8 by decide) fits, readElements,
    Nat.not_lt.mpr few, elements, pairUp_flatEntries]

end TapeMachine.Cbor
