import TapeMachine.Machine.Snapshot
import TapeMachine.Proofs.Cbor.RoundTrip

/-! What is written of a snapshot is read back as the same snapshot.
There are two halves, which meet at the data item: the item is read back from its bytes, and the
snapshot from the fields of the item.
-/

namespace TapeMachine.Snapshot

open Cbor

-----------------------------------------------------------------------------------------
-- From the fields of an item to a snapshot
-----------------------------------------------------------------------------------------

/-- Every word fits into a word. -/
theorem word?_toInt (value : Int64) : word? value.toInt = some value := by
  have lower := value.le_toInt
  have upper := value.toInt_lt
  unfold word?
  rw [if_pos (by simp only [Bool.and_eq_true, decide_eq_true_eq]; omega), Int64.ofInt_toInt]

theorem readWord_unsigned (value : Nat) : readWord (.unsigned value) = word? value :=
  rfl

theorem readWord_negative (value : Nat) : readWord (.negative value) = word? (-1 - value) :=
  rfl

/-- A word is read back from its item, whatever its sign. -/
theorem readWord_int (value : Int64) : readWord (.int value.toInt) = some value := by
  unfold Item.int
  split
  · rename_i below
    have whole : -1 - ((-value.toInt - 1).toNat : Int) = value.toInt := by omega
    rw [readWord_negative, whole, word?_toInt]
  · rename_i above
    rw [readWord_unsigned, Int.toNat_of_nonneg (by omega), word?_toInt]

/-- Words are read back from an array of their items. -/
theorem readWords_array (values : List Int64)
    : readWords (.array (values.map fun value => .int value.toInt)) = some values := by
  rw [readWords]
  induction values with
  | nil => rfl
  | cons value rest ih => simp [readWord_int, ih]

/-- Bytes are read back, and so is their absence. -/
theorem readBytes_bytesItem (content : Option (List UInt8))
    : readBytes (bytesItem content) = some content := by
  cases content <;> rfl

/-- The names of the fields in the order in which they are written. -/
def fieldNames : List String :=
  ["pc", "addr", "skip", "loops", "steps", "program", "negative", "positive"]

/-- The names of the fields are in lower case already. -/
theorem readKey_string
    : ∀ name ∈ fieldNames, readKey (.string name) = some (some name.toUTF8.toList) := by
  decide +kernel

/-- A field that comes first is found. -/
theorem field_cons_same (name : String) (item : Item)
    (rest : List (Option (List UInt8) × Item))
    : field ((some name.toUTF8.toList, item) :: rest) name = item := by
  simp [field]

/-- No two fields have names with the same bytes. -/
theorem fieldNames_distinct
    : ∀ name ∈ fieldNames, ∀ other ∈ fieldNames,
        name ≠ other
        → other.toUTF8.toList ≠ name.toUTF8.toList := by
  decide +kernel

/-- A field with another name is passed over. -/
theorem field_cons_other {name other : String} (known : name ∈ fieldNames)
    (otherKnown : other ∈ fieldNames) (differ : name ≠ other) (item : Item)
    (rest : List (Option (List UInt8) × Item))
    : field ((some other.toUTF8.toList, item) :: rest) name = field rest name := by
  have bytes := fieldNames_distinct name known other otherKnown differ
  have passed : (some other.toUTF8.toList == some name.toUTF8.toList) = false := by
    simpa using bytes
  simp only [field, List.find?_cons, passed]

/-- A snapshot is read back from its fields. -/
theorem ofItem_toItem (s : Snapshot) : ofItem s.toItem = some s := by
  simp (disch := decide) only [toItem, ofItem, ofEntries, List.mapM_cons, List.mapM_nil,
    readKey_string, Option.map_some, Option.pure_def, Option.bind_eq_bind, Option.bind_some,
    field_cons_same, field_cons_other, readWord_int, readBytes_bytesItem, readWords_array]

-----------------------------------------------------------------------------------------
-- From bytes to an item
-----------------------------------------------------------------------------------------

/-- A snapshot is small enough to be written and read: the loops are no more than an array may
hold, and the number of bytes of each string is a word.
-/
structure Storable (s : Snapshot) : Prop where
  loops : s.loops.length ≤ maxElements
  program : (s.program.getD []).length < 0x10000000000000000
  positive : (s.positive.getD []).length < 0x10000000000000000
  negative : (s.negative.getD []).length < 0x10000000000000000

section Fields

variable (inner : Option (Reader Item))

theorem reads_word (value : Int64) : Reads (readItem inner) (.int value.toInt) := by
  have lower := value.le_toInt
  have upper := value.toInt_lt
  exact reads_int inner (by omega) (by omega)

theorem reads_bytesItem {content : Option (List UInt8)}
    (fits : (content.getD []).length < 0x10000000000000000)
    : Reads (readItem inner) (bytesItem content) := by
  cases content with
  | none => exact reads_null inner
  | some content => exact reads_bytes inner fits

theorem reads_name
    : ∀ name ∈ fieldNames, Reads (readItem inner) (.string name) := by
  intro name known
  have short : ∀ name ∈ fieldNames, name.toUTF8.toList.length < 0x10000000000000000 := by
    decide +kernel
  exact reads_text inner (short name known)

theorem reads_loops (inner : Option (Reader Item)) {loops : List Int64}
    (few : loops.length ≤ maxElements)
    : Reads (readItem (some (readItem inner)))
        (.array (loops.map fun start => .int start.toInt)) := by
  refine reads_array (by simpa using few) ?_
  intro item member
  obtain ⟨start, _, rfl⟩ := List.mem_map.mp member
  exact reads_word inner start

end Fields

/-- The item of a snapshot is read back from its bytes. -/
theorem reads_toItem {s : Snapshot} (storable : s.Storable)
    : Reads (readNested maxLevels) s.toItem := by
  have name (text : String) (known : text ∈ fieldNames)
      : Reads (readNested 31) (.string text) :=
    reads_name _ text known
  refine reads_map (show 8 ≤ maxElements by decide) ?_
  simp only [List.forall_mem_cons, List.not_mem_nil, false_implies, implies_true, and_true]
  exact ⟨⟨name _ (by decide), reads_word _ _⟩, ⟨name _ (by decide), reads_word _ _⟩,
    ⟨name _ (by decide), reads_word _ _⟩, ⟨name _ (by decide), reads_loops _ storable.loops⟩,
    ⟨name _ (by decide), reads_word _ _⟩,
    ⟨name _ (by decide), reads_bytesItem _ storable.program⟩,
    ⟨name _ (by decide), reads_bytesItem _ storable.negative⟩,
    ⟨name _ (by decide), reads_bytesItem _ storable.positive⟩⟩

/-- A snapshot that is small enough is read back from its bytes. -/
theorem decode_encode {s : Snapshot} (storable : s.Storable) : decode s.encode = some s := by
  have read := reads_toItem storable []
  rw [List.append_nil] at read
  simp only [decode, encode, Cbor.decode, read, Option.bind_some, ofItem_toItem]

end TapeMachine.Snapshot
