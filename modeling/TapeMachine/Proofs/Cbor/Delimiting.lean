import TapeMachine.Proofs.Cbor.RoundTrip

/-! Where an item ends is decided by its own bytes. A reader that gives an item gives the same item
when more bytes follow, whatever forms the item is written in, so the bytes of an item that is
read hold no shorter one. With the canonical form this makes items self-delimiting: bytes that are
cut off and bytes that go on hold no item.
-/

namespace TapeMachine.Cbor

-----------------------------------------------------------------------------------------
-- Readers do not look behind what they read
-----------------------------------------------------------------------------------------

/-- What a reader gives does not depend on the bytes that it leaves: with more bytes behind them it
gives the same and leaves those as well.
-/
def Stable {α : Type} (reader : Reader α) : Prop :=
  ∀ ⦃bytes value rest⦄,
    reader bytes = some (value, rest)
    → ∀ more, reader (bytes ++ more) = some (value, rest ++ more)

section Combinators

variable {α β : Type}

/-- A reader that gives nothing is stable. -/
theorem stable_none : Stable fun _ => (none : Option (α × List UInt8)) := by
  intro bytes value rest read
  cases read

/-- A reader that takes no bytes is stable. -/
theorem stable_pure (value : α) : Stable fun bytes => some (value, bytes) := by
  intro bytes found rest read more
  cases read
  rfl

/-- A choice that does not depend on the bytes is stable if both sides are. -/
theorem Stable.ite {yes no : Reader α} (condition : Prop) [Decidable condition]
    (stable : Stable yes) (other : Stable no)
    : Stable fun bytes => if condition then yes bytes else no bytes := by
  by_cases holds : condition
  · simpa only [holds, if_true] using stable
  · simpa only [holds, if_false] using other

/-- Readers one after the other are stable if each of them is. -/
theorem Stable.andThen {first : Reader α} {second : α → Reader β} (stable : Stable first)
    (each : ∀ value, Stable (second value))
    : Stable fun bytes => (first bytes).bind fun found => second found.1 found.2 := by
  intro bytes value rest read more
  obtain ⟨⟨found, middle⟩, before, behind⟩ := Option.bind_eq_some_iff.mp read
  simp only [stable before more, Option.bind_some]
  exact each found behind more

/-- A reader whose result is changed afterwards is stable if it was before. -/
theorem Stable.map {reader : Reader α} (stable : Stable reader) (f : α → β)
    : Stable fun bytes => (reader bytes).map fun found => (f found.1, found.2) := by
  intro bytes value rest read more
  obtain ⟨⟨found, left⟩, before, same⟩ := Option.map_eq_some_iff.mp read
  obtain ⟨rfl, rfl⟩ := Prod.mk.inj same
  simp only [stable before more, Option.map_some]

end Combinators

/-- The bytes of a number are followed by anything. -/
theorem stable_readNumber (width number : Nat) : Stable (readNumber width number) := by
  induction width generalizing number with
  | zero => exact stable_pure number
  | succ width ih =>
      intro bytes value rest read more
      cases bytes with
      | nil => cases read
      | cons byte bytes => exact ih (number * 256 + byte.toNat) read more

/-- A head of any form is followed by anything, by the forms of heads. -/
theorem stable_readHead : Stable readHead := by
  intro bytes value rest read more
  cases bytes with
  | nil => cases read
  | cons first bytes =>
      have following (width : Nat)
          : Stable fun bytes => (readNumber width 0 bytes).map fun found =>
              ((first.toNat / 32, Argument.stated width found.1), found.2) :=
        (stable_readNumber width 0).map fun found =>
          (first.toNat / 32, Argument.stated width found)
      have behind : Stable fun bytes => readHead (first :: bytes) :=
        .ite _ (stable_pure _) <| .ite _ (following 1) <| .ite _ (following 2)
          <| .ite _ (following 4) <| .ite _ (following 8) <| .ite _ (stable_pure _) stable_none
      exact behind read more

theorem stable_readBytes (count : Nat) : Stable (readBytes count) := by
  intro bytes value rest read more
  unfold readBytes at read ⊢
  dsimp only at read ⊢
  split at read
  · rename_i enough
    cases read
    have reaches : count ≤ bytes.length := by
      rw [List.length_take] at enough
      omega
    rw [List.take_append_of_le_length reaches, List.drop_append_of_le_length reaches,
      if_pos enough]
  · cases read

/-- Reads elements up to the break byte. The first argument bounds their number. -/
def readToBreak {α : Type} (element : Reader α) : Nat → Reader (List α)
  | 0, _ => none
  | _ + 1, [] => none
  | fuel + 1, byte :: rest =>
    if byte = breakByte then some ([], rest)
    else
      (element (byte :: rest)).bind fun first =>
        (readToBreak element fuel first.2).bind fun others =>
          some (first.1 :: others.1, others.2)

/-- The bound may grow with the bytes, by induction on the bound. -/
theorem readToBreak_append {α : Type} {element : Reader α} (stable : Stable element)
    {fuel : Nat}
    : ∀ {bytes rest values},
        readToBreak element fuel bytes = some (values, rest)
        → ∀ {enough : Nat}, fuel ≤ enough
        → ∀ more, readToBreak element enough (bytes ++ more) = some (values, rest ++ more) := by
  induction fuel with
  | zero => exact fun read => by cases read
  | succ fuel ih =>
      intro bytes rest values read enough grows more
      cases enough with
      | zero => cases grows
      | succ enough =>
          cases bytes with
          | nil => cases read
          | cons byte bytes =>
              simp only [readToBreak, List.cons_append] at read ⊢
              split at read
              · rename_i ends
                cases read
                rw [if_pos ends]
              · rename_i goesOn
                obtain ⟨⟨first, middle⟩, before, read⟩ := Option.bind_eq_some_iff.mp read
                obtain ⟨⟨others, left⟩, behind, same⟩ := Option.bind_eq_some_iff.mp read
                cases same
                have later := ih behind (Nat.le_of_succ_le_succ grows) more
                rw [if_neg goesOn, ← List.cons_append, stable before more, Option.bind_some,
                  later, Option.bind_some]

/-- Elements of an open length are followed by anything: there are bytes enough to bound their
number.
-/
theorem stable_toBreak {α : Type} {element : Reader α} (stable : Stable element)
    : Stable fun bytes => readToBreak element (bytes.length + 1) bytes :=
  fun _ _ _ read more =>
    readToBreak_append stable read (by simp only [List.length_append]; omega) more

/-- Reads a piece of a string of open length behind its head. -/
def readPieceBehind (major : Nat) : Nat × Argument → Reader (List UInt8)
  | (_, .open_), _ => none
  | (pieceMajor, .stated _ length), bytes =>
    if pieceMajor ≠ major then none else readBytes length bytes

/-- Reads a piece of a string of open length. -/
def readPiece (major : Nat) : Reader (List UInt8) := fun bytes =>
  (readHead bytes).bind fun found => readPieceBehind major found.1 found.2

theorem stable_readPiece (major : Nat) : Stable (readPiece major) := by
  refine stable_readHead.andThen fun head => ?_
  obtain ⟨pieceMajor, _ | length⟩ := head
  · exact .ite _ stable_none (stable_readBytes _)
  · exact stable_none

/-- Pieces are elements up to the break byte. -/
theorem readPieces_eq (major fuel : Nat)
    : readPieces major fuel = readToBreak (readPiece major) fuel := by
  induction fuel with
  | zero => rfl
  | succ fuel ih =>
      funext bytes
      cases bytes with
      | nil => rfl
      | cons byte bytes =>
          simp only [readPieces, readToBreak, readPiece, ih, Option.bind_eq_bind]
          rcases readHead (byte :: bytes) with _ | ⟨⟨pieceMajor, _ | length⟩, behind⟩
          · rfl
          · simp only [Option.bind_some, readPieceBehind]
            by_cases same : pieceMajor = major
            · simp only [same, ne_eq, not_true_eq_false, if_false]
              rfl
            · simp only [same, ne_eq, not_false_eq_true, if_true]
              rfl
          · rfl

/-- So are items. -/
theorem readItemsToBreak_eq (item : Reader Item) (fuel : Nat)
    : readItemsToBreak item fuel = readToBreak item fuel := by
  induction fuel with
  | zero => rfl
  | succ fuel ih =>
      funext bytes
      cases bytes with
      | nil => rfl
      | cons byte bytes =>
          simp only [readItemsToBreak, readToBreak, ih]
          rfl

theorem stable_readItems {reader : Reader Item} (stable : Stable reader) (count : Nat)
    : Stable (readItems reader count) := by
  induction count with
  | zero => exact stable_pure []
  | succ count ih =>
      exact stable.andThen fun first => ih.andThen fun others => stable_pure (first :: others)

/-- What an array or a map holds is followed by anything, whether its length is stated or open. -/
theorem stable_readElements {reader : Reader Item} (stable : Stable reader) (perEntry : Nat)
    (argument : Argument)
    : Stable (readElements reader perEntry argument) := by
  cases argument with
  | stated width count => exact .ite _ stable_none (stable_readItems stable _)
  | open_ =>
      have items : Stable fun bytes => readItemsToBreak reader (bytes.length + 1) bytes := by
        simp only [readItemsToBreak_eq]
        exact stable_toBreak stable
      exact items.andThen fun items =>
        .ite (maxElements * perEntry < items.length) stable_none (stable_pure items)

/-- An item without a tag is followed by anything, by the major types. -/
theorem stable_readUntagged {inner : Option (Reader Item)}
    (stable : ∀ reader ∈ inner, Stable reader)
    : Stable (readUntagged inner) := by
  have pieces (major : Nat) : Stable fun bytes => readPieces major (bytes.length + 1) bytes := by
    simp only [readPieces_eq]
    exact stable_toBreak (stable_readPiece major)
  intro bytes value rest read more
  unfold readUntagged at read ⊢
  obtain ⟨⟨⟨major, argument⟩, behind⟩, before, read⟩ := Option.bind_eq_some_iff.mp read
  rw [stable_readHead before more]
  simp only [Option.bind_eq_bind, Option.bind_some] at read ⊢
  split at read
  · exact stable_pure _ read more
  · exact stable_pure _ read more
  · exact (stable_readBytes _).andThen (fun content => stable_pure (Item.bytes content)) read more
  · exact (pieces 2).andThen (fun pieces => stable_pure (Item.bytes pieces.flatten)) read more
  · exact (stable_readBytes _).andThen (fun content => stable_pure (Item.text [content])) read more
  · exact (pieces 3).andThen (fun pieces => stable_pure (Item.text pieces)) read more
  · obtain ⟨reader, present, read⟩ := Option.bind_eq_some_iff.mp read
    have elements := stable_readElements (stable reader present) 1 argument
    rw [present]
    exact elements.andThen (fun items => stable_pure (Item.array items)) read more
  · obtain ⟨reader, present, read⟩ := Option.bind_eq_some_iff.mp read
    have elements := stable_readElements (stable reader present) 2 argument
    have entries (items : List Item)
        : Stable fun bytes => (pairUp items).bind fun entries => some (Item.map entries, bytes) := by
      cases pairUp items with
      | none => exact stable_none
      | some entries => exact stable_pure _
    rw [present]
    exact elements.andThen entries read more
  · exact stable_pure _ read more
  · exact Stable.ite _ stable_none (stable_pure _) read more
  · exact stable_pure _ read more
  · cases read

/-- A choice by what comes next is stable if both sides are, provided that something comes. -/
theorem Stable.ifTagged {yes no : Reader Item} (stable : Stable yes) (other : Stable no)
    (empty : no [] = none)
    : Stable fun bytes => if startsTag bytes then yes bytes else no bytes := by
  intro bytes value rest read more
  cases bytes with
  | nil =>
      have nothing : no [] = some (value, rest) := read
      rw [empty] at nothing
      cases nothing
  | cons first bytes =>
      have both : Stable fun behind => if startsTag (first :: bytes) then yes behind else no behind :=
        .ite _ stable other
      exact both read more

/-- An item is followed by anything, whether it is tagged or not. -/
theorem stable_readItem {inner : Option (Reader Item)}
    (stable : ∀ reader ∈ inner, Stable reader)
    : Stable (readItem inner) := by
  have untagged := stable_readUntagged stable
  have nested : Stable fun bytes => inner.bind (· bytes) := by
    cases inner with
    | none => exact stable_none
    | some reader => exact stable reader rfl
  refine Stable.ifTagged (fun bytes value rest read more => ?_) untagged rfl
  obtain ⟨⟨⟨major, argument⟩, behind⟩, before, read⟩ := Option.bind_eq_some_iff.mp read
  rw [stable_readHead before more]
  simp only [Option.bind_eq_bind, Option.bind_some] at read ⊢
  cases argument with
  | open_ => cases read
  | stated width number =>
      have tag (content : Item) := stable_pure (Item.tag number content)
      exact (nested.andThen tag).ifTagged (untagged.andThen tag) rfl read more

/-- Items are followed by anything, however deep they are nested; by induction on the levels. -/
theorem stable_readNested (levels : Nat) : Stable (readNested levels) := by
  induction levels with
  | zero => exact stable_readItem fun _ member => by cases member
  | succ levels ih =>
      refine stable_readItem fun reader member => ?_
      obtain rfl := Option.mem_some_iff.mp member
      exact ih

-----------------------------------------------------------------------------------------
-- Items in canonical form
-----------------------------------------------------------------------------------------

/-- A reader takes exactly the bytes of an item, if it gives anything at all. -/
def Delimits (reader : Reader Item) (item : Item) : Prop :=
  ∀ ⦃more value rest⦄,
    reader (item.encode ++ more) = some (value, rest)
    → value = item ∧ rest = more

/-- An item that is read back takes its bytes. -/
theorem Reads.delimits {reader : Reader Item} {item : Item} (reads : Reads reader item)
    : Delimits reader item := by
  intro more value rest read
  obtain ⟨rfl, rfl⟩ := Prod.mk.inj (Option.some.inj ((reads more).symm.trans read))
  exact ⟨rfl, rfl⟩

/-- Items take their bytes one after the other, by induction on their number. -/
theorem delimits_items {reader : Reader Item} {items : List Item}
    (each : ∀ item ∈ items, Delimits reader item)
    : ∀ {more values rest},
        readItems reader items.length (encodeAll items ++ more) = some (values, rest)
        → values = items ∧ rest = more := by
  induction items with
  | nil =>
      intro more values rest read
      cases read
      exact ⟨rfl, rfl⟩
  | cons item others ih =>
      intro more values rest read
      obtain ⟨delimits, later⟩ := List.forall_mem_cons.mp each
      rw [encodeAll, List.append_assoc] at read
      obtain ⟨⟨first, middle⟩, before, read⟩ := Option.bind_eq_some_iff.mp read
      obtain ⟨⟨found, left⟩, behind, same⟩ := Option.bind_eq_some_iff.mp read
      obtain ⟨rfl, rfl⟩ := delimits before
      obtain ⟨rfl, rfl⟩ := ih later behind
      cases same
      exact ⟨rfl, rfl⟩

/-- Elements of a stated number take their bytes or are too many. -/
theorem delimits_elements {reader : Reader Item} {items : List Item} {perEntry width count : Nat}
    (number : items.length = count * perEntry) (each : ∀ item ∈ items, Delimits reader item)
    {more : List UInt8} {values : List Item} {rest : List UInt8}
    (read
      : readElements reader perEntry (.stated width count) (encodeAll items ++ more)
        = some (values, rest))
    : values = items ∧ rest = more := by
  simp only [readElements, ← number] at read
  split at read
  · cases read
  · exact delimits_items each read

/-- An array takes its bytes if its items do, however many they are. -/
theorem delimits_array {reader : Reader Item} {items : List Item}
    (word : items.length < 0x10000000000000000) (each : ∀ item ∈ items, Delimits reader item)
    : Delimits (readItem (some reader)) (.array items) := by
  intro more value rest read
  rw [Item.encode, List.append_assoc, readItem_head _ (by decide) (by decide), readUntagged,
    readHead_head (by decide) word] at read
  simp only [Option.bind_eq_bind, Option.bind_some] at read
  obtain ⟨⟨values, left⟩, elements, same⟩ := Option.bind_eq_some_iff.mp read
  obtain ⟨rfl, rfl⟩ := delimits_elements (Nat.mul_one _).symm each elements
  cases same
  exact ⟨rfl, rfl⟩

/-- A map takes its bytes if its keys and values do. -/
theorem delimits_map {reader : Reader Item} {entries : List (Item × Item)}
    (word : entries.length < 0x10000000000000000)
    (each : ∀ entry ∈ entries, Delimits reader entry.1 ∧ Delimits reader entry.2)
    : Delimits (readItem (some reader)) (.map entries) := by
  intro more value rest read
  rw [Item.encode, encodeEntries_eq, List.append_assoc, readItem_head _ (by decide) (by decide),
    readUntagged, readHead_head (by decide) word] at read
  simp only [Option.bind_eq_bind, Option.bind_some] at read
  obtain ⟨⟨values, left⟩, elements, same⟩ := Option.bind_eq_some_iff.mp read
  have all := forall_mem_flatEntries each
  obtain ⟨rfl, rfl⟩ := delimits_elements (length_flatEntries entries) all elements
  rw [pairUp_flatEntries] at same
  cases same
  exact ⟨rfl, rfl⟩

-----------------------------------------------------------------------------------------
-- Bytes that are cut off or go on
-----------------------------------------------------------------------------------------

/-- The bytes of an item without its last ones hold no item: a reader that gave one would give it
from all the bytes and leave some of them.
-/
theorem decode_of_cut {item : Item} (delimits : Delimits (readNested maxLevels) item)
    {front missing : List UInt8} (whole : front ++ missing = item.encode) (lacks : missing ≠ [])
    : decode front = none := by
  unfold decode
  split
  · rename_i value read
    have extended := stable_readNested maxLevels read missing
    rw [whole, ← item.encode.append_nil] at extended
    exact absurd (delimits extended).2 (by simpa using lacks)
  · rfl

/-- The bytes of an item with more behind them hold no item, as the reader leaves what is behind
them.
-/
theorem decode_of_surplus {item : Item} (delimits : Delimits (readNested maxLevels) item)
    {more : List UInt8} (some : more ≠ [])
    : decode (item.encode ++ more) = none := by
  unfold decode
  split
  · rename_i read
    exact absurd (delimits read).2.symm some
  · rfl

end TapeMachine.Cbor
