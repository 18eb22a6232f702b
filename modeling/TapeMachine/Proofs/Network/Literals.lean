import Mathlib.Data.List.Forall2
import Mathlib.Data.Nat.Digits.Defs
import TapeMachine.Network.IpAddress
import TapeMachine.Proofs.Text.Splitting

/-! What texts denote internet addresses, said by a grammar.
A short address is four numbers with points between them; a long one is groups of hexadecimal digits
with colons between them, the last two of which may be written as a short address, and some of which
may be left out at a double colon. The reader of addresses finds exactly what the grammar says.
-/

namespace TapeMachine.Network.IpAddress

-----------------------------------------------------------------------------------------
-- The grammar
-----------------------------------------------------------------------------------------

/-- Decimal digits write a byte, as short as can be. -/
structure WritesByte (digits : List Char) (value : Nat) : Prop where
  small : value < 256
  plain : digits = Nat.toDigits 10 value

/-- Four bytes are written with points between them. -/
inductive WritesBytes : List Char → Nat → Nat → Nat → Nat → Prop
  | mk {first second third fourth a b c d} (one : WritesByte first a) (two : WritesByte second b)
    (three : WritesByte third c) (four : WritesByte fourth d)
    : WritesBytes (first ++ '.' :: (second ++ '.' :: (third ++ '.' :: fourth))) a b c d

/-- A hexadecimal digit writes a number, as a small letter or a capital one if it is a letter. -/
structure WritesDigit (c : Char) (value : Nat) : Prop where
  small : value < 16
  digit : c = Nat.digitChar value ∨ c = (Nat.digitChar value).toUpper

/-- One to four hexadecimal digits write a group, the most significant first. -/
structure WritesGroup (digits : List Char) (value : Nat) : Prop where
  nonempty : digits ≠ []
  short : digits.length ≤ 4
  value : ∃ values, List.Forall₂ WritesDigit digits values ∧ value = Nat.ofDigits 16 values.reverse

/-- Groups are written with colons between them. Where the text may end, the last two may be written
as a short address.
-/
inductive WritesGroups (mayEnd : Bool) : List Char → List Nat → Prop
  | last {digits value} (group : WritesGroup digits value)
    : WritesGroups mayEnd digits [value]
  | bytes {chars a b c d} (ends : mayEnd = true) (short : WritesBytes chars a b c d)
    : WritesGroups mayEnd chars [a * 256 + b, c * 256 + d]
  | more {digits value chars groups} (group : WritesGroup digits value)
    (others : WritesGroups mayEnd chars groups)
    : WritesGroups mayEnd (digits ++ ':' :: chars) (value :: groups)

/-- What stands on one side of a double colon: groups, or nothing. -/
inductive WritesSide (mayEnd : Bool) : List Char → List Nat → Prop
  | nothing
    : WritesSide mayEnd [] []
  | groups {chars groups} (row : WritesGroups mayEnd chars groups)
    : WritesSide mayEnd chars groups

/-- A text denotes a long address: with all its groups, or with a double colon for groups that are
zero, of which there is one at least.
-/
inductive DenotesLong : List Char → IpAddress → Prop
  | all {chars groups} (row : WritesGroups true chars groups) (eight : groups.length = 8)
    : DenotesLong chars (ofGroups groups)
  | shortened {front back high low} (before : WritesSide false front high)
    (behind : WritesSide true back low) (fewer : high.length + low.length ≤ 7)
    : DenotesLong (front ++ ':' :: ':' :: back)
        (ofGroups (high ++ List.replicate (8 - high.length - low.length) 0 ++ low))

/-- A text denotes an address. -/
inductive Denotes : List Char → IpAddress → Prop
  | short {chars a b c d} (bytes : WritesBytes chars a b c d)
    : Denotes chars (ofBytes a b c d)
  | long {chars address} (groups : DenotesLong chars address)
    : Denotes chars address

-----------------------------------------------------------------------------------------
-- Bytes
-----------------------------------------------------------------------------------------

/-- The number that digits write behind other ones. -/
def decimalFrom (value : Nat) (digits : List Char) : Nat :=
  digits.foldl (fun value c => value * 10 + (c.toNat - '0'.toNat)) value

theorem decimalFrom_eq (value : Nat) (digits : List Char)
    : decimalFrom value digits = Nat.ofDigitChars 10 digits value := by
  induction digits generalizing value with
  | nil => rfl
  | cons c digits ih =>
      rw [Nat.ofDigitChars_cons, ← ih, Nat.mul_comm]
      rfl

/-- A character in a range stands at some place behind the first one. -/
theorem exists_place {c first last : Char} (lower : first ≤ c) (upper : c ≤ last)
    : ∃ place ≤ last.toNat - first.toNat,
        c = Char.ofNat (first.toNat + place) ∧ c.toNat - first.toNat = place := by
  have least : first.toNat ≤ c.toNat := lower
  have greatest : c.toNat ≤ last.toNat := upper
  refine ⟨c.toNat - first.toNat, by omega, ?_, rfl⟩
  rw [Nat.add_sub_cancel' least, Char.ofNat_toNat]

theorem exists_digit {c : Char} (digit : c.isDigit = true)
    : ∃ value < 10, c = Nat.digitChar value ∧ c.toNat - '0'.toNat = value := by
  simp only [Char.isDigit, Bool.and_eq_true, decide_eq_true_eq] at digit
  have digits : ∀ place ≤ 9, Char.ofNat ('0'.toNat + place) = Nat.digitChar place := by decide
  obtain ⟨place, near, same, number⟩ := @exists_place c '0' '9' digit.1 digit.2
  have near : place ≤ 9 := near
  exact ⟨place, by omega, same.trans (digits place near), number⟩

/-- Digits behind a number that is not zero are the digits of a number that go on from its own. -/
theorem toDigits_append {digits : List Char} (decimal : ∀ c ∈ digits, c.isDigit = true)
    {value : Nat} (positive : 0 < value)
    : Nat.toDigits 10 value ++ digits = Nat.toDigits 10 (decimalFrom value digits) := by
  induction digits generalizing value with
  | nil => rw [List.append_nil]; rfl
  | cons c digits ih =>
      obtain ⟨last, small, rfl, same⟩ := exists_digit (decimal _ List.mem_cons_self)
      have one := Nat.toDigits_append_toDigits (by decide : 1 < 10) positive small
      rw [Nat.toDigits_of_lt_base small] at one
      have rest := ih (fun c member => decimal c (List.mem_cons_of_mem _ member))
        (by omega : 0 < 10 * value + last)
      rw [List.append_cons, one, rest]
      simp only [decimalFrom, List.foldl_cons, same, Nat.mul_comm value]

/-- No number but zero begins with a zero. -/
theorem head?_toDigits {value : Nat} (positive : 0 < value)
    : (Nat.toDigits 10 value).head? ≠ some '0' := by
  induction value using Nat.strongRecOn with
  | ind value ih =>
      by_cases small : value < 10
      · rw [Nat.toDigits_of_lt_base small, List.head?_cons]
        intro zero
        have same := Nat.toNat_digitChar_of_lt_ten small
        rw [Option.some.inj zero] at same
        have code : '0'.toNat = 48 := rfl
        omega
      · have fewer := ih (value / 10) (by omega) (by omega)
        rw [Nat.toDigits_of_base_le (by decide) (by omega),
          List.head?_append_of_ne_nil _ Nat.toDigits_ne_nil]
        exact fewer

/-- Digits that do not begin with a needless zero are those of the number that they write. -/
theorem eq_toDigits {digits : List Char} (nonempty : digits ≠ [])
    (decimal : ∀ c ∈ digits, c.isDigit = true) (plain : 1 < digits.length → digits.head? ≠ some '0')
    : digits = Nat.toDigits 10 (decimalFrom 0 digits) := by
  cases digits with
  | nil => exact absurd rfl nonempty
  | cons c rest =>
      obtain ⟨first, small, rfl, same⟩ := exists_digit (decimal _ List.mem_cons_self)
      have others : ∀ c ∈ rest, c.isDigit = true := fun c member =>
        decimal c (List.mem_cons_of_mem _ member)
      have number : decimalFrom 0 (Nat.digitChar first :: rest) = decimalFrom first rest := by
        rw [decimalFrom, List.foldl_cons, same, Nat.zero_mul, Nat.zero_add]
        rfl
      rw [number]
      rcases Nat.eq_zero_or_pos first with rfl | positive
      · cases rest with
        | nil => rfl
        | cons => exact absurd rfl (plain (by simp))
      · rw [← toDigits_append others positive, Nat.toDigits_of_lt_base small,
          List.singleton_append]

/-- A byte is read from digits exactly if they write it. -/
theorem byte?_eq_some_iff {digits : List Char} {value : Nat}
    : byte? digits = some value ↔ WritesByte digits value := by
  have read : byte? digits
      = if (!digits.isEmpty && digits.all Char.isDigit && decide (digits.length ≤ 3))
            && !(decide (1 < digits.length) && digits.head? == some '0')
            && decide (decimalFrom 0 digits ≤ 255)
          then some (decimalFrom 0 digits) else none := by
    rfl
  rw [read]
  constructor
  · intro found
    split at found
    · rename_i good
      obtain rfl := Option.some.inj found
      simp only [Bool.and_eq_true, Bool.not_eq_true', List.isEmpty_eq_false_iff, List.all_eq_true,
        decide_eq_true_eq, Bool.and_eq_false_iff, decide_eq_false_iff_not, beq_eq_false_iff_ne]
        at good
      obtain ⟨⟨⟨⟨nonempty, decimal⟩, _⟩, plain⟩, small⟩ := good
      exact ⟨by omega, eq_toDigits nonempty decimal fun long => plain.resolve_left (by simpa)⟩
    · cases found
  · rintro ⟨small, rfl⟩
    have number : decimalFrom 0 (Nat.toDigits 10 value) = value := by
      rw [decimalFrom_eq, Nat.ofDigitChars_ten_toDigits]
    have decimal : ∀ c ∈ Nat.toDigits 10 value, c.isDigit = true := fun c member =>
      Nat.isDigit_of_mem_toDigits (by decide) (by decide) member
    have short : (Nat.toDigits 10 value).length ≤ 3 :=
      (Nat.length_toDigits_le_iff (by decide) (by decide)).mpr (by omega)
    have plain : (Nat.toDigits 10 value).length ≤ 1 ∨ (Nat.toDigits 10 value).head? ≠ some '0' := by
      rw [Nat.length_toDigits_le_iff (by decide) (by decide)]
      rcases Nat.eq_zero_or_pos value with rfl | positive
      · exact .inl (by decide)
      · exact .inr (head?_toDigits positive)
    rw [number, if_pos]
    simp only [Bool.and_eq_true, Bool.not_eq_true', List.isEmpty_eq_false_iff, List.all_eq_true,
      decide_eq_true_eq, Bool.and_eq_false_iff, decide_eq_false_iff_not, beq_eq_false_iff_ne,
      Nat.not_lt]
    exact ⟨⟨⟨⟨Nat.toDigits_ne_nil, decimal⟩, short⟩, plain⟩, by omega⟩

/-- Neither decimal nor hexadecimal digits are separators. -/
theorem not_mem_of_alphanum {digits : List Char} {separator : Char}
    (word : ∀ c ∈ digits, c.isAlphanum = true) (other : separator.isAlphanum = false)
    : separator ∉ digits := by
  intro member
  rw [word separator member] at other
  cases other

theorem WritesByte.nonempty {digits : List Char} {value : Nat} (byte : WritesByte digits value)
    : digits ≠ [] := by
  rw [byte.plain]
  exact Nat.toDigits_ne_nil

theorem WritesByte.alphanum {digits : List Char} {value : Nat} (byte : WritesByte digits value)
    : ∀ c ∈ digits, c.isAlphanum = true := by
  intro c member
  rw [byte.plain] at member
  have digit : c.isDigit = true := Nat.isDigit_of_mem_toDigits (by decide) (by decide) member
  rw [Char.isAlphanum, digit, Bool.or_true]

theorem WritesByte.not_mem {digits : List Char} {value : Nat} (byte : WritesByte digits value)
    {separator : Char} (other : separator.isAlphanum = false)
    : separator ∉ digits :=
  not_mem_of_alphanum byte.alphanum other

/-- Four bytes are read exactly if the text writes them. -/
theorem shortBytes?_eq_some_iff {chars : List Char} {a b c d : Nat}
    : shortBytes? chars = some (a, b, c, d) ↔ WritesBytes chars a b c d := by
  constructor
  · intro read
    unfold shortBytes? at read
    split at read
    · rename_i first second third fourth cut
      simp only [Option.bind_eq_bind, Option.bind_eq_some_iff, Option.pure_def, Option.some.injEq,
        Prod.mk.injEq, byte?_eq_some_iff] at read
      obtain ⟨_, one, _, two, _, three, _, four, rfl, rfl, rfl, rfl⟩ := read
      obtain ⟨_, rfl, behindFirst⟩ := Text.exists_of_pieces_eq_cons_cons cut
      obtain ⟨_, rfl, behindSecond⟩ := Text.exists_of_pieces_eq_cons_cons behindFirst
      obtain ⟨_, rfl, behindThird⟩ := Text.exists_of_pieces_eq_cons_cons behindSecond
      obtain rfl := Text.eq_of_pieces_eq_singleton behindThird
      exact .mk one two three four
    · cases read
  · rintro ⟨one, two, three, four⟩
    have point : '.'.isAlphanum = false := by decide
    rw [shortBytes?, Text.pieces_append (one.not_mem point), Text.pieces_append (two.not_mem point),
      Text.pieces_append (three.not_mem point), Text.pieces_of_not_mem (four.not_mem point)]
    simp only [byte?_eq_some_iff.mpr one, byte?_eq_some_iff.mpr two, byte?_eq_some_iff.mpr three,
      byte?_eq_some_iff.mpr four]
    rfl

-----------------------------------------------------------------------------------------
-- Groups
-----------------------------------------------------------------------------------------

/-- A hexadecimal digit is read as the number that it writes. -/
theorem hexDigit?_eq_some_iff {c : Char} {value : Nat}
    : Text.hexDigit? c = some value ↔ WritesDigit c value := by
  constructor
  · intro read
    unfold Text.hexDigit? at read
    split at read
    · rename_i digit
      obtain ⟨number, small, rfl, same⟩ := exists_digit digit
      obtain rfl := same.symm.trans (Option.some.inj read)
      exact ⟨by omega, .inl rfl⟩
    · have letters : ∀ place ≤ 5,
          Char.ofNat ('a'.toNat + place) = Nat.digitChar (place + 10)
          ∧ Char.ofNat ('A'.toNat + place) = (Nat.digitChar (place + 10)).toUpper := by
        decide
      split at read
      · rename_i between
        obtain ⟨place, near, same, number⟩ := exists_place between.1 between.2
        rw [number] at read
        obtain rfl := Option.some.inj read
        have near : place ≤ 5 := near
        exact ⟨by omega, .inl (same.trans (letters place near).1)⟩
      · split at read
        · rename_i between
          obtain ⟨place, near, same, number⟩ := exists_place between.1 between.2
          rw [number] at read
          obtain rfl := Option.some.inj read
          have near : place ≤ 5 := near
          exact ⟨by omega, .inr (same.trans (letters place near).2)⟩
        · cases read
  · have all : ∀ value < 16,
        Text.hexDigit? (Nat.digitChar value) = some value
        ∧ Text.hexDigit? (Nat.digitChar value).toUpper = some value := by
      decide
    rintro ⟨small, rfl | rfl⟩
    · exact (all value small).1
    · exact (all value small).2

theorem WritesDigit.alphanum {c : Char} {value : Nat} (digit : WritesDigit c value)
    : c.isAlphanum = true := by
  have all : ∀ value < 16,
      (Nat.digitChar value).isAlphanum = true
      ∧ (Nat.digitChar value).toUpper.isAlphanum = true := by
    decide
  obtain ⟨small, rfl | rfl⟩ := digit
  · exact (all value small).1
  · exact (all value small).2

/-- The number that hexadecimal digits write behind another one, if they are hexadecimal digits. -/
def hexadecimalFrom (value : Nat) (digits : List Char) : Option Nat :=
  digits.foldlM (fun value c => (Text.hexDigit? c).map (value * 16 + ·)) value

theorem hexadecimalFrom_eq_some_iff {digits : List Char} {start value : Nat}
    : hexadecimalFrom start digits = some value
      ↔ ∃ values,
          List.Forall₂ WritesDigit digits values
          ∧ value = start * 16 ^ digits.length + Nat.ofDigits 16 values.reverse := by
  induction digits generalizing start with
  | nil => simp [hexadecimalFrom, eq_comm]
  | cons c digits ih =>
      have read : hexadecimalFrom start (c :: digits)
          = (Text.hexDigit? c).bind fun digit => hexadecimalFrom (start * 16 + digit) digits := by
        rw [hexadecimalFrom, List.foldlM_cons]
        cases Text.hexDigit? c <;> rfl
      have shifted {digit : Nat} {values : List Nat}
          (others : List.Forall₂ WritesDigit digits values)
          : start * 16 ^ (c :: digits).length + Nat.ofDigits 16 (digit :: values).reverse
            = (start * 16 + digit) * 16 ^ digits.length + Nat.ofDigits 16 values.reverse := by
        rw [List.reverse_cons, Nat.ofDigits_append, List.length_reverse, ← others.length_eq,
          List.length_cons, pow_succ, Nat.ofDigits_singleton]
        ring
      rw [read, Option.bind_eq_some_iff]
      simp only [hexDigit?_eq_some_iff, ih, List.forall₂_cons_left_iff]
      constructor
      · rintro ⟨digit, writes, values, others, rfl⟩
        exact ⟨digit :: values, ⟨digit, values, writes, others, rfl⟩, (shifted others).symm⟩
      · rintro ⟨_, ⟨digit, values, writes, others, rfl⟩, rfl⟩
        exact ⟨digit, writes, values, others, shifted others⟩

theorem group?_eq_some_iff {digits : List Char} {value : Nat}
    : group? digits = some value ↔ WritesGroup digits value := by
  have read : group? digits
      = if digits.isEmpty || decide (4 < digits.length) then none
        else hexadecimalFrom 0 digits := by
    rfl
  have number := @hexadecimalFrom_eq_some_iff digits 0 value
  simp only [Nat.zero_mul, Nat.zero_add] at number
  rw [read]
  constructor
  · intro found
    split at found
    · cases found
    · rename_i good
      simp only [Bool.or_eq_true, List.isEmpty_iff, decide_eq_true_eq, not_or, Nat.not_lt] at good
      exact ⟨good.1, good.2, number.mp found⟩
  · rintro ⟨nonempty, short, values⟩
    rw [if_neg, number.mpr values]
    simp only [Bool.or_eq_true, List.isEmpty_iff, decide_eq_true_eq, not_or, Nat.not_lt]
    exact ⟨nonempty, short⟩

theorem WritesGroup.alphanum {digits : List Char} {value : Nat} (group : WritesGroup digits value)
    : ∀ c ∈ digits, c.isAlphanum = true := by
  intro c member
  obtain ⟨values, writes, _⟩ := group.value
  obtain ⟨place, inside, rfl⟩ := List.getElem_of_mem member
  exact (writes.get inside (writes.length_eq ▸ inside)).alphanum

theorem WritesGroup.not_mem {digits : List Char} {value : Nat} (group : WritesGroup digits value)
    {separator : Char} (other : separator.isAlphanum = false)
    : separator ∉ digits :=
  not_mem_of_alphanum group.alphanum other

theorem WritesBytes.not_mem {chars : List Char} {a b c d : Nat} (bytes : WritesBytes chars a b c d)
    {separator : Char} (other : separator.isAlphanum = false) (differs : separator ≠ '.')
    : separator ∉ chars := by
  obtain ⟨one, two, three, four⟩ := bytes
  simp [one.not_mem other, two.not_mem other, three.not_mem other, four.not_mem other, differs]

theorem WritesBytes.point_mem {chars : List Char} {a b c d : Nat}
    (bytes : WritesBytes chars a b c d)
    : '.' ∈ chars := by
  obtain ⟨one, two, three, four⟩ := bytes
  simp

theorem groups?_cons {mayEnd : Bool} {piece : List Char} {others : List (List Char)}
    (more : others ≠ [])
    : groups? mayEnd (piece :: others)
      = (group? piece).bind fun group => (groups? mayEnd others).map (group :: ·) := by
  cases others with
  | nil => exact absurd rfl more
  | cons next rest =>
      rw [groups?]
      · cases group? piece with
        | none => rfl
        | some group => cases groups? mayEnd (next :: rest) <;> rfl
      · simp

theorem groups?_singleton {mayEnd : Bool} {piece : List Char} {groups : List Nat}
    : groups? mayEnd [piece] = some groups
      ↔ (∃ value, WritesGroup piece value ∧ groups = [value])
        ∨ mayEnd = true
          ∧ ∃ a b c d, WritesBytes piece a b c d ∧ groups = [a * 256 + b, c * 256 + d] := by
  have point : '.'.isAlphanum = false := by decide
  rw [groups?]
  split
  · rename_i short
    rw [Bool.and_eq_true, List.contains_iff_mem] at short
    constructor
    · intro read
      simp only [Option.bind_eq_bind, Option.bind_eq_some_iff, Option.pure_def,
        Option.some.injEq] at read
      obtain ⟨⟨a, b, c, d⟩, bytes, rfl⟩ := read
      exact .inr ⟨short.1, a, b, c, d, shortBytes?_eq_some_iff.mp bytes, rfl⟩
    · rintro (⟨value, group, rfl⟩ | ⟨_, a, b, c, d, bytes, rfl⟩)
      · exact absurd short.2 (group.not_mem point)
      · rw [shortBytes?_eq_some_iff.mpr bytes]
        rfl
  · rename_i long
    rw [Bool.and_eq_true, List.contains_iff_mem, not_and] at long
    constructor
    · intro read
      obtain ⟨value, group, rfl⟩ := Option.map_eq_some_iff.mp read
      exact .inl ⟨value, group?_eq_some_iff.mp group, rfl⟩
    · rintro (⟨value, group, rfl⟩ | ⟨ends, a, b, c, d, bytes, rfl⟩)
      · rw [group?_eq_some_iff.mpr group]
        rfl
      · exact absurd bytes.point_mem (long ends)

/-- Groups are read from the pieces between colons exactly if the text writes them; by induction on
the number of pieces.
-/
theorem groups?_pieces_iff {mayEnd : Bool} {chars : List Char} {groups : List Nat}
    : groups? mayEnd (Text.pieces ':' chars) = some groups ↔ WritesGroups mayEnd chars groups := by
  have colon : ':'.isAlphanum = false := by decide
  constructor
  · intro read
    induction cut : Text.pieces ':' chars generalizing chars groups with
    | nil => exact absurd cut (Text.pieces_ne_nil ':' chars)
    | cons piece others ih =>
        rw [cut] at read
        cases others with
        | nil =>
            obtain rfl := Text.eq_of_pieces_eq_singleton cut
            obtain ⟨value, group, rfl⟩ | ⟨ends, a, b, c, d, bytes, rfl⟩ := groups?_singleton.mp read
            · exact .last group
            · exact .bytes ends bytes
        | cons next rest =>
            obtain ⟨behind, rfl, others⟩ := Text.exists_of_pieces_eq_cons_cons cut
            rw [groups?_cons (List.cons_ne_nil next rest), Option.bind_eq_some_iff] at read
            obtain ⟨value, group, read⟩ := read
            obtain ⟨values, rest, rfl⟩ := Option.map_eq_some_iff.mp read
            exact .more (group?_eq_some_iff.mp group) (ih (others ▸ rest) others)
  · intro writes
    induction writes with
    | last group =>
        rw [Text.pieces_of_not_mem (group.not_mem colon)]
        exact groups?_singleton.mpr (.inl ⟨_, group, rfl⟩)
    | bytes ends bytes =>
        rw [Text.pieces_of_not_mem (bytes.not_mem colon (by decide))]
        exact groups?_singleton.mpr (.inr ⟨ends, _, _, _, _, bytes, rfl⟩)
    | more group others ih =>
        rw [Text.pieces_append (group.not_mem colon), groups?_cons (Text.pieces_ne_nil ':' _), ih,
          group?_eq_some_iff.mpr group]
        rfl

/-- Text that begins with digits does not begin with a separator. -/
theorem exists_head_of_alphanum {digits : List Char} (nonempty : digits ≠ [])
    (word : ∀ c ∈ digits, c.isAlphanum = true) (behind : List Char)
    : ∃ c rest, digits ++ behind = c :: rest ∧ c.isAlphanum = true := by
  cases digits with
  | nil => exact absurd rfl nonempty
  | cons c rest => exact ⟨c, rest ++ behind, rfl, word c List.mem_cons_self⟩

theorem WritesGroups.exists_head {mayEnd : Bool} {chars : List Char} {groups : List Nat}
    (row : WritesGroups mayEnd chars groups)
    : ∃ c rest, chars = c :: rest ∧ c.isAlphanum = true := by
  cases row with
  | last group =>
      simpa using exists_head_of_alphanum group.nonempty group.alphanum []
  | bytes _ bytes =>
      obtain ⟨one, _, _, _⟩ := bytes
      exact exists_head_of_alphanum one.nonempty one.alphanum _
  | more group => exact exists_head_of_alphanum group.nonempty group.alphanum _

theorem WritesGroups.ne_nil {mayEnd : Bool} {chars : List Char} {groups : List Nat}
    (row : WritesGroups mayEnd chars groups)
    : chars ≠ [] := by
  obtain ⟨c, rest, rfl, _⟩ := row.exists_head
  exact List.cons_ne_nil c rest

theorem side?_eq_some_iff {mayEnd : Bool} {chars : List Char} {groups : List Nat}
    : side? mayEnd chars = some groups ↔ WritesSide mayEnd chars groups := by
  unfold side?
  split
  · rename_i empty
    rw [List.isEmpty_iff] at empty
    subst empty
    constructor
    · intro read
      obtain rfl := Option.some.inj read
      exact .nothing
    · intro side
      cases side with
      | nothing => rfl
      | groups row => exact absurd rfl row.ne_nil
  · rename_i some
    rw [groups?_pieces_iff]
    constructor
    · exact .groups
    · intro side
      cases side with
      | nothing => exact absurd rfl some
      | groups row => exact row

-----------------------------------------------------------------------------------------
-- Double colons
-----------------------------------------------------------------------------------------

theorem eq_of_cutDouble {chars front back : List Char} (cut : cutDouble chars = some (front, back))
    : chars = front ++ ':' :: ':' :: back := by
  fun_induction cutDouble chars generalizing front with
  | case1 rest =>
      cases cut
      rfl
  | case2 c rest other ih =>
      obtain ⟨⟨before, behind⟩, deeper, same⟩ := Option.map_eq_some_iff.mp cut
      cases same
      rw [ih deeper, List.cons_append]
  | case3 => cases cut

theorem cutDouble_cons {c : Char} {rest : List Char} (single : c = ':' → rest.head? ≠ some ':')
    : cutDouble (c :: rest) = (cutDouble rest).map fun cut => (c :: cut.1, cut.2) := by
  rw [cutDouble]
  rintro behind rfl rfl
  exact single rfl rfl

theorem cutDouble_append {digits : List Char} (absent : ':' ∉ digits) (rest : List Char)
    : cutDouble (digits ++ rest) = (cutDouble rest).map fun cut => (digits ++ cut.1, cut.2) := by
  induction digits with
  | nil => simp
  | cons c digits ih =>
      simp only [List.mem_cons, not_or] at absent
      rw [List.cons_append, cutDouble_cons fun colon => absurd colon.symm absent.1, ih absent.2,
        Option.map_map]
      rfl

/-- Groups have no double colon, nor do they make one with what follows; by induction on them. -/
theorem WritesGroups.cutDouble_append {mayEnd : Bool} {chars : List Char} {groups : List Nat}
    (row : WritesGroups mayEnd chars groups) (rest : List Char)
    : cutDouble (chars ++ rest) = (cutDouble rest).map fun cut => (chars ++ cut.1, cut.2) := by
  have colon : ':'.isAlphanum = false := by decide
  induction row with
  | last group => exact IpAddress.cutDouble_append (group.not_mem colon) rest
  | bytes _ bytes => exact IpAddress.cutDouble_append (bytes.not_mem colon (by decide)) rest
  | more group others ih =>
      obtain ⟨c, behind, rfl, word⟩ := others.exists_head
      have single : (c :: behind ++ rest).head? ≠ some ':' := by
        rintro same
        obtain rfl := Option.some.inj same
        cases colon.symm.trans word
      rw [List.append_assoc, IpAddress.cutDouble_append (group.not_mem colon), List.cons_append,
        cutDouble_cons fun _ => single, ih, Option.map_map, Option.map_map]
      simp only [Function.comp_def, List.append_assoc, List.cons_append]

theorem WritesSide.cutDouble_eq {mayEnd : Bool} {front : List Char} {groups : List Nat}
    (side : WritesSide mayEnd front groups) (back : List Char)
    : cutDouble (front ++ ':' :: ':' :: back) = some (front, back) := by
  have double : cutDouble (':' :: ':' :: back) = some ([], back) := by rw [cutDouble]
  cases side with
  | nothing => exact double
  | groups row => rw [row.cutDouble_append, double, Option.map_some, List.append_nil]

-----------------------------------------------------------------------------------------
-- Addresses
-----------------------------------------------------------------------------------------

/-- A text with colons is read as the long address that it denotes. -/
theorem long?_eq_some_iff {chars : List Char} {address : IpAddress}
    : long? chars = some address ↔ DenotesLong chars address := by
  constructor
  · intro read
    unfold long? at read
    split at read
    · rename_i cut
      simp only [Option.bind_eq_bind, Option.bind_eq_some_iff] at read
      obtain ⟨groups, row, read⟩ := read
      split at read
      · rename_i eight
        obtain rfl := Option.some.inj read
        cases side?_eq_some_iff.mp row with
        | nothing => cases eight
        | groups row => exact .all row eight
      · cases read
    · rename_i front back cut
      obtain rfl := eq_of_cutDouble cut
      simp only [Option.bind_eq_bind, Option.bind_eq_some_iff] at read
      obtain ⟨high, before, low, behind, read⟩ := read
      split at read
      · rename_i fewer
        obtain rfl := Option.some.inj read
        exact .shortened (side?_eq_some_iff.mp before) (side?_eq_some_iff.mp behind) fewer
      · cases read
  · intro denotes
    cases denotes with
    | all row eight =>
        have single := row.cutDouble_append []
        rw [List.append_nil] at single
        rw [long?, single, side?_eq_some_iff.mpr (.groups row)]
        simp [cutDouble, eight]
    | shortened before behind fewer =>
        simp only [long?, before.cutDouble_eq, side?_eq_some_iff.mpr before,
          side?_eq_some_iff.mpr behind, Option.bind_eq_bind, Option.bind_some, fewer, if_true]

/-- A character that ends digits: a point or a colon. -/
def isSeparator (c : Char) : Bool := c == '.' || c == ':'

/-- Behind digits the first separator of a text is the one that stands there. -/
theorem find?_isSeparator {digits : List Char} (word : ∀ c ∈ digits, c.isAlphanum = true)
    {separator : Char} (known : isSeparator separator = true) (behind : List Char)
    : (digits ++ separator :: behind).find? isSeparator = some separator := by
  have none : digits.find? isSeparator = none := by
    rw [List.find?_eq_none]
    intro c member found
    have separators : isSeparator c = true → c.isAlphanum = false := by
      simp only [isSeparator, Bool.or_eq_true, beq_iff_eq]
      rintro (rfl | rfl) <;> decide
    cases (separators found).symm.trans (word c member)
  rw [List.find?_append, none, Option.none_or, List.find?_cons_of_pos known]

theorem WritesBytes.find?_eq {chars : List Char} {a b c d : Nat} (bytes : WritesBytes chars a b c d)
    : chars.find? isSeparator = some '.' := by
  obtain ⟨one, _, _, _⟩ := bytes
  exact find?_isSeparator one.alphanum (by decide) _

/-- Where the text may not end, a colon follows the first group. -/
theorem WritesGroups.find?_eq {chars : List Char} {groups : List Nat}
    (row : WritesGroups false chars groups) (behind : List Char)
    : (chars ++ ':' :: behind).find? isSeparator = some ':' := by
  cases row with
  | last group => exact find?_isSeparator group.alphanum (by decide) behind
  | bytes ends => cases ends
  | more group =>
      rw [List.append_assoc]
      exact find?_isSeparator group.alphanum (by decide) _

theorem DenotesLong.find?_eq {chars : List Char} {address : IpAddress}
    (denotes : DenotesLong chars address)
    : chars.find? isSeparator = some ':' := by
  cases denotes with
  | all row eight =>
      cases row with
      | last => cases eight
      | bytes => cases eight
      | more group => exact find?_isSeparator group.alphanum (by decide) _
  | shortened before =>
      cases before with
      | nothing => rfl
      | groups row => exact row.find?_eq _

/-- A text is read as the address that it denotes, and as none if it denotes none. -/
theorem ofChars?_eq_some_iff {chars : List Char} {address : IpAddress}
    : ofChars? chars = some address ↔ Denotes chars address := by
  constructor
  · intro read
    unfold ofChars? at read
    split at read
    · obtain ⟨⟨a, b, c, d⟩, bytes, rfl⟩ := Option.map_eq_some_iff.mp read
      exact .short (shortBytes?_eq_some_iff.mp bytes)
    · exact .long (long?_eq_some_iff.mp read)
    · cases read
  · intro denotes
    cases denotes with
    | short bytes =>
        have point : chars.find? (fun c => c == '.' || c == ':') = some '.' := bytes.find?_eq
        rw [ofChars?, point, shortBytes?_eq_some_iff.mpr bytes]
        rfl
    | long groups =>
        have colon : chars.find? (fun c => c == '.' || c == ':') = some ':' := groups.find?_eq
        rw [ofChars?, colon]
        exact long?_eq_some_iff.mpr groups

-----------------------------------------------------------------------------------------
-- What the texts of addresses are made of
-----------------------------------------------------------------------------------------

/-- Digits and separators are all that a text is made of. -/
def IsPlain (chars : List Char) : Prop := ∀ c ∈ chars, c.isAlphanum = true ∨ isSeparator c = true

theorem IsPlain.nil : IsPlain [] :=
  fun _ member => absurd member List.not_mem_nil

theorem IsPlain.of_alphanum {digits : List Char} (word : ∀ c ∈ digits, c.isAlphanum = true)
    : IsPlain digits :=
  fun c member => .inl (word c member)

theorem IsPlain.not_mem {chars : List Char} (plain : IsPlain chars) {c : Char}
    (other : c.isAlphanum = false) (unknown : isSeparator c = false)
    : c ∉ chars := by
  intro member
  rcases plain c member with word | known
  · cases other.symm.trans word
  · cases unknown.symm.trans known

theorem IsPlain.append_cons {front back : List Char} {c : Char} (known : isSeparator c = true)
    (before : IsPlain front) (behind : IsPlain back)
    : IsPlain (front ++ c :: back) := by
  intro other member
  rcases List.mem_append.mp member with inFront | inRest
  · exact before other inFront
  · rcases List.mem_cons.mp inRest with rfl | inBack
    · exact .inr known
    · exact behind other inBack

theorem WritesBytes.isPlain {chars : List Char} {a b c d : Nat} (bytes : WritesBytes chars a b c d)
    : IsPlain chars := by
  have point : isSeparator '.' = true := by decide
  obtain ⟨one, two, three, four⟩ := bytes
  exact .append_cons point (.of_alphanum one.alphanum)
    (.append_cons point (.of_alphanum two.alphanum)
      (.append_cons point (.of_alphanum three.alphanum) (.of_alphanum four.alphanum)))

theorem WritesGroups.isPlain {mayEnd : Bool} {chars : List Char} {groups : List Nat}
    (row : WritesGroups mayEnd chars groups)
    : IsPlain chars := by
  induction row with
  | last group => exact .of_alphanum group.alphanum
  | bytes _ bytes => exact bytes.isPlain
  | more group _ ih => exact .append_cons (by decide) (.of_alphanum group.alphanum) ih

theorem WritesSide.isPlain {mayEnd : Bool} {chars : List Char} {groups : List Nat}
    (side : WritesSide mayEnd chars groups)
    : IsPlain chars := by
  cases side with
  | nothing => exact .nil
  | groups row => exact row.isPlain

theorem Denotes.isPlain {chars : List Char} {address : IpAddress} (denotes : Denotes chars address)
    : IsPlain chars := by
  have colon : isSeparator ':' = true := by decide
  cases denotes with
  | short bytes => exact bytes.isPlain
  | long groups =>
      cases groups with
      | all row => exact row.isPlain
      | shortened before behind =>
          exact .append_cons colon before.isPlain (.append_cons colon .nil behind.isPlain)

/-- Of two groups that stand side by side, only the last two may lack the colon between them. -/
theorem WritesGroups.length_le {mayEnd : Bool} {chars : List Char} {groups : List Nat}
    (row : WritesGroups mayEnd chars groups)
    : groups.length ≤ chars.count ':' + 2 := by
  induction row with
  | last => simp
  | bytes => simp
  | more group others ih =>
      rw [List.count_append, List.count_cons_self, List.length_cons]
      omega

theorem DenotesLong.two_le_count {chars : List Char} {address : IpAddress}
    (denotes : DenotesLong chars address)
    : 2 ≤ chars.count ':' := by
  cases denotes with
  | all row eight =>
      have fewer := row.length_le
      omega
  | shortened =>
      rw [List.count_append, List.count_cons_self, List.count_cons_self]
      omega

end TapeMachine.Network.IpAddress
